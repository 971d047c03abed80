import Anteroom.Proofs.Registration

/-!
# What sessions are handed

The read loop takes datagrams from the backlog one at a time, in the order in
which they have arrived.  A session is handed those that the read loop takes
from its peer while it is registered, all of them and no others; nothing else
comes of such a datagram than that its session may refuse it.
-/

namespace Anteroom

/-- The datagram that arrives with a step.  It is read up to its first 1500 bytes. -/
def Step.arrival? : Step → Option Delivery
  | .command (.deliver peer datagram) => some { peer, datagram := datagram.take 1500 }
  | _ => none

/-- No datagram that arrives is longer than what is read. -/
theorem Step.length_le_of_arrival? {step : Step} {delivery : Delivery}
    (arrives : step.arrival? = some delivery) : delivery.datagram.length ≤ 1500 := by
  cases step with
  | command command =>
      cases command with
      | deliver peer datagram =>
          cases arrives
          exact List.length_take_le 1500 datagram
      | _ => cases arrives
  | _ => cases arrives

namespace Registry

/-- What a session has been handed; nothing, if it does not exist yet. -/
def handed (registry : Registry) (number : Nat) : List Bytes :=
  registry.look Session.handed [] number

theorem handed_closeSession (registry : Registry) (number other : Nat) :
    (registry.closeSession number).1.handed other = registry.handed other := by
  rw [closeSession_eq]
  exact registry.look_modify _ _ number Session.handed_close other

theorem handed_closeEach (registry : Registry) (numbers : List Nat) (other : Nat) :
    (registry.closeEach numbers).1.handed other = registry.handed other := by
  induction numbers generalizing registry with
  | nil => rfl
  | cons number numbers ih => rw [closeEach_cons, ih, handed_closeSession]

/-- Handing a datagram to a session adds it to what this session has been handed. -/
theorem handed_receive {registry : Registry} {number : Nat} {session : Session}
    (found : registry.session? number = some session) (datagram : Bytes) (other : Nat) :
    (registry.modify number fun _ => (session.receive datagram).1).handed other =
      registry.handed other ++ if number = other then [datagram] else [] := by
  rw [handed, handed, look, look, session?_modify]
  split
  · rename_i same
    subst same
    rw [found]
    exact session.handed_receive datagram
  · exact (List.append_nil _).symm

end Registry

namespace Listener

/-- The datagram that a step takes from the backlog. -/
def taken? (l : Listener) : Step → Option Delivery
  | .move .handle => l.backlog.head?
  | _ => none

/-- The datagrams that the read loop takes along a schedule, each with the state in which it takes
it. -/
def readings (l : Listener) : List Step → List (Listener × Delivery)
  | [] => []
  | step :: steps =>
      match l.after? step with
      | some next => (l.taken? step).toList.map (l, ·) ++ next.readings steps
      | none => []

theorem readings_cons {l next : Listener} {step : Step} (after : l.after? step = some next)
    (steps : List Step) :
    l.readings (step :: steps) = (l.taken? step).toList.map (l, ·) ++ next.readings steps := by
  rw [readings, after]

theorem readings_append {l middle : Listener} {first : List Step}
    (followed : l.follow first = some middle) (second : List Step) :
    l.readings (first ++ second) = l.readings first ++ middle.readings second := by
  induction first generalizing l with
  | nil =>
      cases followed
      rfl
  | cons step steps ih =>
      rcases follow_cons_eq_some_iff.mp followed with ⟨next, after, rest⟩
      rw [List.cons_append, readings_cons after, readings_cons after, ih rest, List.append_assoc]

/-! ## Datagrams are taken in order -/

theorem Issued.backlog {l next : Listener} {command : Command} (issued : Issued l command next) :
    next.backlog = l.backlog ++ (Step.command command).arrival?.toList := by
  cases issued with
  | ignored idle =>
      cases command with
      | deliver => cases idle
      | _ => exact (List.append_nil _).symm
  | arrived => rfl
  | _ => exact (List.append_nil _).symm

theorem Moved.backlog {l next : Listener} {move : Move} (moved : Moved l move next) :
    (l.taken? (.move move)).toList ++ next.backlog = l.backlog := by
  cases moved with
  | handled backlog =>
      rw [(handled_handle _ _ _).eq_update, taken?, backlog]
      rfl
  | _ => rfl

/-- A step takes the oldest datagram or none, and adds the one that arrives. -/
theorem Went.backlog {l next : Listener} {step : Step} (went : Went l step next) :
    (l.taken? step).toList ++ next.backlog = l.backlog ++ step.arrival?.toList := by
  cases went with
  | command issued => exact issued.backlog
  | move moved => exact moved.backlog.trans (List.append_nil _).symm
  | closeSessions => exact (List.append_nil _).symm

/-- What the read loop has taken, and then what is in the backlog, is what has arrived. -/
theorem readings_append_backlog {l last : Listener} {steps : List Step}
    (followed : l.follow steps = some last) :
    (l.readings steps).map Prod.snd ++ last.backlog =
      l.backlog ++ steps.filterMap Step.arrival? := by
  induction steps generalizing l with
  | nil =>
      cases followed
      exact (List.append_nil _).symm
  | cons step steps ih =>
      rcases follow_cons_eq_some_iff.mp followed with ⟨next, after, rest⟩
      have first := (went_of_after? after).backlog
      have arrivals : (step :: steps).filterMap Step.arrival? =
          step.arrival?.toList ++ steps.filterMap Step.arrival? := by
        cases arrival : step.arrival? <;> simp [arrival]
      calc
        (l.readings (step :: steps)).map Prod.snd ++ last.backlog =
            (l.taken? step).toList ++ ((next.readings steps).map Prod.snd ++ last.backlog) := by
          rw [readings_cons after]
          simp [Function.comp_def]
        _ = ((l.taken? step).toList ++ next.backlog) ++ steps.filterMap Step.arrival? := by
          rw [ih rest, List.append_assoc]
        _ = l.backlog ++ (step :: steps).filterMap Step.arrival? := by
          rw [first, arrivals, List.append_assoc]

theorem length_le_of_mem_backlog {setup : Setup} {steps : List Step} {l : Listener}
    (followed : (start setup).follow steps = some l) {delivery : Delivery}
    (waits : delivery ∈ l.backlog) : delivery.datagram.length ≤ 1500 := by
  have arrived : delivery ∈ (start setup).backlog ++ steps.filterMap Step.arrival? := by
    rw [← readings_append_backlog followed]
    exact List.mem_append_right _ waits
  rcases List.mem_filterMap.mp arrived with ⟨step, -, arrives⟩
  exact Step.length_le_of_arrival? arrives

/-! ## Datagrams go to their session -/

/-- What a step hands to a session: the datagram it takes, if the session is registered for its
sender. -/
def gives (l : Listener) (step : Step) (number : Nat) : List Bytes :=
  ((l.taken? step).toList.filter fun delivery => l.sessionOf? delivery.peer = some number).map
    Delivery.datagram

theorem gives_handle {l : Listener} {delivery : Delivery} {deliveries : List Delivery}
    (backlog : l.backlog = delivery :: deliveries) (number : Nat) :
    l.gives (.move .handle) number =
      if l.sessionOf? delivery.peer = some number then [delivery.datagram] else [] := by
  rw [gives, taken?, backlog, List.head?_cons, Option.toList_some, List.filter_cons,
    List.filter_nil]
  simp only [decide_eq_true_eq]
  split <;> rfl

theorem Issued.handed {l next : Listener} {command : Command} (issued : Issued l command next)
    (number : Nat) : next.registry.handed number = l.registry.handed number := by
  cases issued with
  | fired => exact l.registry.look_modify _ _ _ (fun session => session.handed_fire _) number
  | closedSession => exact l.registry.look_modify _ _ _ Session.handed_close number
  | readSession => exact l.registry.look_modify _ _ _ Session.handed_recv number
  | _ => rfl

theorem Handled.handed {l next : Listener} {peer : Address} {datagram : Bytes}
    (handled : Handled l peer datagram next) (sound : l.registry.Sound) (number : Nat) :
    next.registry.handed number =
      l.registry.handed number ++ if l.sessionOf? peer = some number then [datagram] else [] := by
  have nothing : l.sessionOf? peer = none →
      (if l.sessionOf? peer = some number then [datagram] else []) = [] := by
    intro unregistered
    rw [unregistered]
    rfl
  cases handled with
  | @forwarded owner session registered found =>
      rw [registered]
      apply (Registry.handed_receive found datagram number).trans
      simp only [Option.some.injEq]
  | @unclaimed owner registered unknown =>
      rcases sound.keyed registered with ⟨session, known, _⟩
      rw [unknown] at known
      cases known
  | answered unregistered =>
      rw [nothing unregistered, List.append_nil]
      rfl
  | failed unregistered =>
      rw [nothing unregistered, List.append_nil]
      rfl
  | @negotiated server mtu guid session unregistered decoded reached planned =>
      have fresh : session.handed = [] := (Plan.fresh_of_session? planned).2.2.2.2.1
      rw [nothing unregistered, List.append_nil, offer]
      split <;> exact l.registry.look_enroll _ _ fresh number

theorem Moved.handed {l next : Listener} {move : Move} (moved : Moved l move next)
    (sound : l.registry.Sound) (number : Nat) :
    next.registry.handed number = l.registry.handed number ++ l.gives (.move move) number := by
  cases moved with
  | @expired index candidate =>
      refine Eq.trans ?_ (List.append_nil _).symm
      exact (Registry.look_unregister _ _ _ _ _).trans (l.registry.handed_closeSession _ number)
  | evicted => exact (l.registry.look_unregister _ _ _ number).trans (List.append_nil _).symm
  | @handled delivery deliveries backlog =>
      have handed := (handled_handle { l with backlog := deliveries } delivery.peer
        delivery.datagram).handed sound number
      rw [l.gives_handle backlog number]
      exact handed
  | _ => exact (List.append_nil _).symm

/-- A step hands to a session what it takes for it, and nothing else. -/
theorem Went.handed {l next : Listener} {step : Step} (went : Went l step next)
    (sound : l.registry.Sound) (number : Nat) :
    next.registry.handed number = l.registry.handed number ++ l.gives step number := by
  cases went with
  | command issued => exact (issued.handed number).trans (List.append_nil _).symm
  | move moved => exact moved.handed sound number
  | closeSessions =>
      exact (l.registry.handed_closeEach _ number).trans (List.append_nil _).symm

/-- A session has been handed what the read loop has taken for it. -/
theorem handed_follow {l last : Listener} {steps : List Step}
    (followed : l.follow steps = some last)
    (sound : l.registry.Sound) (number : Nat) :
    last.registry.handed number =
      l.registry.handed number ++
        ((l.readings steps).filter fun reading =>
          reading.1.sessionOf? reading.2.peer = some number).map fun reading =>
            reading.2.datagram := by
  induction steps generalizing l with
  | nil =>
      cases followed
      exact (List.append_nil _).symm
  | cons step steps ih =>
      rcases follow_cons_eq_some_iff.mp followed with ⟨next, after, rest⟩
      have went := went_of_after? after
      rw [ih rest (went.became.sound sound), went.handed sound number, readings_cons after,
        List.filter_append, List.map_append, List.append_assoc, List.filter_map, List.map_map]
      rfl

/-- The states in which datagrams are taken lead to the last one. -/
theorem mem_readings {l last : Listener} {steps : List Step} (followed : l.follow steps = some last)
    (sound : l.registry.Sound) {reading : Listener × Delivery}
    (member : reading ∈ l.readings steps) :
    reading.1.registry.Sound ∧ reading.1.registry.Advances last.registry := by
  induction steps generalizing l with
  | nil => cases member
  | cons step steps ih =>
      rcases follow_cons_eq_some_iff.mp followed with ⟨next, after, rest⟩
      rw [readings_cons after] at member
      rcases List.mem_append.mp member with now | later
      · rcases List.mem_map.mp now with ⟨delivery, _, rfl⟩
        exact ⟨sound, advances_follow followed⟩
      · exact ih rest ((went_of_after? after).became.sound sound) later

/-- A datagram is taken for a session exactly if it comes from the session's peer while the
session is registered. -/
theorem sessionOf?_reading {last : Listener} {reading : Listener × Delivery}
    (sound : reading.1.registry.Sound) (advances : reading.1.registry.Advances last.registry)
    {number : Nat} {session : Session} (known : last.registry.session? number = some session) :
    reading.1.sessionOf? reading.2.peer = some number ↔
      reading.1.sessionOf? session.address = some number ∧ reading.2.peer = session.address := by
  constructor
  · intro registered
    rcases sound.keyed registered with ⟨before, was, keyed⟩
    rcases advances.sessions was with ⟨later, is, advance⟩
    rw [known] at is
    cases is
    have same : reading.2.peer = session.address := keyed.symm.trans advance.address.symm
    exact ⟨same ▸ registered, same⟩
  · rintro ⟨registered, same⟩
    rw [same]
    exact registered

/-- What comes of a datagram that is taken for a session: the session is handed it, and its
refusal, if it refuses the datagram, is reported. -/
def forwardTo (l : Listener) (peer : Address) (datagram : Bytes) (number : Nat)
    (session : Session) : Listener :=
  ({ l with
    registry := l.registry.modify number fun session => (session.receive datagram).1
    } : Listener).recordAll
    (.handled peer datagram (some number) ::
      (session.receive datagram).2.toList.map fun refusal => .reported peer (.session refusal))

theorem Handled.of_registered {l next : Listener} {peer : Address} {datagram : Bytes}
    (handled : Handled l peer datagram next) (sound : l.registry.Sound) {number : Nat}
    (registered : l.sessionOf? peer = some number) :
    ∃ session, l.registry.session? number = some session ∧ session.address = peer ∧
      next = l.forwardTo peer datagram number session := by
  rcases sound.keyed registered with ⟨session, known, keyed⟩
  refine ⟨session, known, keyed, ?_⟩
  cases handled with
  | forwarded again found =>
      rw [registered] at again
      cases again
      rw [known] at found
      cases found
      rw [forwardTo, Registry.modify_const known fun session => (session.receive datagram).1]
  | unclaimed again unknown =>
      rw [registered] at again
      cases again
      rw [known] at unknown
      cases unknown
  | answered unregistered | failed unregistered | negotiated unregistered =>
      rw [registered] at unregistered
      cases unregistered

/-- Along every schedule the datagrams that have arrived, each cut to 1500 bytes, are those that
the read loop has taken and those in the backlog, in order; a session has been handed exactly
those taken from its peer while it was registered; and a datagram of a peer with a registered
session does no more than what `forwardTo` says, whatever its bytes. -/
theorem handed_eq_readings {setup : Setup} {steps : List Step} {l : Listener}
    (followed : (start setup).follow steps = some l) :
    ((start setup).readings steps).map Prod.snd ++ l.backlog = steps.filterMap Step.arrival? ∧
    (∀ number session, l.registry.session? number = some session →
      session.handed =
        (((start setup).readings steps).filter fun reading =>
          reading.1.sessionOf? session.address = some number ∧
            reading.2.peer = session.address).map fun reading => reading.2.datagram) ∧
    (∀ delivery deliveries number next, l.backlog = delivery :: deliveries →
      l.sessionOf? delivery.peer = some number → l.move? .handle = some next →
      ∃ session, l.registry.session? number = some session ∧ session.address = delivery.peer ∧
        next = ({ l with backlog := deliveries } : Listener).forwardTo delivery.peer
          delivery.datagram number session) := by
  refine ⟨readings_append_backlog followed, ?_, ?_⟩
  · intro number session known
    have handed := handed_follow followed Registry.sound_empty number
    rw [Registry.handed, Registry.look_eq _ _ known] at handed
    refine handed.trans (congrArg (List.map _) (List.filter_congr ?_))
    intro reading member
    rcases mem_readings followed Registry.sound_empty member with ⟨sound, advances⟩
    exact decide_eq_decide.mpr (sessionOf?_reading sound advances known)
  · intro delivery deliveries number next backlog registered enabled
    cases moved_of_move? enabled with
    | handled again =>
        rw [backlog] at again
        cases again
        have sound := sound_follow followed
        exact (handled_handle { l with backlog := deliveries } _ _).of_registered sound registered

/-- A ping from a client with a session goes to the session. -/
theorem handed_eq_readings_of_ping :
    ∃ l session, (start .plain).follow (handshake (.v4 0x7F000001 4000) ++
        [.command (.deliver (.v4 0x7F000001 4000) (Message.unconnectedPing 1 9).encode),
          .move .handle]) = some l ∧
      l.registry.session? 0 = some session ∧
      session.handed = [(Message.unconnectedPing 1 9).encode] := by
  have followed : (start .plain).follow (handshake (.v4 0x7F000001 4000) ++
      [.command (.deliver (.v4 0x7F000001 4000) (Message.unconnectedPing 1 9).encode),
        .move .handle]) = some _ := rfl
  exact ⟨_, _, followed, rfl, (handed_eq_readings followed).2.1 0 _ rfl⟩

end Listener

end Anteroom
