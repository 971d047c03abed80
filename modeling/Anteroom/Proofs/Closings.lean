import Anteroom.Proofs.Pipeline

/-!
# Who closes sessions

A session is closed by the application that has it, or by the listener: when
its time to complete is up, or when the listener shuts down.  The listener
closes no session twice, because a session that it has closed has left the
table, and in the end only what is in the table is closed.
-/

namespace Anteroom

/-- Whether an event tells that the listener has closed a session. -/
def Event.closes (number : Nat) : Event → Bool
  | .expired session => session = number
  | .shut session => session = number
  | _ => false

theorem Event.Answers.closes {peer : Address} {event : Event} (answers : event.Answers peer)
    (number : Nat) : event.closes number = false := by
  cases event with
  | sent | reported => rfl
  | _ => exact answers.elim

namespace Registry

/-- How often a session has been closed. -/
def closes (registry : Registry) (number : Nat) : Nat :=
  registry.look Session.closes 0 number

/-- Closing a session that exists counts once. -/
theorem closes_modify_close {registry : Registry} {number : Nat} {session : Session}
    (known : registry.session? number = some session) (other : Nat) :
    (registry.modify number fun session => session.close.1).closes other =
      registry.closes other + if number = other then 1 else 0 := by
  rw [closes, closes, look, look, session?_modify]
  split
  · rename_i same
    subst same
    rw [known]
    exact session.closes_close
  · rfl

/-- Closing a session and taking it out of the table counts as one closing. -/
theorem closes_unregister_closeSession {registry : Registry} {number : Nat} {session : Session}
    (known : registry.session? number = some session) (other : Nat) :
    ((registry.closeSession number).1.unregister number).1.closes other =
      registry.closes other + if number = other then 1 else 0 := by
  apply (look_unregister _ _ _ _ _).trans
  rw [closeSession_eq]
  exact closes_modify_close known other

theorem closes_closeEach {registry : Registry} {numbers : List Nat} (distinct : numbers.Nodup)
    (known : ∀ number ∈ numbers, ∃ session, registry.session? number = some session)
    (number : Nat) :
    (registry.closeEach numbers).1.closes number =
      registry.closes number + if number ∈ numbers then 1 else 0 := by
  rw [closes, closes, look, look, session?_closeEach registry distinct]
  split
  · rename_i member
    rcases known number member with ⟨session, known⟩
    rw [known]
    exact session.closes_close
  · rfl

/-- Closing everything and emptying the table retires every session. -/
theorem retired_closeAll {registry : Registry} (sound : registry.Sound) {number : Nat}
    {session : Session} (known : registry.session? number = some session) :
    registry.closeAll.1.clear.Retired number := by
  rcases (registry.advances_closeEach registry.table.numbers).sessions known with ⟨later, still, _⟩
  refine ⟨later, still, sound.isClosed_closeAll still, ?_⟩
  intro found
  cases found

/-- What is registered exists. -/
theorem Sound.known {registry : Registry} (sound : registry.Sound) :
    ∀ number ∈ registry.table.numbers, ∃ session, registry.session? number = some session := by
  intro number member
  rcases sound.mem_numbers_iff.mp member with ⟨session, known, _⟩
  exact ⟨session, known⟩

end Registry

namespace Listener

/-- How often the listener itself has closed a session. -/
def own (l : Listener) (number : Nat) : Nat :=
  l.events.countP (Event.closes number)

/-- How often a step of the application closes a session. -/
def asks (l : Listener) (step : Step) (number : Nat) : Nat :=
  match step with
  | .command (.closeSession session) =>
      if session = number ∧ (l.accepted? session).isSome then 1 else 0
  | _ => 0

/-- How often the application closes a session along a schedule. -/
def asked (l : Listener) (number : Nat) : List Step → Nat
  | [] => 0
  | step :: steps =>
      match l.after? step with
      | some next => l.asks step number + next.asked number steps
      | none => 0

/-- The circumstances in which the listener closes a session. -/
inductive Closes (l : Listener) (number : Nat) : Step → Prop
  | expires {index : Nat} {candidate : Candidate}
      (found : l.inHand[index]? = some candidate) (running : l.shutdown = false)
      (own : candidate.session = number) : Closes l number (.move (.resolve index))
  | shuts (registered : number ∈ l.registry.table.numbers) : Closes l number .closeSessions

/-- The session has been closed and unregistered, and this by the shutdown or because its time to
complete was up. -/
def Sealed (l : Listener) (number : Nat) : Prop :=
  l.registry.Retired number ∧ (l.shutdown = true ∨ (number, .expired) ∈ l.fates)

theorem own_recordAll (l : Listener) (events : List Event) (number : Nat) :
    (l.recordAll events).own number = l.own number + events.countP (Event.closes number) := by
  rw [own, events_recordAll, List.countP_append, own]

theorem own_record (l : Listener) (event : Event) (number : Nat) :
    (l.record event).own number = l.own number + if event.closes number then 1 else 0 := by
  rw [record_eq_recordAll, own_recordAll, List.countP_singleton]

/-- A step in which the listener closes no session itself; the application may close one. -/
structure Spares (l next : Listener) (number asks : Nat) : Prop where
  closes : next.registry.closes number = l.registry.closes number + asks
  own : next.own number = l.own number

theorem spares_of_silent {l next : Listener} {number asks : Nat} {events : List Event}
    (closes : next.registry.closes number = l.registry.closes number + asks)
    (history : next.events = l.events ++ events)
    (silent : ∀ event ∈ events, event.closes number = false) : l.Spares next number asks where
  closes := closes
  own := by
    have none : events.countP (Event.closes number) = 0 :=
      List.countP_eq_zero.mpr fun event member => by simp [silent event member]
    rw [own, history, List.countP_append, none]
    rfl

theorem spares_of_quiet {l next : Listener} {number asks : Nat}
    (closes : next.registry.closes number = l.registry.closes number + asks)
    (history : next.events = l.events) : l.Spares next number asks :=
  spares_of_silent closes (history.trans (List.append_nil _).symm) (List.forall_mem_nil _)

theorem asks_of_mayIgnore {l : Listener} {command : Command} (idle : l.mayIgnore command = true)
    (number : Nat) : l.asks (.command command) number = 0 := by
  cases command with
  | closeSession session =>
      have absent : l.accepted? session = none := Option.isNone_iff_eq_none.mp idle
      simp [asks, absent]
  | _ => rfl

theorem Issued.spares {l next : Listener} {command : Command} (issued : Issued l command next)
    (number : Nat) : l.Spares next number (l.asks (.command command) number) := by
  cases issued with
  | ignored idle =>
      rw [asks_of_mayIgnore idle]
      exact spares_of_quiet rfl rfl
  | fired =>
      refine spares_of_quiet ?_ rfl
      exact l.registry.look_modify _ _ _ (fun session => session.closes_fire _) number
  | @closedSession session value found =>
      have known : l.registry.session? session = some value := by
        rw [accepted?, Option.ite_none_right_eq_some] at found
        exact found.2
      refine spares_of_quiet ((Registry.closes_modify_close known number).trans ?_) rfl
      simp [asks, found]
  | readSession =>
      exact spares_of_quiet (l.registry.look_modify _ _ _ Session.closes_recv number) rfl
  | learned =>
      exact spares_of_silent rfl (events_record _ _) (List.forall_mem_singleton.mpr rfl)
  | sent => exact spares_of_silent rfl (events_record _ _) (List.forall_mem_singleton.mpr rfl)
  | wrote => exact spares_of_silent rfl (events_record _ _) (List.forall_mem_singleton.mpr rfl)
  | _ => exact spares_of_quiet rfl rfl

theorem Handled.spares {l next : Listener} {peer : Address} {datagram : Bytes}
    (handled : Handled l peer datagram next) (number : Nat) : l.Spares next number 0 := by
  cases handled with
  | @forwarded owner session registered found =>
      refine spares_of_silent ?_ (events_recordAll _ _) ?_
      · rw [Registry.modify_const found fun session => (session.receive datagram).1]
        exact l.registry.look_modify _ _ owner (fun session => session.closes_receive _) number
      · simp [Event.closes]
  | unclaimed =>
      exact spares_of_silent rfl (events_recordAll _ _) (List.forall_mem_singleton.mpr rfl)
  | answered unregistered answers =>
      refine spares_of_silent rfl (events_recordAll _ _) (List.forall_mem_cons.mpr ⟨rfl, ?_⟩)
      intro event member
      exact (answers event member).closes number
  | failed =>
      refine spares_of_silent rfl (events_recordAll _ _) ?_
      simp [Event.closes]
  | @negotiated server mtu guid session unregistered decoded reached planned =>
      have fresh : session.closes = 0 := (Plan.fresh_of_session? planned).2.2.2.2.2
      refine spares_of_silent ?_ ((events_offer _ _).trans (events_recordAll _ _)) ?_
      · rw [offer]
        split <;> exact l.registry.look_enroll _ _ fresh number
      · simp [Event.closes]

/-- A step in which the listener closes a session itself, for the first time if the session has
been unregistered every time before. -/
structure Takes (l next : Listener) (step : Step) (number : Nat) : Prop where
  closes : next.registry.closes number = l.registry.closes number + 1
  own : next.own number = l.own number + 1
  reason : l.Closes number step
  sealed : next.Sealed number

theorem Moved.closings {l next : Listener} {move : Move} (moved : Moved l move next)
    (sound : l.registry.Sound) (placed : l.Placed) (number : Nat) :
    l.Spares next number 0 ∨ l.Takes next (.move move) number := by
  cases moved with
  | refused | dropped | accepted | pulled =>
      exact .inl (spares_of_silent rfl (events_record _ _) (List.forall_mem_singleton.mpr rfl))
  | @expired index candidate found running =>
      rcases placed.known (List.mem_of_getElem? found) with ⟨session, known⟩
      have closes := Registry.closes_unregister_closeSession known number
      by_cases own : candidate.session = number
      · refine .inr ⟨?_, ?_, .expires found running own, ?_, .inr ?_⟩
        · rw [if_pos own] at closes
          exact closes
        · have counts : (Event.expired candidate.session).closes number = true :=
            decide_eq_true own
          apply (own_record _ _ number).trans
          rw [if_pos counts]
          rfl
        · rw [← own]
          exact Registry.retired_unregister_closeSession sound known
        · rw [← own]
          exact List.mem_append_right _ List.mem_cons_self
      · rw [if_neg own] at closes
        refine .inl (spares_of_silent closes (events_record _ _) (List.forall_mem_singleton.mpr ?_))
        exact decide_eq_false own
  | evicted =>
      exact .inl (spares_of_quiet (l.registry.look_unregister _ _ _ number) rfl)
  | hijackWent =>
      refine .inl (spares_of_silent rfl (events_recordAll _ _) ?_)
      intro event member
      split at member
      · rw [List.mem_singleton.mp member]
        rfl
      · cases member
  | @handled delivery deliveries =>
      obtain ⟨closes, own⟩ := (handled_handle { l with backlog := deliveries } delivery.peer
        delivery.datagram).spares number
      exact .inl ⟨closes, own⟩
  | _ => exact .inl (spares_of_quiet rfl rfl)

theorem closes_closeAll {l : Listener} (sound : l.registry.Sound) (number : Nat) :
    l.registry.closeAll.1.clear.closes number =
      l.registry.closes number + if number ∈ l.registry.table.numbers then 1 else 0 :=
  Registry.closes_closeEach sound.nodup_numbers sound.known number

theorem countP_shut {numbers : List Nat} (distinct : numbers.Nodup) (number : Nat) :
    (numbers.map Event.shut).countP (Event.closes number) = if number ∈ numbers then 1 else 0 := by
  have counts : (numbers.map Event.shut).countP (Event.closes number) = numbers.count number := by
    rw [List.countP_map, List.count]
    exact congrArg (fun test => numbers.countP test) (funext fun _ => rfl)
  rw [counts]
  split
  · rename_i member
    exact List.count_eq_one_of_mem distinct member
  · rename_i absent
    exact List.count_eq_zero.mpr absent

/-- In a step the listener closes a session itself or does not. -/
theorem Went.closings {l next : Listener} {step : Step} (went : Went l step next)
    (sound : l.registry.Sound) (placed : l.Placed) (shut : l.closed = true → l.shutdown = true)
    (number : Nat) : l.Spares next number (l.asks step number) ∨ l.Takes next step number := by
  cases went with
  | command issued => exact .inl (issued.spares number)
  | move moved => exact moved.closings sound placed number
  | closeSessions stopped =>
      have closes := closes_closeAll sound number
      have own := (own_recordAll ({ l with registry := l.registry.closeAll.1.clear } : Listener)
        (l.registry.table.numbers.map .shut) number).trans
          (congrArg (l.own number + ·) (countP_shut sound.nodup_numbers number))
      by_cases registered : number ∈ l.registry.table.numbers
      · rw [if_pos registered] at closes own
        refine .inr ⟨closes, own, .shuts registered, ?_, .inl ?_⟩
        · rcases sound.known number registered with ⟨session, known⟩
          exact Registry.retired_closeAll sound known
        · simp only [isStopped, Bool.and_eq_true] at stopped
          exact shut stopped.1.1.1
      · rw [if_neg registered] at closes own
        exact .inl ⟨closes, own⟩

/-- A closed listener shuts down. -/
theorem Went.shutdown_of_closed {l next : Listener} {step : Step} (went : Went l step next)
    (shut : l.closed = true → l.shutdown = true) (closed : next.closed = true) :
    next.shutdown = true := by
  cases went with
  | command issued =>
      cases issued with
      | closing => rfl
      | _ => exact shut closed
  | move moved => exact moved.shutdown (shut (moved.closed.symm.trans closed))
  | closeSessions => exact shut closed

/-- What is known of the sessions that the listener has closed itself along every schedule: each is
closed once and is sealed. -/
structure ClosesOnce (l : Listener) : Prop where
  tracked : l.Tracked
  shut : l.closed = true → l.shutdown = true
  once : ∀ number, l.own number ≤ 1
  sealed : ∀ number, 0 < l.own number → l.Sealed number

theorem Sealed.mono {l next : Listener} {step : Step} {number : Nat} (sealed : l.Sealed number)
    (went : Went l step next) (tracked : l.Tracked) : next.Sealed number := by
  rcases sealed with ⟨retired, reason⟩
  refine ⟨retired.mono went.became.advances, ?_⟩
  rcases reason with shut | expired
  · exact .inl (went.shutdown shut)
  · exact .inr (went.fates tracked expired)

/-- What the listener has closed itself it does not close again. -/
theorem Closes.unsealed {l : Listener} {step : Step} {number : Nat} (closes : l.Closes number step)
    (tracked : l.Tracked) : ¬ l.Sealed number := by
  rintro ⟨retired, reason⟩
  cases closes with
  | @expires index candidate found running own =>
      rcases reason with shut | expired
      · rw [running] at shut
        cases shut
      · subst own
        exact (awaits_of_inHand (List.mem_of_getElem? found)).not_met tracked.placed _ expired
  | shuts registered => exact tracked.sound.not_mem_numbers retired registered

theorem Went.closesOnce {l next : Listener} {step : Step} (went : Went l step next)
    (closed : l.ClosesOnce) : next.ClosesOnce := by
  have tracked := closed.tracked
  have closings := went.closings tracked.sound tracked.placed closed.shut
  refine ⟨went.tracked tracked, went.shutdown_of_closed closed.shut, ?_, ?_⟩
  · intro number
    rcases closings number with spares | takes
    · rw [spares.own]
      exact closed.once number
    · rw [takes.own]
      have fresh := mt (closed.sealed number) (takes.reason.unsealed tracked)
      omega
  · intro number closes
    rcases closings number with spares | takes
    · rw [spares.own] at closes
      exact (closed.sealed number closes).mono went tracked
    · exact takes.sealed

theorem closesOnce_start (setup : Setup) : (start setup).ClosesOnce where
  tracked := tracked_start setup
  shut := nofun
  once _ := Nat.zero_le 1
  sealed _ closes := by cases closes

theorem ClosesOnce.follow {l last : Listener} {steps : List Step} (closed : l.ClosesOnce)
    (followed : l.follow steps = some last) : last.ClosesOnce := by
  apply follow_induction (P := ClosesOnce) _ closed followed
  intro step _ l next closed went
  exact went.closesOnce closed

theorem closesOnce_follow {setup : Setup} {steps : List Step} {l : Listener}
    (followed : (start setup).follow steps = some l) : l.ClosesOnce :=
  (closesOnce_start setup).follow followed

/-- A session is closed as often as the application and the listener close it. -/
theorem closes_follow {l last : Listener} {steps : List Step}
    (followed : l.follow steps = some last)
    (closed : l.ClosesOnce) (number : Nat) :
    last.registry.closes number + l.own number =
      l.registry.closes number + l.asked number steps + last.own number := by
  induction steps generalizing l with
  | nil =>
      cases followed
      rfl
  | cons step steps ih =>
      rcases follow_cons_eq_some_iff.mp followed with ⟨next, after, rest⟩
      have went := went_of_after? after
      have later := ih rest (went.closesOnce closed)
      have asked : l.asked number (step :: steps) =
          l.asks step number + next.asked number steps := by
        rw [Listener.asked, after]
      rw [asked]
      rcases went.closings closed.tracked.sound closed.tracked.placed closed.shut number with
        ⟨closes, own⟩ | ⟨closes, own, reason, _⟩
      · omega
      · have unasked : l.asks step number = 0 := by
          cases reason <;> rfl
        omega

end Listener

end Anteroom
