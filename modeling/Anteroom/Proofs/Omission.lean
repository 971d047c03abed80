import Anteroom.Proofs.ReadLoop

/-!
# Datagrams that leave no trace

Datagrams are numbered in the order of their arrival, which is the order in
which they are handled.  Some of them are left out of a run: those that come
from peers without a session and do not end a handshake.  The rest of the run
is then as it was.  All that is missing is the datagrams themselves, in the
backlog and in the history, and the answers and reports that they caused.
-/

namespace Anteroom

/-- The items that are not left out, where the first one has the number `first`. -/
def spare {α : Type} (dropped : Nat → Bool) (first : Nat) (items : List α) : List α :=
  ((items.zipIdx first).filter fun item => !dropped item.2).map Prod.fst

section Spare

variable {α : Type} {dropped : Nat → Bool}

theorem spare_cons_of_dropped {first : Nat} (drops : dropped first = true) (item : α)
    (items : List α) : spare dropped first (item :: items) = spare dropped (first + 1) items := by
  simp [spare, List.zipIdx_cons, drops]

theorem spare_cons_of_kept {first : Nat} (keeps : dropped first = false) (item : α)
    (items : List α) :
    spare dropped first (item :: items) = item :: spare dropped (first + 1) items := by
  simp [spare, List.zipIdx_cons, keeps]

theorem spare_append (first : Nat) (items more : List α) :
    spare dropped first (items ++ more) =
      spare dropped first items ++ spare dropped (first + items.length) more := by
  simp [spare, List.zipIdx_append]

end Spare

/-- The number of the datagram that an event is about, if `taken` datagrams were taken before. -/
def Event.subject? (taken : Nat) : Event → Option Nat
  | .handled .. => some taken
  | .sent _ _ none => some (taken - 1)
  | .reported .. => some (taken - 1)
  | _ => none

/-- The entries that are not about a datagram that is left out, where `taken` datagrams were taken
before. -/
def spareEntries (dropped : Nat → Bool) : (taken : Nat) → List Entry → List Entry
  | _, [] => []
  | taken, entry :: entries =>
      let rest := spareEntries dropped (taken + entry.event.handling?.toList.length) entries
      if (entry.event.subject? taken).any dropped then rest else entry :: rest

/-- Whether a datagram ends a handshake. -/
def isRequest2 (datagram : Bytes) : Bool :=
  match Message.decodeInbound datagram with
  | .ok (.openConnectionRequest2 ..) => true
  | _ => false

namespace Listener

/-- The listener without the datagrams that are left out, and without what the history says about
them.  Everything else is the same: the sessions with all that is known of them, the table, the
queue, the read loop, the accept calls, the hijacks, the board and what has been closed. -/
def without (l : Listener) (dropped : Nat → Bool) : Listener :=
  l.recast (spare dropped l.handlings.length l.backlog) (spareEntries dropped 0 l.history)

/-- Of the datagrams that are left out, those that were handled came from peers without a session
and did not end a handshake. -/
def Harmless (l : Listener) (dropped : Nat → Bool) : Prop :=
  ∀ item ∈ l.handlings.zipIdx, dropped item.2 = true →
    item.1.2 = none ∧ isRequest2 item.1.1.datagram = false

instance (l : Listener) (dropped : Nat → Bool) : Decidable (l.Harmless dropped) :=
  inferInstanceAs (Decidable (∀ item ∈ l.handlings.zipIdx, dropped item.2 = true →
    item.1.2 = none ∧ isRequest2 item.1.1.datagram = false))

/-- The datagrams that have arrived so far. -/
def arrived (l : Listener) : Nat :=
  l.handlings.length + l.backlog.length

end Listener

/-! ## Entries -/

section Entries

variable {dropped : Nat → Bool}

theorem spareEntries_append (taken : Nat) (entries more : List Entry) :
    spareEntries dropped taken (entries ++ more) =
      spareEntries dropped taken entries ++
        spareEntries dropped
          (taken + ((entries.map Entry.event).filterMap Event.handling?).length) more := by
  induction entries generalizing taken with
  | nil => rfl
  | cons entry entries ih =>
      have count : ((entry :: entries).map Entry.event).filterMap Event.handling? =
          entry.event.handling?.toList ++
            (entries.map Entry.event).filterMap Event.handling? := by
        cases told : entry.event.handling? <;> simp [told]
      rw [List.cons_append, spareEntries, spareEntries, ih, count, List.length_append,
        Nat.add_assoc]
      split <;> rfl

/-- Entries about datagrams that were taken before. -/
theorem spareEntries_of_answers {taken : Nat} {events : List Event} (time : Nat)
    (handles : events.filterMap Event.handling? = []) :
    spareEntries dropped taken (events.map (Entry.mk time)) =
      (events.filter fun event => !(event.subject? taken).any dropped).map (Entry.mk time) := by
  induction events with
  | nil => rfl
  | cons event events ih =>
      have quiet : event.handling? = none :=
        List.filterMap_eq_nil_iff.mp handles event List.mem_cons_self
      have rest : events.filterMap Event.handling? = [] := by
        rw [List.filterMap_cons_none quiet] at handles
        exact handles
      rw [List.map_cons, spareEntries, List.filter_cons, quiet]
      rw [show taken + (none : Option (Delivery × Option Nat)).toList.length = taken from rfl,
        ih rest]
      cases (event.subject? taken).any dropped <;> rfl

/-- Of a datagram that is left out nothing is kept, if it was only answered. -/
theorem spareEntries_of_dropped {taken : Nat} (drops : dropped taken = true) (time : Nat)
    (peer : Address) (datagram : Bytes) {events : List Event}
    (answers : ∀ event ∈ events, event.Answers peer) :
    spareEntries dropped taken ((.handled peer datagram none :: events).map (Entry.mk time)) =
      [] := by
  have quiet : events.filterMap Event.handling? = [] :=
    List.filterMap_eq_nil_iff.mpr fun event member => (answers event member).told.2
  have nothing : spareEntries dropped (taken + 1) (events.map (Entry.mk time)) = [] := by
    rw [spareEntries_of_answers time quiet, List.map_eq_nil_iff, List.filter_eq_nil_iff]
    intro event member
    have about : event.subject? (taken + 1) = some taken := by
      have answer := answers event member
      cases event with
      | sent _ _ session =>
          cases session with
          | none => rfl
          | some number => exact answer.elim
      | reported => rfl
      | _ => exact answer.elim
    rw [about, Option.any_some, drops]
    decide
  rw [List.map_cons, spareEntries, if_pos]
  · exact nothing
  · exact drops

/-- Of a datagram that is not left out everything is kept. -/
theorem spareEntries_of_kept {taken : Nat} (keeps : dropped taken = false) (time : Nat)
    (peer : Address) (datagram : Bytes) (session : Option Nat) {events : List Event}
    (quiet : events.filterMap Event.handling? = []) :
    spareEntries dropped taken ((.handled peer datagram session :: events).map (Entry.mk time)) =
      (.handled peer datagram session :: events).map (Entry.mk time) := by
  have everything : spareEntries dropped (taken + 1) (events.map (Entry.mk time)) =
      events.map (Entry.mk time) := by
    rw [spareEntries_of_answers time quiet, List.filter_eq_self.mpr]
    intro event member
    have unhandled := List.filterMap_eq_nil_iff.mp quiet event member
    cases event with
    | handled => cases unhandled
    | sent _ _ session =>
        cases session with
        | none => simp [Event.subject?, keeps]
        | some number => rfl
    | reported => simp [Event.subject?, keeps]
    | _ => rfl
  rw [List.map_cons, spareEntries, if_neg]
  · exact congrArg (List.cons _) everything
  · exact Bool.eq_false_iff.mp keeps

end Entries

namespace Listener

variable {dropped : Nat → Bool}

theorem without_without (l : Listener) :
    (l.without dropped).recast l.backlog l.history = l :=
  rfl

theorem without_start (setup : Setup) : (start setup).without dropped = start setup :=
  rfl

/-- A listener whose history has grown. -/
theorem without_eq {l next : Listener} {events : List Event}
    (history : next.history = l.history ++ events.map (Entry.mk l.now)) :
    next.without dropped =
      next.recast (spare dropped next.handlings.length next.backlog)
        (spareEntries dropped 0 l.history ++
          spareEntries dropped l.handlings.length (events.map (Entry.mk l.now))) := by
  rw [without, history, spareEntries_append, Nat.zero_add]
  rfl

/-! ## Steps that take no datagram and bring none -/

/-- What is told of a step that takes no datagram is not about one that was taken. -/
theorem Tells.spareEntries_eq {l next : Listener} {step : Step} {events : List Event}
    (tells : l.Tells step events next) (other : step ≠ .move .handle) :
    spareEntries dropped l.handlings.length (events.map (Entry.mk l.now)) =
      events.map (Entry.mk l.now) := by
  rw [spareEntries_of_answers l.now (tells.handlings other).1, List.filter_eq_self.mpr]
  intro event member
  have told := tells.told event member
  have about : event.subject? l.handlings.length = none := by
    cases event with
    | handled | reported => exact absurd told other
    | sent _ _ session =>
        cases session with
        | none => exact absurd told.1 other
        | some number => rfl
    | _ => rfl
  rw [about]
  rfl

/-- A step that takes no datagram and leaves the backlog alone does the same without the datagrams
that are left out. -/
theorem Tells.without_eq {l next : Listener} {step : Step} {events : List Event}
    {entries : List Entry} (tells : l.Tells step events next) (other : step ≠ .move .handle)
    (same : next = next.recast l.backlog (l.history ++ entries)) :
    next.recast (spare dropped l.handlings.length l.backlog)
        (spareEntries dropped 0 l.history ++ entries) = next.without dropped := by
  have backlog : next.backlog = l.backlog := by
    rw [same]
    rfl
  have history : next.history = l.history ++ entries := by
    rw [same]
    rfl
  have new : entries = events.map (Entry.mk l.now) :=
    List.append_cancel_left (history.symm.trans tells.history)
  rw [Listener.without_eq tells.history, tells.spareEntries_eq other, (tells.handlings other).2,
    backlog, new]

theorem Moved.without {l next : Listener} {move : Move} (moved : Moved l move next)
    (other : move ≠ .handle) : Moved (l.without dropped) move (next.without dropped) := by
  rcases moved.recast other with ⟨entries, moves⟩
  rcases moved.told with ⟨events, tells⟩
  have same : next = next.recast l.backlog (l.history ++ entries) := by
    have again := (moves l.backlog l.history).enabled
    exact Option.some.inj (moved.enabled.symm.trans again)
  have left : Step.move move ≠ .move .handle := by
    rintro ⟨⟩
    exact other rfl
  rw [← tells.without_eq left same]
  exact moves _ _

theorem Oblivious.without {l : Listener} {operation : Listener → Listener} {step : Step}
    {events : List Event} (oblivious : l.Oblivious operation)
    (tells : l.Tells step events (operation l)) (other : step ≠ .move .handle) :
    operation (l.without dropped) = (operation l).without dropped := by
  rcases oblivious with ⟨entries, adds⟩
  rw [← tells.without_eq other (adds l.backlog l.history)]
  exact adds _ _

theorem issue_without (l : Listener) {command : Command}
    (other : ∀ peer datagram, command ≠ .deliver peer datagram) :
    (l.without dropped).issue command = (l.issue command).without dropped := by
  rcases (issued_issue l command).told with ⟨events, tells⟩
  exact (l.oblivious_issue other).without tells nofun

theorem closeSessions_without (l : Listener) :
    (l.without dropped).closeSessions.1 = l.closeSessions.1.without dropped :=
  l.oblivious_closeSessions.without l.tells_closeSessions nofun

/-! ## Datagrams that arrive -/

theorem arrive_of_dropped {l : Listener} (drops : dropped l.arrived = true) (peer : Address)
    (datagram : Bytes) : (l.arrive peer datagram).without dropped = l.without dropped := by
  have backlog : spare dropped l.handlings.length (l.arrive peer datagram).backlog =
      spare dropped l.handlings.length l.backlog := by
    rw [arrive, spare_append, ← arrived, spare_cons_of_dropped drops]
    exact List.append_nil _
  exact congrArg (l.recast · (spareEntries dropped 0 l.history)) backlog

theorem arrive_of_kept {l : Listener} (keeps : dropped l.arrived = false) (peer : Address)
    (datagram : Bytes) :
    (l.without dropped).arrive peer datagram = (l.arrive peer datagram).without dropped := by
  have backlog : spare dropped l.handlings.length (l.arrive peer datagram).backlog =
      spare dropped l.handlings.length l.backlog ++
        [{ peer, datagram := datagram.received }] := by
    rw [arrive, spare_append, ← arrived, spare_cons_of_kept keeps]
    rfl
  exact congrArg (l.recast · (spareEntries dropped 0 l.history)) backlog.symm

/-! ## Datagrams that are taken -/

theorem Harmless.of_append {l next : Listener} {more : List (Delivery × Option Nat)}
    (harmless : next.Harmless dropped) (handlings : next.handlings = l.handlings ++ more) :
    l.Harmless dropped := by
  intro item member
  apply harmless item
  rw [handlings, List.zipIdx_append]
  exact List.mem_append_left _ member

theorem Harmless.last {l : Listener} {handlings : List (Delivery × Option Nat)}
    {handling : Delivery × Option Nat} (harmless : l.Harmless dropped)
    (same : l.handlings = handlings ++ [handling]) (drops : dropped handlings.length = true) :
    handling.2 = none ∧ isRequest2 handling.1.datagram = false := by
  apply harmless (handling, handlings.length) _ drops
  rw [same, List.zipIdx_append, Nat.zero_add]
  exact List.mem_append_right _ (List.mem_singleton.mpr rfl)

theorem isRequest2_of_decoded {datagram : Bytes} {server : Address} {mtu : UInt16} {guid : Int64}
    (decoded : Message.decodeInbound datagram = .ok (.openConnectionRequest2 server mtu guid)) :
    isRequest2 datagram = true := by
  rw [isRequest2, decoded]

/-- Handling a datagram of a peer without a session that does not end a handshake only adds to the
history. -/
theorem Handled.of_harmless {l next : Listener} {peer : Address} {datagram : Bytes}
    (handled : Handled l peer datagram next) (unregistered : l.sessionOf? peer = none)
    (other : isRequest2 datagram = false) :
    ∃ events, (∀ event ∈ events, event.Answers peer) ∧
      next = l.recordAll (.handled peer datagram none :: events) := by
  cases handled with
  | forwarded registered => cases unregistered.symm.trans registered
  | unclaimed registered => cases unregistered.symm.trans registered
  | answered _ answers => exact ⟨_, answers, rfl⟩
  | failed _ decoded => cases other.symm.trans (isRequest2_of_decoded decoded)
  | negotiated _ decoded => cases other.symm.trans (isRequest2_of_decoded decoded)

/-- A datagram that is left out, and does no harm, is as if it had not been there. -/
theorem handle_of_dropped {l : Listener} {delivery : Delivery} {deliveries : List Delivery}
    (backlog : l.backlog = delivery :: deliveries) (drops : dropped l.handlings.length = true)
    (harmless : (({ l with backlog := deliveries } : Listener).handle delivery.peer
      delivery.datagram).Harmless dropped) :
    (({ l with backlog := deliveries } : Listener).handle delivery.peer
      delivery.datagram).without dropped = l.without dropped := by
  have handled := handled_handle { l with backlog := deliveries } delivery.peer delivery.datagram
  have handlings := handled.handlings
  obtain ⟨unregistered, other⟩ := harmless.last handlings drops
  rcases handled.of_harmless unregistered other with ⟨events, answers, same⟩
  have taken := congrArg List.length handlings
  rw [List.length_append] at taken
  rw [Listener.without_eq (congrArg Listener.history same), taken]
  have nothing : spareEntries dropped l.handlings.length
      ((.handled delivery.peer delivery.datagram none :: events).map (Entry.mk l.now)) = [] :=
    spareEntries_of_dropped drops l.now delivery.peer delivery.datagram answers
  refine (congrArg (Listener.recast _ _ <| spareEntries dropped 0 l.history ++ ·) nothing).trans ?_
  rw [same, without, backlog, spare_cons_of_dropped drops, List.append_nil]
  rfl

/-- A datagram that is not left out is handled as it was. -/
theorem handle_of_kept {l : Listener} {delivery : Delivery} {deliveries : List Delivery}
    (backlog : l.backlog = delivery :: deliveries) (keeps : dropped l.handlings.length = false)
    (running : l.shutdown = false) (reading : l.loop = .reading) :
    Moved (l.without dropped) .handle
      ((({ l with backlog := deliveries } : Listener).handle delivery.peer
        delivery.datagram).without dropped) := by
  have handled := handled_handle { l with backlog := deliveries } delivery.peer delivery.datagram
  rcases handled.told with ⟨events, tells, quiet⟩
  rcases oblivious_handle { l with backlog := deliveries } delivery.peer delivery.datagram with
    ⟨entries, adds⟩
  have left : (l.without dropped).backlog =
      delivery :: spare dropped (l.handlings.length + 1) deliveries := by
    rw [without, backlog, spare_cons_of_kept keeps]
    rfl
  -- What is told does not depend on the history, so it is told without the datagrams, too.
  have new : entries = (.handled delivery.peer delivery.datagram (l.sessionOf? delivery.peer) ::
      events).map (Entry.mk l.now) :=
    List.append_cancel_left
      ((congrArg Listener.history (adds deliveries l.history)).symm.trans tells.history)
  have taken := congrArg List.length handled.handlings
  rw [List.length_append] at taken
  have waits : (({ l with backlog := deliveries } : Listener).handle delivery.peer
      delivery.datagram).backlog = deliveries := by
    rw [handled.eq_update]
  have same : (({ l with backlog := deliveries } : Listener).handle delivery.peer
      delivery.datagram).without dropped =
        ({ l.without dropped with backlog := spare dropped (l.handlings.length + 1) deliveries
          } : Listener).handle delivery.peer delivery.datagram := by
    refine Eq.trans ?_ (adds _ (spareEntries dropped 0 l.history)).symm
    rw [Listener.without_eq tells.history, taken, waits, new]
    exact congrArg (Listener.recast _ _ <| spareEntries dropped 0 l.history ++ ·)
      (spareEntries_of_kept keeps l.now _ _ _ quiet)
  rw [same]
  exact .handled left running reading

end Listener

/-! ## Schedules -/

/-- How many datagrams a step takes. -/
def Step.takings : Step → Nat
  | .move .handle => 1
  | _ => 0

/-- The number of the datagram that arrives with a step or is taken in it, if `arrived` datagrams
have arrived and `taken` have been taken before. -/
def Step.subject? (arrived taken : Nat) : Step → Option Nat
  | .command (.deliver ..) => some arrived
  | .move .handle => some taken
  | _ => none

/-- The steps that are left: those in which a datagram that is left out arrives or is taken are
missing. -/
def spareSteps (dropped : Nat → Bool) : (arrived taken : Nat) → List Step → List Step
  | _, _, [] => []
  | arrived, taken, step :: steps =>
      let rest := spareSteps dropped (arrived + step.arrival?.toList.length) (taken + step.takings)
        steps
      if (step.subject? arrived taken).any dropped then rest else step :: rest

/-- A command either brings a datagram, or its step is about none. -/
theorem Command.delivers_or (command : Command) :
    (∃ peer datagram, command = .deliver peer datagram) ∨
      (∀ peer datagram, command ≠ .deliver peer datagram) ∧
        (Step.command command).arrival? = none ∧
        ∀ arrived taken, (Step.command command).subject? arrived taken = none := by
  cases command with
  | deliver peer datagram => exact .inl ⟨peer, datagram, rfl⟩
  | _ => exact .inr ⟨nofun, rfl, fun _ _ => rfl⟩

namespace Listener

variable {dropped : Nat → Bool}

/-- The numbers of the datagrams that arrive and that are taken go on. -/
theorem Went.counts {l next : Listener} {step : Step} (went : Went l step next) :
    next.handlings.length = l.handlings.length + step.takings ∧
      next.arrived = l.arrived + step.arrival?.toList.length := by
  have takes : (l.taken? step).toList.length = step.takings := by
    cases went with
    | move moved =>
        cases moved with
        | handled backlog =>
            rw [taken?, backlog]
            rfl
        | _ => rfl
    | _ => rfl
  have taken := congrArg List.length went.handlings
  have waiting := congrArg List.length went.backlog
  simp only [List.length_append, List.length_map] at taken waiting
  refine ⟨by omega, ?_⟩
  simp only [arrived]
  omega

/-- A step in which a datagram that is left out arrives or is taken is as if it had not been made,
and every other step does the same without these datagrams. -/
theorem after?_without {l next : Listener} {step : Step} (after : l.after? step = some next)
    (harmless : next.Harmless dropped) :
    if (step.subject? l.arrived l.handlings.length).any dropped then
      next.without dropped = l.without dropped
    else (l.without dropped).after? step = some (next.without dropped) := by
  cases step with
  | command command =>
      cases after
      rcases command.delivers_or with ⟨peer, datagram, rfl⟩ | ⟨other, _, about⟩
      · cases drops : dropped l.arrived with
        | true => exact (if_pos drops).mpr (arrive_of_dropped drops peer datagram)
        | false =>
            exact (if_neg (Bool.eq_false_iff.mp drops)).mpr
              (congrArg some (arrive_of_kept drops peer datagram))
      · rw [about]
        exact congrArg some (l.issue_without other)
  | move move =>
      have moved := moved_of_move? after
      by_cases handles : move = .handle
      · subst handles
        cases moved with
        | handled backlog running reading =>
            cases drops : dropped l.handlings.length with
            | true => exact (if_pos drops).mpr (handle_of_dropped backlog drops harmless)
            | false =>
                exact (if_neg (Bool.eq_false_iff.mp drops)).mpr
                  (handle_of_kept backlog drops running reading).enabled
      · have about : (Step.move move).subject? l.arrived l.handlings.length = none := by
          cases move with
          | handle => exact absurd rfl handles
          | _ => rfl
        rw [about]
        exact (moved.without handles).enabled
  | closeSessions =>
      simp only [after?, Option.ite_none_right_eq_some, Option.some.injEq] at after
      rcases after with ⟨stopped, rfl⟩
      have same : (l.without dropped).isStopped = true := stopped
      change (l.without dropped).after? .closeSessions = _
      rw [after?, if_pos same, closeSessions_without]

/-- The steps that are left lead to the listener without the datagrams that are left out. -/
theorem follow_without {l last : Listener} {steps : List Step}
    (followed : l.follow steps = some last) (harmless : last.Harmless dropped) :
    (l.without dropped).follow (spareSteps dropped l.arrived l.handlings.length steps) =
      some (last.without dropped) := by
  induction steps generalizing l with
  | nil =>
      cases followed
      rfl
  | cons step steps ih =>
      rcases follow_cons_eq_some_iff.mp followed with ⟨next, after, rest⟩
      obtain ⟨taken, arrived⟩ := (went_of_after? after).counts
      have first := after?_without after (harmless.of_append (handlings_follow rest))
      have later := ih rest
      rw [taken, arrived] at later
      rw [spareSteps]
      split
      · rename_i drops
        rw [if_pos drops] at first
        rw [← first]
        exact later
      · rename_i keeps
        rw [if_neg keeps] at first
        exact follow_cons_eq_some_iff.mpr ⟨_, first, later⟩

end Listener

end Anteroom
