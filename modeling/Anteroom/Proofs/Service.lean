import Mathlib.Logic.Function.Basic
import Anteroom.Proofs.Chronicle
import Anteroom.Proofs.Forwarding
import Anteroom.Proofs.Pipeline
import Anteroom.Proofs.Pongs
import Anteroom.Relay

/-!
# The relay at work

The parties of the relay act beside those of its listener.  One of them calls
accept, one call after another.  Every session that has been returned has a
task of its own that reads a datagram, sends it back, and reads the next one;
such a task may be held up in between, and then it has the datagram in hand.
As for a listener alone, the order in which the parties act is left open.
-/

namespace Anteroom

/-- The datagram that a session sent, and its receiver. -/
def Event.sentBy? (session : Nat) : Event → Option (Address × Bytes)
  | .sent peer datagram (some sender) => if sender = session then some (peer, datagram) else none
  | _ => none

namespace Listener

/-- What a session has sent, and to whom, oldest first. -/
def sentBy (l : Listener) (session : Nat) : List (Address × Bytes) :=
  l.events.filterMap (Event.sentBy? session)

/-- The datagram that the application would get from a session now. -/
def readable? (l : Listener) (session : Nat) : Option Bytes := do
  match (← l.accepted? session).recv.2 with
  | .datagram datagram => some datagram
  | _ => none

/-! ## What a session sends -/

/-- Of what a session sends, only a step in which the application sends on it tells. -/
theorem Tells.sentBy {l next : Listener} {step : Step} {events : List Event}
    (tells : l.Tells step events next) {session : Nat}
    (other : ∀ datagram, step ≠ .command (.sendSession session datagram)) :
    next.sentBy session = l.sentBy session := by
  have nothing : events.filterMap (Event.sentBy? session) = [] := by
    rw [List.filterMap_eq_nil_iff]
    intro event member
    have told := tells.told event member
    cases event with
    | sent peer datagram sender =>
        cases sender with
        | none => rfl
        | some sender =>
            refine if_neg ?_
            rintro rfl
            exact other datagram told
    | _ => rfl
  rw [Listener.sentBy, tells.events, List.filterMap_append, nothing, List.append_nil]
  rfl

/-! ## What does not end a listener -/

/-- Whether a step begins to end the listener: it closes it or lets go of it. -/
def ends : Step → Bool
  | .command .close => true
  | .command .release => true
  | _ => false

/-- A listener of raw sessions that nothing has ended. -/
structure Runs (l : Listener) : Prop where
  raw : ∀ number, l.setup.plan number = .raw
  running : l.shutdown = false
  held : l.released = false
  going : l.loop.ended = false

theorem runs_start {setup : Setup} (raw : ∀ number, setup.plan number = .raw) :
    (Listener.start setup).Runs :=
  ⟨raw, rfl, rfl, rfl⟩

/-- No datagram ends the read loop, as the creation of a raw session does not fail. -/
theorem Handled.going {l next : Listener} {peer : Address} {datagram : Bytes}
    (handled : Handled l peer datagram next) (raw : ∀ number, l.setup.plan number = .raw)
    (going : l.loop.ended = false) : next.loop.ended = false := by
  cases handled with
  | failed _ _ _ planned =>
      rw [raw] at planned
      cases planned
  | negotiated =>
      rw [offer]
      split
      · exact going
      · rfl
  | _ => exact going

/-- A listener of raw sessions runs until it is closed or let go of. -/
theorem Went.runs {l next : Listener} {step : Step} (went : Went l step next)
    (stays : ends step = false) (runs : l.Runs) : next.Runs := by
  have raw : ∀ number, next.setup.plan number = .raw :=
    fun number => (congrArg (·.plan number) went.setup).trans (runs.raw number)
  cases went with
  | command issued =>
      cases issued with
      | closing | released => cases stays
      | _ => exact ⟨raw, runs.running, runs.held, runs.going⟩
  | move moved =>
      cases moved with
      | released released => exact absurd (released.symm.trans runs.held) (by decide)
      | stopped shut => exact absurd (shut.symm.trans runs.running) (by decide)
      | enqueued => exact ⟨raw, runs.running, runs.held, rfl⟩
      | @handled delivery deliveries =>
          have handled :=
            handled_handle { l with backlog := deliveries } delivery.peer delivery.datagram
          have going := handled.going runs.raw runs.going
          rw [handled.eq_update] at going ⊢
          exact ⟨runs.raw, runs.running, runs.held, going⟩
      | _ => exact ⟨raw, runs.running, runs.held, runs.going⟩
  | closeSessions => exact ⟨raw, runs.running, runs.held, runs.going⟩

theorem Handled.created_le {l next : Listener} {peer : Address} {datagram : Bytes}
    (handled : Handled l peer datagram next) : next.created ≤ l.created + 1 := by
  cases handled with
  | forwarded => exact Nat.le_add_right_of_le (Nat.le_of_eq (Registry.length_modify ..))
  | negotiated =>
      rw [created_offer]
      exact Nat.le_of_eq (created_enroll l _)
  | _ => exact Nat.le_add_right _ _

/-- Sessions are created only from datagrams that are taken, at most one from each. -/
theorem Went.created_add_le {l next : Listener} {step : Step} (went : Went l step next) :
    next.created + next.backlog.length ≤
      l.created + l.backlog.length + step.arrival?.toList.length := by
  have backlog := congrArg List.length went.backlog
  simp only [List.length_append] at backlog
  suffices created : next.created ≤ l.created + (l.taken? step).toList.length by omega
  cases went with
  | command issued =>
      rw [issued.created]
      exact Nat.le_add_right _ _
  | move moved =>
      cases moved with
      | expired =>
          refine Nat.le_add_right_of_le (Nat.le_of_eq ?_)
          exact created_retire l _
      | @evicted index number =>
          refine Nat.le_add_right_of_le (Nat.le_of_eq ?_)
          exact congrArg List.length (Registry.sessions_unregister l.registry number)
      | @handled delivery deliveries arrived =>
          have taken : l.taken? (.move .handle) = some delivery := by rw [taken?, arrived]; rfl
          rw [taken]
          exact (handled_handle { l with backlog := deliveries } _ _).created_le
      | _ => exact Nat.le_add_right _ _
  | closeSessions =>
      refine Nat.le_add_right_of_le (Nat.le_of_eq ?_)
      exact Registry.length_closeEach ..

theorem created_add_le_follow {l last : Listener} {steps : List Step}
    (followed : l.follow steps = some last) :
    last.created + last.backlog.length ≤
      l.created + l.backlog.length + (steps.filterMap Step.arrival?).length := by
  induction steps generalizing l with
  | nil =>
      cases followed
      exact Nat.le_add_right _ _
  | cons step steps ih =>
      rcases follow_cons_eq_some_iff.mp followed with ⟨next, after, rest⟩
      have first := (went_of_after? after).created_add_le
      have others := ih rest
      cases arrival : step.arrival? with
      | none =>
          rw [arrival] at first
          rw [List.filterMap_cons_none arrival]
          exact Nat.le_trans others (Nat.add_le_add_right first _)
      | some delivery =>
          rw [arrival] at first
          rw [List.filterMap_cons_some arrival, List.length_cons]
          simp only [Option.toList_some, List.length_singleton] at first
          omega

end Listener

namespace Relay

/-! ## Schedules of the relay -/

/-- A relay at work: its listener, and what the tasks of its sessions have read and not sent
back yet. -/
structure Service where
  listener : Listener
  held : Nat → Option Bytes := fun _ => none

/-- Whether a command is something that happens to the relay: datagrams arrive, for it or for a
hijack of it, and time passes. -/
def isInput : Command → Bool
  | .deliver _ _ => true
  | .advance _ => true
  | .answerProbe _ _ _ => true
  | _ => false

namespace Service

/-- Whether a step may happen: an input, a move of the listener, an accept call when none is under
way, a task that reads a datagram when it has none in hand, or one that sends what it has read. -/
def allows (service : Service) : Step → Bool
  | .command .accept => !(service.listener.hasPendingCall || service.listener.shutdown)
  | .command (.readSession session) =>
      (service.held session).isNone && (service.listener.readable? session).isSome
  | .command (.sendSession session datagram) => service.held session = some datagram
  | .command command => isInput command
  | .move _ => true
  | .closeSessions => false

/-- What the tasks have in hand after a step. -/
def heldAfter (service : Service) : Step → Nat → Option Bytes
  | .command (.readSession session) =>
      Function.update service.held session (service.listener.readable? session)
  | .command (.sendSession session _) => Function.update service.held session none
  | _ => service.held

/-- Nothing happens any more without an input. -/
def Settled (service : Service) : Prop :=
  ∀ step, service.allows step = true → service.listener.after? step ≠ none →
    ∃ command, isInput command = true ∧ step = .command command

end Service

/-- What a schedule of steps leads to. -/
inductive Serves (first : Listener) : List Step → Service → Prop
  | start : Serves first [] { listener := first }
  | step {steps : List Step} {service : Service} {step : Step} {next : Listener}
      (served : Serves first steps service) (allowed : service.allows step = true)
      (after : service.listener.after? step = some next) :
      Serves first (steps ++ [step]) { listener := next, held := service.heldAfter step }

/-- The steps of the relay are steps of its listener. -/
theorem Serves.follow {first : Listener} {steps : List Step} {service : Service}
    (served : Serves first steps service) : first.follow steps = some service.listener := by
  induction served with
  | start => rfl
  | step _ _ after ih =>
      refine Listener.follow_append_eq_some_iff.mpr ⟨_, ih, ?_⟩
      exact Listener.follow_cons_eq_some_iff.mpr ⟨_, after, rfl⟩

/-- Steps that need nothing of the relay's own parties may follow. -/
theorem Serves.append_moves {first last : Listener} {steps : List Step} {service : Service}
    (served : Serves first steps service) {moves : List Move}
    (followed : service.listener.follow (moves.map .move) = some last) :
    Serves first (steps ++ moves.map .move) { service with listener := last } := by
  induction moves generalizing steps service with
  | nil =>
      cases followed
      rw [List.map_nil, List.append_nil]
      exact served
  | cons move moves ih =>
      rcases Listener.follow_cons_eq_some_iff.mp followed with ⟨next, after, rest⟩
      have further := ih (served.step rfl after) rest
      rw [List.append_assoc] at further
      exact further

/-- No step of the relay ends its listener. -/
theorem ends_of_allows {service : Service} {step : Step} (allowed : service.allows step = true) :
    Listener.ends step = false := by
  cases step with
  | command command =>
      cases command with
      | close | release => cases allowed
      | _ => rfl
  | _ => rfl

/-! ## The relay as it starts -/

/-- The listener of a relay that has just started: it runs, and no peer is known yet. -/
structure Opens (first : Listener) : Prop where
  runs : first.Runs
  tracked : first.Tracked
  settled : first.Settled
  created : first.created = 0
  backlog : first.backlog = []
  silent : ∀ session, first.sentBy session = []

theorem eq_ok_of_mapError {α ε ε' : Type} {outcome : Except ε α} {f : ε → ε'} {value : α}
    (ok : outcome.mapError f = .ok value) : outcome = .ok value := by
  cases outcome with
  | error => cases ok
  | ok given =>
      cases ok
      rfl

/-- A relay starts with raw sessions only, and with a payload of its own or a hijack. -/
theorem perform_of_start {id : Int64} {link : Link} {names : Names} {config : Config}
    {options : Options} {first : Listener}
    (started : start id link names config options = .ok first) :
    ∃ setup : Setup, ∃ command, (∀ number, setup.plan number = .raw) ∧
      first = (Listener.start setup).perform command ∧
        ((∃ payload, command = .setPong payload) ∨
          ∃ names endpoint, command = .hijack names endpoint) := by
  have raw : ∀ number, ((Builder.ofChoices [.endpoint options.endpoint, .config config]).setup
      id link fun _ => .raw).plan number = .raw := fun _ => rfl
  simp only [start, bind, Except.bind] at started
  split at started
  · cases started
  · rename_i l listened
    obtain rfl := Builder.eq_start_of_listen (eq_ok_of_mapError listened)
    split at started
    · rename_i endpoint _
      have hijacked := eq_ok_of_mapError started
      refine ⟨_, .hijack names endpoint, raw, ?_, .inr ⟨_, _, rfl⟩⟩
      rw [Listener.perform, hijacked]
      rfl
    · have stored := eq_ok_of_mapError started
      refine ⟨_, .setPong (descriptor id), raw, ?_, .inl ⟨_, rfl⟩⟩
      rw [Listener.perform, stored]
      rfl

/-- A relay that starts has a listener that runs and knows no peer yet. -/
theorem opens_of_start {id : Int64} {link : Link} {names : Names} {config : Config}
    {options : Options} {first : Listener}
    (started : start id link names config options = .ok first) : Opens first := by
  rcases perform_of_start started with ⟨setup, command, raw, rfl, kind⟩
  rcases Listener.exists_follow_perform (.start setup) command with ⟨steps, followed, commands⟩
  have isCommand : ∀ {given : Command}, .command given ∈ steps → given = command := by
    intro given member
    have listed : given ∈ steps.filterMap Step.command? := List.mem_filterMap.mpr ⟨_, member, rfl⟩
    rw [commands] at listed
    exact List.mem_singleton.mp listed
  have counts := Listener.created_add_le_follow followed
  have silent : steps.filterMap Step.arrival? = [] := by
    rw [List.filterMap_eq_nil_iff]
    intro step member
    cases step with
    | command given =>
        obtain rfl := isCommand member
        rcases kind with ⟨payload, rfl⟩ | ⟨names, endpoint, rfl⟩ <;> rfl
    | _ => rfl
  have nothing : (Listener.start setup).created + (Listener.start setup).backlog.length = 0 := rfl
  rw [silent, nothing] at counts
  constructor
  · apply Listener.follow_induction (P := Listener.Runs) _ (Listener.runs_start raw) followed
    intro step member l next runs went
    refine went.runs ?_ runs
    cases step with
    | command given =>
        obtain rfl := isCommand member
        rcases kind with ⟨payload, rfl⟩ | ⟨names, endpoint, rfl⟩ <;> rfl
    | _ => rfl
  · exact Listener.tracked_follow followed
  · exact (Listener.settled_start setup).perform command
  · exact Nat.eq_zero_of_le_zero (Nat.le_of_add_right_le counts)
  · exact List.eq_nil_of_length_eq_zero (Nat.eq_zero_of_le_zero (Nat.le_of_add_left_le counts))
  · intro session
    apply Listener.follow_induction (P := fun l => l.sentBy session = []) _ rfl followed
    intro step member l next silent went
    rcases went.told with ⟨events, tells⟩
    refine (tells.sentBy ?_).trans silent
    rintro datagram rfl
    obtain rfl := isCommand member
    rcases kind with ⟨payload, same⟩ | ⟨names, endpoint, same⟩ <;> cases same

end Relay

end Anteroom
