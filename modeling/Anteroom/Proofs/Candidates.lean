import Anteroom.Proofs.Chronicle

/-!
# Candidates

Only three kinds of steps touch the candidates that accept calls have in hand:
a call takes a candidate from the queue, a call is done with its candidate, and
a call is abandoned.  Every other step leaves them alone, and the fates of the
sessions too, except that a shutdown discards those that nobody has in hand.
-/

namespace Anteroom

/-- The session that an accept call took from the queue. -/
def Event.pulled? : Event → Option Nat
  | .pulled _ session => some session
  | _ => none

namespace Listener

/-- A step in which no session is taken from the queue, and what happens in it happens now. -/
def PullFree (l next : Listener) : Prop :=
  ∃ events : List Event, next.history = l.history ++ events.map (Entry.mk l.now) ∧
    ∀ event ∈ events, event.pulled? = none

theorem Tells.pullFree {l next : Listener} {step : Step} {events : List Event}
    (tells : l.Tells step events next) (other : step ≠ .move .pull) : l.PullFree next := by
  refine ⟨events, tells.history, ?_⟩
  intro event member
  cases event with
  | pulled => exact absurd (tells.told _ member) other
  | _ => rfl

theorem Issued.pullFree {l next : Listener} {command : Command} (issued : Issued l command next) :
    l.PullFree next := by
  rcases issued.told with ⟨events, tells⟩
  exact tells.pullFree nofun

theorem Handled.pullFree {l next : Listener} {peer : Address} {datagram : Bytes}
    (handled : Handled l peer datagram next) : l.PullFree next := by
  rcases handled.told with ⟨events, tells, _⟩
  exact tells.pullFree nofun

/-- Sessions are taken from the queue in pulls only. -/
theorem Moved.pullFree {l next : Listener} {move : Move} (moved : Moved l move next)
    (other : move ≠ .pull) : l.PullFree next := by
  rcases moved.told with ⟨events, tells⟩
  apply tells.pullFree
  rintro ⟨⟩
  exact other rfl

theorem Went.pullFree {l next : Listener} {step : Step} (went : Went l step next)
    (other : step ≠ .move .pull) : l.PullFree next := by
  rcases went.told with ⟨events, tells⟩
  exact tells.pullFree other

/-! ## What a step does to the candidates in hand -/

/-- A step that leaves the candidates in hand alone. -/
structure Untouched (l next : Listener) : Prop where
  inHand : next.inHand = l.inHand
  fates : ∃ sessions : List Nat, next.fates = l.fates ++ sessions.map (·, .discarded)

theorem Untouched.still {l next : Listener} (inHand : next.inHand = l.inHand)
    (fates : next.fates = l.fates) : l.Untouched next :=
  ⟨inHand, [], fates.trans (List.append_nil _).symm⟩

/-- A fate that is new after such a step is that of a discarded session. -/
theorem Untouched.mem_fates {l next : Listener} (untouched : l.Untouched next) {number : Nat}
    {fate : Fate} (other : fate ≠ .discarded) (met : (number, fate) ∈ next.fates) :
    (number, fate) ∈ l.fates := by
  rcases untouched.fates with ⟨sessions, fates⟩
  rw [fates] at met
  rcases List.mem_append.mp met with before | new
  · exact before
  · rcases List.mem_map.mp new with ⟨session, _, same⟩
    cases same
    exact absurd rfl other

/-- The steps that touch the candidates in hand. -/
inductive Served (l next : Listener) : Step → Prop
  | abandon {call : Nat} (issued : Issued l (.abandon call) next) :
      Served l next (.command (.abandon call))
  | pull (moved : Moved l .pull next) : Served l next (.move .pull)
  | resolve {index : Nat} (moved : Moved l (.resolve index) next) :
      Served l next (.move (.resolve index))
  | other {step : Step} (untouched : l.Untouched next) : Served l next step

/-- Every other step leaves the candidates in hand alone. -/
theorem Went.served {l next : Listener} {step : Step} (went : Went l step next) :
    Served l next step := by
  cases went with
  | command issued =>
      cases issued with
      | left waits => exact .abandon (.left waits)
      | lost found => exact .abandon (.lost found)
      | _ => exact .other (.still rfl rfl)
  | move moved =>
      cases moved with
      | pulled waiting queue running => exact .pull (.pulled waiting queue running)
      | dropped found shut => exact .resolve (.dropped found shut)
      | accepted found running complete => exact .resolve (.accepted found running complete)
      | expired found running incomplete due =>
          exact .resolve (.expired found running incomplete due)
      | stopped | drained => exact .other ⟨rfl, _, rfl⟩
      | handled =>
          rw [(handled_handle _ _ _).eq_update]
          exact .other (.still rfl rfl)
      | _ => exact .other (.still rfl rfl)
  | closeSessions => exact .other (.still rfl rfl)

end Listener

end Anteroom
