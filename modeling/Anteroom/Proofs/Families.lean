import Mathlib.Logic.Relation
import Anteroom.Session.Signals

/-!
# Families of handles

A handle shows what was fired on the handles of its family, and on no others.
Whose family it is follows from the calls alone: cloning relates a handle to
the one it was made of, and a family is a class of the equivalence that these
pairs generate.  So it does not matter whether a clone was made before or after
a signal fired, nor which handle of the family it was fired on, nor when a wait
for it was started.
-/

namespace Anteroom

namespace Switchboard

/-- Something that is done with handles. -/
inductive Call
  | create
  | clone (handle : Nat)
  | fire (handle : Nat) (signal : Signal)
  | wait (handle : Nat) (signal : Signal)
  deriving DecidableEq

/-- The switchboard after a call. -/
def make (board : Switchboard) : Call → Switchboard
  | .create => board.create
  | .clone handle => board.clone handle
  | .fire handle signal => board.fire handle signal
  | .wait handle signal => board.wait handle signal

/-- The switchboard after some calls, one after another. -/
def makeAll (calls : List Call) : Switchboard :=
  calls.foldl make {}

end Switchboard

/-- What has been done with handles so far.  Nothing can be done with a handle that does not
exist. -/
structure Past where
  /-- For each handle, the one it is a clone of, if any. -/
  origins : List (Option Nat) := []
  /-- The handles that signals were fired on, and the signals. -/
  fires : List (Nat × Signal) := []
  /-- The handles that waits were started on, and the signals they are for. -/
  waits : List (Nat × Signal) := []

namespace Past

open Switchboard (Call)

/-- The past after one more call. -/
def note (past : Past) : Call → Past
  | .create => { past with origins := past.origins ++ [none] }
  | .clone handle =>
      if handle < past.origins.length then
        { past with origins := past.origins ++ [some handle] }
      else past
  | .fire handle signal =>
      if handle < past.origins.length then
        { past with fires := past.fires ++ [(handle, signal)] }
      else past
  | .wait handle signal =>
      if handle < past.origins.length then
        { past with waits := past.waits ++ [(handle, signal)] }
      else past

/-- The past that some calls leave behind. -/
def ofCalls (calls : List Call) : Past :=
  calls.foldl note {}

/-- Two handles are of one family: cloning leads from one to the other, in either direction and
any number of times. -/
def Kin (past : Past) : Nat → Nat → Prop :=
  Relation.EqvGen fun handle clone => past.origins[clone]? = some (some handle)

/-- A signal was fired on a handle of the family of `handle`. -/
def Fired (past : Past) (handle : Nat) (signal : Signal) : Prop :=
  ∃ fired, (fired, signal) ∈ past.fires ∧ past.Kin fired handle

end Past

/-- What a list holds is found at the same place in every list that goes on with more. -/
theorem getElem?_of_isPrefix {α : Type} {items more : List α} {item : α} {index : Nat}
    (goes : items <+: more) (found : items[index]? = some item) : more[index]? = some item := by
  obtain ⟨rest, rfl⟩ := goes
  rw [List.getElem?_append_left (List.getElem?_eq_some_iff.mp found).1]
  exact found

/-- An item of a list with one more item at its end. -/
theorem getElem?_concat_eq_some_iff {α : Type} {items : List α} {last item : α} {index : Nat} :
    (items ++ [last])[index]? = some item ↔
      items[index]? = some item ∨ index = items.length ∧ last = item := by
  rcases Nat.lt_trichotomy index items.length with inside | rfl | outside
  · rw [List.getElem?_append_left inside]
    simp only [Nat.ne_of_lt inside, false_and, or_false]
  · simp
  · have far : (items ++ [last]).length ≤ index := by
      rw [List.length_append, List.length_singleton]
      exact outside
    simp [List.getElem?_eq_none far, List.getElem?_eq_none (Nat.le_of_lt outside),
      Nat.ne_of_gt outside]

namespace Past

open Switchboard (Call)

/-- What has been done stays done. -/
structure Grows (past next : Past) : Prop where
  origins : past.origins <+: next.origins
  fires : past.fires <+: next.fires
  waits : past.waits <+: next.waits

theorem Grows.refl (past : Past) : past.Grows past :=
  ⟨List.prefix_rfl, List.prefix_rfl, List.prefix_rfl⟩

theorem Grows.trans {past middle next : Past} (first : past.Grows middle)
    (second : middle.Grows next) : past.Grows next :=
  ⟨first.origins.trans second.origins, first.fires.trans second.fires,
    first.waits.trans second.waits⟩

theorem grows_note (past : Past) (call : Call) : past.Grows (past.note call) := by
  have kept := Grows.refl past
  cases call with
  | create => exact ⟨List.prefix_append _ _, kept.fires, kept.waits⟩
  | clone =>
      rw [note]
      split
      · exact ⟨List.prefix_append _ _, kept.fires, kept.waits⟩
      · exact kept
  | fire =>
      rw [note]
      split
      · exact ⟨kept.origins, List.prefix_append _ _, kept.waits⟩
      · exact kept
  | wait =>
      rw [note]
      split
      · exact ⟨kept.origins, kept.fires, List.prefix_append _ _⟩
      · exact kept

theorem grows_noteAll (past : Past) (calls : List Call) :
    past.Grows (calls.foldl note past) := by
  induction calls generalizing past with
  | nil => exact .refl past
  | cons call calls ih => exact (past.grows_note call).trans (ih (past.note call))

/-- A family stays one when handles are added. -/
theorem Kin.mono {past next : Past} {handle other : Nat} (kin : past.Kin handle other)
    (grows : past.origins <+: next.origins) : next.Kin handle other :=
  Relation.EqvGen.mono (fun _ _ bred => getElem?_of_isPrefix grows bred) _ _ kin

/-- A signal that was fired in a family stays so. -/
theorem Fired.mono {past next : Past} {handle : Nat} {signal : Signal}
    (fired : past.Fired handle signal) (grows : past.Grows next) : next.Fired handle signal := by
  obtain ⟨other, member, kin⟩ := fired
  exact ⟨other, grows.fires.subset member, kin.mono grows.origins⟩

/-- Only a call that fires a signal adds to what was fired. -/
theorem mem_fires_note_iff {past : Past} {call : Call} {handle : Nat} {signal : Signal} :
    (handle, signal) ∈ (past.note call).fires ↔
      (handle, signal) ∈ past.fires ∨
        call = .fire handle signal ∧ handle < past.origins.length := by
  cases call with
  | create => simp [note]
  | clone other =>
      rw [note]
      split <;> simp
  | fire other given =>
      rw [note]
      split
      · rename_i inside
        simp only [List.mem_append, List.mem_singleton, Prod.mk.injEq, Call.fire.injEq]
        constructor
        · rintro (there | ⟨rfl, rfl⟩)
          · exact .inl there
          · exact .inr ⟨⟨rfl, rfl⟩, inside⟩
        · rintro (there | ⟨⟨rfl, rfl⟩, _⟩)
          · exact .inl there
          · exact .inr ⟨rfl, rfl⟩
      · rename_i outside
        refine (or_iff_left ?_).symm
        rintro ⟨same, inside⟩
        cases same
        exact outside inside
  | wait other given =>
      rw [note]
      split <;> simp

/-- The switchboard holds the handles of one family together and keeps those of different families
apart; a family's signals are those fired on its handles, and the waits are those started. -/
structure Represents (past : Past) (board : Switchboard) : Prop where
  count : board.handles.length = past.origins.length
  bounded : ∀ family ∈ board.handles, family < board.families.length
  known : ∀ fired ∈ past.fires, fired.1 < past.origins.length
  bred : ∀ handle clone : Nat, past.origins[clone]? = some (some handle) →
    ∃ family, board.handles[handle]? = some family ∧ board.handles[clone]? = some family
  kin : ∀ handle other family : Nat, board.handles[handle]? = some family →
    board.handles[other]? = some family → past.Kin handle other
  fired : ∀ family signal, (board.signalsOf family).fired signal = true ↔
    ∃ handle, (handle, signal) ∈ past.fires ∧ board.handles[handle]? = some family
  waiting : board.waits.length = past.waits.length
  waits : ∀ (index handle : Nat) (signal : Signal), past.waits[index]? = some (handle, signal) →
    ∃ family, board.handles[handle]? = some family ∧ board.waits[index]? = some ⟨family, signal⟩

theorem represents_nothing : ({} : Past).Represents {} where
  count := rfl
  bounded := List.forall_mem_nil _
  known := List.forall_mem_nil _
  bred := nofun
  kin := nofun
  fired := by
    intro family signal
    cases signal <;> simp [Switchboard.signalsOf, Signals.fired]
  waiting := rfl
  waits := nofun

namespace Represents

variable {past : Past} {board : Switchboard} (represents : past.Represents board)
include represents

/-- The handles that exist have a family. -/
theorem exists_family_iff {handle : Nat} :
    (∃ family, board.handles[handle]? = some family) ↔ handle < past.origins.length := by
  rw [← represents.count]
  constructor
  · rintro ⟨family, found⟩
    exact (List.getElem?_eq_some_iff.mp found).1
  · intro inside
    exact ⟨_, List.getElem?_eq_getElem inside⟩

/-- The handles of a family are those related to one of them. -/
theorem kin_iff {handle other family : Nat} (found : board.handles[handle]? = some family) :
    past.Kin other handle ↔ board.handles[other]? = some family := by
  constructor
  · intro kin
    have same : board.handles[other]? = board.handles[handle]? := by
      clear found
      induction kin with
      | rel handle clone bred =>
          obtain ⟨family, first, second⟩ := represents.bred handle clone bred
          exact first.trans second.symm
      | refl => rfl
      | symm _ _ _ ih => exact ih.symm
      | trans _ _ _ _ _ first second => exact first.trans second
    exact same.trans found
  · intro there
    exact represents.kin other handle family there found

/-- The signals of a handle's family are those fired for it. -/
theorem fired_iff {handle family : Nat} (found : board.handles[handle]? = some family)
    (signal : Signal) :
    (board.signalsOf family).fired signal = true ↔ past.Fired handle signal := by
  rw [represents.fired, Fired]
  simp only [represents.kin_iff found]

/-- Room for one more family changes nothing. -/
theorem addFamily :
    past.Represents { board with families := board.families ++ [{}] } where
  count := represents.count
  bounded := by
    intro family member
    rw [List.length_append]
    exact Nat.lt_add_right _ (represents.bounded family member)
  known := represents.known
  bred := represents.bred
  kin := represents.kin
  fired := by
    intro family signal
    have same : Switchboard.signalsOf { board with families := board.families ++ [{}] } family =
        board.signalsOf family := by
      rcases Nat.lt_or_ge family board.families.length with inside | outside
      · simp [Switchboard.signalsOf, List.getElem?_append_left inside]
      · rw [Switchboard.signalsOf, Switchboard.signalsOf, List.getElem?_append_right outside,
          List.getElem?_eq_none outside, List.getElem?_singleton]
        split <;> rfl
    rw [same]
    exact represents.fired family signal
  waiting := represents.waiting
  waits := represents.waits

/-- One more handle joins the family of the one it is a clone of, or one without handles. -/
theorem addHandle {family : Nat} {origin : Option Nat} (room : family < board.families.length)
    (joins : ∀ handle : Nat, origin = some handle → board.handles[handle]? = some family)
    (alone : ∀ handle : Nat, board.handles[handle]? = some family → ∃ parent, origin = some parent) :
    ({ past with origins := past.origins ++ [origin] } : Past).Represents
      { board with handles := board.handles ++ [family] } := by
  have kept {handle family other : Nat} (found : board.handles[handle]? = some family) :
      (board.handles ++ [other])[handle]? = some family :=
    getElem?_concat_eq_some_iff.mpr (.inl found)
  have grown {handle other : Nat} (kin : past.Kin handle other) :
      ({ past with origins := past.origins ++ [origin] } : Past).Kin handle other :=
    kin.mono (List.prefix_append _ _)
  have closer (handle : Nat) (found : board.handles[handle]? = some family) :
      ({ past with origins := past.origins ++ [origin] } : Past).Kin handle
        board.handles.length := by
    obtain ⟨parent, rfl⟩ := alone handle found
    refine .trans _ parent _ (grown (represents.kin _ _ _ found (joins parent rfl))) (.rel _ _ ?_)
    exact getElem?_concat_eq_some_iff.mpr (.inr ⟨represents.count, rfl⟩)
  constructor
  case count => simp [represents.count]
  case bounded =>
    intro other member
    rcases List.mem_append.mp member with there | new
    · exact represents.bounded other there
    · exact List.mem_singleton.mp new ▸ room
  case known =>
    intro fired member
    rw [List.length_append]
    exact Nat.lt_add_right _ (represents.known fired member)
  case bred =>
    intro handle clone bred
    rcases getElem?_concat_eq_some_iff.mp bred with there | ⟨rfl, rfl⟩
    · obtain ⟨shared, first, second⟩ := represents.bred handle clone there
      exact ⟨shared, kept first, kept second⟩
    · refine ⟨family, kept (joins handle rfl), getElem?_concat_eq_some_iff.mpr (.inr ⟨?_, rfl⟩)⟩
      exact represents.count.symm
  case kin =>
    intro handle other shared first second
    rcases getElem?_concat_eq_some_iff.mp first with old | ⟨rfl, rfl⟩
    · rcases getElem?_concat_eq_some_iff.mp second with there | ⟨rfl, rfl⟩
      · exact grown (represents.kin handle other shared old there)
      · exact closer handle old
    · rcases getElem?_concat_eq_some_iff.mp second with there | ⟨rfl, _⟩
      · exact .symm _ _ (closer other there)
      · exact .refl _
  case fired =>
    intro other signal
    refine (represents.fired other signal).trans ⟨?_, ?_⟩
    · rintro ⟨handle, member, found⟩
      exact ⟨handle, member, kept found⟩
    · rintro ⟨handle, member, found⟩
      rcases getElem?_concat_eq_some_iff.mp found with there | ⟨rfl, _⟩
      · exact ⟨handle, member, there⟩
      · have before := represents.known _ member
        rw [← represents.count] at before
        exact absurd before (Nat.lt_irrefl _)
  case waiting => exact represents.waiting
  case waits =>
    intro index handle signal started
    obtain ⟨shared, found, wait⟩ := represents.waits index handle signal started
    exact ⟨shared, kept found, wait⟩

/-- Firing a signal on a handle fires it for its family, and nothing else. -/
theorem addFire {handle family : Nat} (found : board.handles[handle]? = some family)
    (signal : Signal) :
    ({ past with fires := past.fires ++ [(handle, signal)] } : Past).Represents
      { board with families := board.families.modify family (·.fire signal) } := by
  have room := represents.bounded family (List.mem_of_getElem? found)
  constructor
  case count => exact represents.count
  case bounded =>
    intro other member
    rw [List.length_modify]
    exact represents.bounded other member
  case known =>
    intro fired member
    rcases List.mem_append.mp member with there | new
    · exact represents.known fired there
    · rw [List.mem_singleton.mp new]
      exact represents.exists_family_iff.mp ⟨family, found⟩
  case bred => exact represents.bred
  case kin => exact represents.kin
  case fired =>
    intro other given
    have before := represents.fired other given
    simp only [List.mem_append, List.mem_singleton, Prod.mk.injEq]
    by_cases same : family = other
    · subst same
      have fires : Switchboard.signalsOf
          { board with families := board.families.modify family (·.fire signal) } family =
          (board.signalsOf family).fire signal := by
        simp [Switchboard.signalsOf, List.getElem?_eq_getElem room]
      rw [fires, Signals.fired_fire, Bool.or_eq_true, before, decide_eq_true_eq]
      constructor
      · rintro (⟨earlier, member, there⟩ | rfl)
        · exact ⟨earlier, .inl member, there⟩
        · exact ⟨handle, .inr ⟨rfl, rfl⟩, found⟩
      · rintro ⟨earlier, member | ⟨_, rfl⟩, there⟩
        · exact .inl ⟨earlier, member, there⟩
        · exact .inr rfl
    · have kept : Switchboard.signalsOf
          { board with families := board.families.modify family (·.fire signal) } other =
          board.signalsOf other := by
        simp [Switchboard.signalsOf, same]
      rw [kept, before]
      constructor
      · rintro ⟨earlier, member, there⟩
        exact ⟨earlier, .inl member, there⟩
      · rintro ⟨earlier, member | ⟨rfl, _⟩, there⟩
        · exact ⟨earlier, member, there⟩
        · exact absurd (Option.some.inj (found.symm.trans there)) same
  case waiting => exact represents.waiting
  case waits => exact represents.waits

/-- A wait is for the family of the handle it is started on. -/
theorem addWait {handle family : Nat} (found : board.handles[handle]? = some family)
    (signal : Signal) :
    ({ past with waits := past.waits ++ [(handle, signal)] } : Past).Represents
      { board with waits := board.waits ++ [{ family, signal }] } where
  count := represents.count
  bounded := represents.bounded
  known := represents.known
  bred := represents.bred
  kin := represents.kin
  fired := represents.fired
  waiting := by simp [represents.waiting]
  waits := by
    intro index other awaited started
    rcases getElem?_concat_eq_some_iff.mp started with earlier | ⟨rfl, new⟩
    · obtain ⟨shared, there, wait⟩ := represents.waits index other awaited earlier
      exact ⟨shared, there, getElem?_concat_eq_some_iff.mpr (.inl wait)⟩
    · cases new
      refine ⟨family, found, getElem?_concat_eq_some_iff.mpr (.inr ⟨?_, rfl⟩)⟩
      exact represents.waiting.symm

/-- Each call does to the switchboard what it adds to the past. -/
theorem note (call : Call) : (past.note call).Represents (board.make call) := by
  have unknown {handle : Nat} (missing : ¬ handle < past.origins.length) :
      board.handles[handle]? = none :=
    List.getElem?_eq_none (represents.count ▸ Nat.le_of_not_lt missing)
  cases call with
  | create =>
      refine represents.addFamily.addHandle ?_ nofun ?_
      · simp
      · intro handle found
        exact absurd (represents.bounded _ (List.mem_of_getElem? found)) (Nat.lt_irrefl _)
  | clone handle =>
      by_cases inside : handle < past.origins.length
      · obtain ⟨family, found⟩ := represents.exists_family_iff.mpr inside
        simp only [Past.note, Switchboard.make, Switchboard.clone, inside, found, if_true]
        refine represents.addHandle (represents.bounded _ (List.mem_of_getElem? found)) ?_ ?_
        · rintro _ ⟨⟩
          exact found
        · exact fun _ _ => ⟨handle, rfl⟩
      · simp only [Past.note, Switchboard.make, Switchboard.clone, inside, unknown inside, if_false]
        exact represents
  | fire handle signal =>
      by_cases inside : handle < past.origins.length
      · obtain ⟨family, found⟩ := represents.exists_family_iff.mpr inside
        simp only [Past.note, Switchboard.make, Switchboard.fire, inside, found, if_true]
        exact represents.addFire found signal
      · simp only [Past.note, Switchboard.make, Switchboard.fire, inside, unknown inside, if_false]
        exact represents
  | wait handle signal =>
      by_cases inside : handle < past.origins.length
      · obtain ⟨family, found⟩ := represents.exists_family_iff.mpr inside
        simp only [Past.note, Switchboard.make, Switchboard.wait, inside, found, if_true]
        exact represents.addWait found signal
      · simp only [Past.note, Switchboard.make, Switchboard.wait, inside, unknown inside, if_false]
        exact represents

theorem noteAll (calls : List Call) :
    (calls.foldl Past.note past).Represents (calls.foldl Switchboard.make board) := by
  induction calls generalizing past board with
  | nil => exact represents
  | cons call calls ih => exact ih (represents.note call)

end Represents

end Past

namespace Switchboard

/-- The past of some calls represents the switchboard after them. -/
theorem represents_makeAll (calls : List Call) : (Past.ofCalls calls).Represents (makeAll calls) :=
  Past.represents_nothing.noteAll calls

theorem seen_eq_some_iff {board : Switchboard} {handle : Nat} {signals : Signals} :
    board.seen[handle]? = some signals ↔
      ∃ family, board.handles[handle]? = some family ∧ board.signalsOf family = signals := by
  rw [seen, List.getElem?_map, Option.map_eq_some_iff]

/-- A call takes no handle out of its family. -/
theorem handles_make {board : Switchboard} {handle family : Nat}
    (found : board.handles[handle]? = some family) (call : Call) :
    (board.make call).handles[handle]? = some family := by
  cases call with
  | create => exact getElem?_concat_eq_some_iff.mpr (.inl found)
  | clone =>
      rw [make, clone]
      split
      · exact getElem?_concat_eq_some_iff.mpr (.inl found)
      · exact found
  | fire =>
      rw [make, fire]
      split <;> exact found
  | wait =>
      rw [make, wait]
      split <;> exact found

end Switchboard

namespace Past.Represents

open Switchboard (Call seen_eq_some_iff)

variable {past : Past} {board : Switchboard} (represents : past.Represents board)
include represents

theorem length_seen : board.seen.length = past.origins.length := by
  rw [Switchboard.seen, List.length_map, represents.count]

theorem length_done : board.done.length = past.waits.length := by
  rw [Switchboard.done, List.length_map, represents.waiting]

/-- A handle shows what was fired in its family. -/
theorem seen_iff {handle : Nat} {signals : Signals} (seen : board.seen[handle]? = some signals)
    (signal : Signal) : signals.fired signal = true ↔ past.Fired handle signal := by
  obtain ⟨family, found, rfl⟩ := seen_eq_some_iff.mp seen
  exact represents.fired_iff found signal

/-- A wait is done if what it waits for was fired in its family. -/
theorem done_iff {index handle : Nat} {signal : Signal}
    (started : past.waits[index]? = some (handle, signal)) :
    board.done[index]? = some true ↔ past.Fired handle signal := by
  obtain ⟨family, found, wait⟩ := represents.waits index handle signal started
  rw [Switchboard.done, List.getElem?_map, wait, Option.map_some, Option.some.injEq]
  exact represents.fired_iff found signal

/-- What exists is shown. -/
theorem exists_seen {handle : Nat} (inside : handle < past.origins.length) :
    ∃ signals, board.seen[handle]? = some signals := by
  obtain ⟨family, found⟩ := represents.exists_family_iff.mpr inside
  exact ⟨_, seen_eq_some_iff.mpr ⟨family, found, rfl⟩⟩

/-- A call makes no families out of handles that exist. -/
theorem kin_note_iff {handle other : Nat} (inside : handle < past.origins.length)
    (known : other < past.origins.length) (call : Call) :
    (past.note call).Kin other handle ↔ past.Kin other handle := by
  obtain ⟨family, found⟩ := represents.exists_family_iff.mpr inside
  obtain ⟨shared, there⟩ := represents.exists_family_iff.mpr known
  have next := represents.note call
  rw [next.kin_iff (Switchboard.handles_make found call), represents.kin_iff found, there,
    Switchboard.handles_make there call]

/-- Of all calls only one that fires this signal in the family of a handle changes whether it was
fired there. -/
theorem fired_note_iff {handle : Nat} (inside : handle < past.origins.length) (call : Call)
    (signal : Signal) :
    (past.note call).Fired handle signal ↔
      past.Fired handle signal ∨ ∃ fired, call = .fire fired signal ∧ past.Kin fired handle := by
  constructor
  · rintro ⟨fired, member, kin⟩
    rcases mem_fires_note_iff.mp member with earlier | ⟨now, known⟩
    · have known := represents.known _ earlier
      exact .inl ⟨fired, earlier, (represents.kin_note_iff inside known call).mp kin⟩
    · exact .inr ⟨fired, now, (represents.kin_note_iff inside known call).mp kin⟩
  · rintro (earlier | ⟨fired, now, kin⟩)
    · exact earlier.mono (past.grows_note call)
    · obtain ⟨family, found⟩ := represents.exists_family_iff.mpr inside
      have known := represents.exists_family_iff.mp
        ⟨family, (represents.kin_iff found).mp kin⟩
      exact ⟨fired, mem_fires_note_iff.mpr (.inr ⟨now, known⟩),
        kin.mono (past.grows_note call).origins⟩

end Past.Represents

namespace Switchboard

/-- After any calls each handle shows a signal exactly if the signal was fired on some handle of its
family, however the family came about, and a wait is done exactly if what it waits for was fired
in the family of the handle it was started on.  What a handle has shown it shows after whatever
calls come later, and a wait that is done stays so.  A call changes what a handle shows of a signal
only by firing this very signal on a handle of its family, and the same holds of waits. -/
theorem handles_show_their_family (calls later : List Call) :
    let past := Past.ofCalls calls
    let board := makeAll calls
    board.seen.length = past.origins.length ∧ board.done.length = past.waits.length ∧
    (∀ (handle : Nat) (signals : Signals), board.seen[handle]? = some signals → ∀ signal,
      (signals.fired signal = true ↔ past.Fired handle signal)) ∧
    (∀ (index handle : Nat) (signal : Signal), past.waits[index]? = some (handle, signal) →
      (board.done[index]? = some true ↔ past.Fired handle signal)) ∧
    (∀ (handle : Nat) (signals : Signals), board.seen[handle]? = some signals →
      ∃ last : Signals, (makeAll (calls ++ later)).seen[handle]? = some last ∧
        ∀ signal, signals.fired signal = true → last.fired signal = true) ∧
    (∀ index : Nat, board.done[index]? = some true →
      (makeAll (calls ++ later)).done[index]? = some true) ∧
    (∀ (call : Call) (handle : Nat) (signals : Signals), board.seen[handle]? = some signals →
      ∃ next : Signals, (board.make call).seen[handle]? = some next ∧ ∀ signal,
        (next.fired signal = true ↔ signals.fired signal = true ∨
          ∃ fired, call = .fire fired signal ∧ past.Kin fired handle)) ∧
    (∀ (call : Call) (index handle : Nat) (signal : Signal),
      past.waits[index]? = some (handle, signal) →
        ((board.make call).done[index]? = some true ↔ board.done[index]? = some true ∨
          ∃ fired, call = .fire fired signal ∧ past.Kin fired handle)) := by
  intro past board
  have represents : past.Represents board := represents_makeAll calls
  have after : (Past.ofCalls (calls ++ later)).Represents (makeAll (calls ++ later)) :=
    represents_makeAll (calls ++ later)
  have grows : past.Grows (Past.ofCalls (calls ++ later)) := by
    rw [Past.ofCalls, List.foldl_append]
    exact past.grows_noteAll later
  have exists_of_seen {handle : Nat} {signals : Signals}
      (seen : board.seen[handle]? = some signals) : handle < past.origins.length :=
    represents.length_seen ▸ (List.getElem?_eq_some_iff.mp seen).1
  have exists_of_wait {index handle : Nat} {signal : Signal}
      (started : past.waits[index]? = some (handle, signal)) : handle < past.origins.length := by
    obtain ⟨family, found, _⟩ := represents.waits index handle signal started
    exact represents.exists_family_iff.mp ⟨family, found⟩
  refine ⟨represents.length_seen, represents.length_done, ?_, ?_, ?_, ?_, ?_, ?_⟩
  · intro handle signals seen
    exact represents.seen_iff seen
  · intro index handle signal started
    exact represents.done_iff started
  · intro handle signals seen
    have inside := Nat.lt_of_lt_of_le (exists_of_seen seen) grows.origins.length_le
    obtain ⟨last, shown⟩ := after.exists_seen inside
    refine ⟨last, shown, fun signal fired => ?_⟩
    exact (after.seen_iff shown signal).mpr (((represents.seen_iff seen signal).mp fired).mono grows)
  · intro index done
    have inside : index < past.waits.length :=
      represents.length_done ▸ (List.getElem?_eq_some_iff.mp done).1
    have started : past.waits[index]? = some past.waits[index] := List.getElem?_eq_getElem inside
    have fired := (represents.done_iff started).mp done
    exact (after.done_iff (getElem?_of_isPrefix grows.waits started)).mpr (fired.mono grows)
  · intro call handle signals seen
    have inside := exists_of_seen seen
    have next := represents.note call
    obtain ⟨last, shown⟩ := next.exists_seen
      (Nat.lt_of_lt_of_le inside (past.grows_note call).origins.length_le)
    refine ⟨last, shown, fun signal => ?_⟩
    rw [next.seen_iff shown, represents.seen_iff seen, represents.fired_note_iff inside]
  · intro call index handle signal started
    have next := represents.note call
    have still := getElem?_of_isPrefix (past.grows_note call).waits started
    rw [next.done_iff still, represents.done_iff started,
      represents.fired_note_iff (exists_of_wait started)]

/-- Two families: the first one has clones, and a clone of a clone, made before and after the
signal that is fired on one of them. -/
def relatives : List Call :=
  [.create, .create, .clone 0, .wait 2 .completed, .clone 2, .fire 3 .completed, .clone 0,
    .wait 4 .completed, .wait 1 .completed]

/-- A clone made after the signal shows it, the other family does not, and waits for it are done
whether they were started before or after; what is fired in the other family later changes only
that. -/
theorem handles_show_their_family_of_relatives :
    (Past.ofCalls relatives).Fired 4 .completed ∧ ¬ (Past.ofCalls relatives).Fired 1 .completed ∧
    (makeAll relatives).done = [true, true, false] ∧
    (Past.ofCalls relatives).waits[0]? = some (2, .completed) ∧
    (Past.ofCalls relatives).Fired 2 .completed ∧
    (makeAll (relatives ++ [.fire 1 .closed])).done[1]? = some true ∧
    (∃ last : Signals, (makeAll (relatives ++ [.fire 1 .closed])).seen[4]? = some last ∧
      last.fired .completed = true) ∧
    (∃ next : Signals, ((makeAll relatives).make (.fire 1 .completed)).seen[1]? = some next ∧
      next.fired .completed = true) ∧
    ((makeAll relatives).make (.fire 1 .completed)).done[2]? = some true := by
  obtain ⟨_, _, shows, finishes, keeps, rests, changes, awaits⟩ :=
    handles_show_their_family relatives [.fire 1 .closed]
  have clone : (makeAll relatives).seen[4]? = some ⟨true, false⟩ := rfl
  have apart : (makeAll relatives).seen[1]? = some ⟨false, false⟩ := rfl
  have itself : (Past.ofCalls relatives).Kin 1 1 := .refl 1
  refine ⟨(shows 4 _ clone .completed).mp rfl, ?_, rfl, rfl, (finishes 0 2 .completed rfl).mp rfl,
    rests 1 rfl, ?_, ?_, ?_⟩
  · exact fun fired => Bool.false_ne_true ((shows 1 _ apart .completed).mpr fired)
  · obtain ⟨last, shown, still⟩ := keeps 4 _ clone
    exact ⟨last, shown, still .completed rfl⟩
  · obtain ⟨next, shown, now⟩ := changes (.fire 1 .completed) 1 _ apart
    exact ⟨next, shown, (now .completed).mpr (.inr ⟨1, rfl, itself⟩)⟩
  · exact (awaits (.fire 1 .completed) 2 1 .completed rfl).mpr (.inr ⟨1, rfl, itself⟩)

end Switchboard

end Anteroom
