/-!
# Session signals

A session has two one-shot signals: it completes its handshake, and it closes.
A signal that has fired stays fired.  Handles can be cloned, and all handles of
a family share one pair of signals; waits that are started on a handle are done
as soon as the signal they wait for has fired in its family.
-/

namespace Anteroom

/-- The two signals of a session. -/
inductive Signal
  | completed
  | closed
  deriving DecidableEq, Repr

/-- Which of the two signals have fired. -/
structure Signals where
  completed : Bool := false
  closed : Bool := false
  deriving DecidableEq, Repr, Inhabited

namespace Signals

/-- Whether a signal has fired. -/
def fired (signals : Signals) : Signal → Bool
  | .completed => signals.completed
  | .closed => signals.closed

/-- Fires a signal.  Firing it again changes nothing. -/
def fire (signals : Signals) : Signal → Signals
  | .completed => { signals with completed := true }
  | .closed => { signals with closed := true }

@[simp]
theorem fired_fire (signals : Signals) (signal other : Signal) :
    (signals.fire signal).fired other = (signals.fired other || decide (signal = other)) := by
  cases signal <;> cases other <;> simp [fire, fired]

theorem fire_fire (signals : Signals) (signal : Signal) :
    (signals.fire signal).fire signal = signals.fire signal := by
  cases signal <;> rfl

end Signals

/-! ## Families of handles -/

/-- A wait for a signal of a family. -/
structure Wait where
  family : Nat
  signal : Signal
  deriving DecidableEq, Repr

/-- Handles on signals, the families they belong to, and the waits started on them. -/
structure Switchboard where
  /-- The signals of each family. -/
  families : List Signals := []
  /-- The family of each handle. -/
  handles : List Nat := []
  /-- The waits in the order they were started. -/
  waits : List Wait := []
  deriving DecidableEq, Repr

namespace Switchboard

/-- A handle of a new family, neither of whose signals has fired. -/
def create (board : Switchboard) : Switchboard :=
  { board with
    families := board.families ++ [{}]
    handles := board.handles ++ [board.families.length] }

/-- A new handle of the family of `handle`. -/
def clone (board : Switchboard) (handle : Nat) : Switchboard :=
  match board.handles[handle]? with
  | some family => { board with handles := board.handles ++ [family] }
  | none => board

/-- Fires a signal of the family of `handle`. -/
def fire (board : Switchboard) (handle : Nat) (signal : Signal) : Switchboard :=
  match board.handles[handle]? with
  | some family => { board with families := board.families.modify family (·.fire signal) }
  | none => board

/-- Starts a wait for a signal of the family of `handle`. -/
def wait (board : Switchboard) (handle : Nat) (signal : Signal) : Switchboard :=
  match board.handles[handle]? with
  | some family => { board with waits := board.waits ++ [{ family, signal }] }
  | none => board

/-- The signals of a family. -/
def signalsOf (board : Switchboard) (family : Nat) : Signals :=
  board.families[family]?.getD {}

/-- The signals each handle shows. -/
def seen (board : Switchboard) : List Signals :=
  board.handles.map board.signalsOf

/-- Which waits are done. -/
def done (board : Switchboard) : List Bool :=
  board.waits.map fun w => (board.signalsOf w.family).fired w.signal

end Switchboard

end Anteroom
