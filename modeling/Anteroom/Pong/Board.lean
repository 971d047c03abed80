import Anteroom.Listener.Error
import Anteroom.Wire.Pong

/-!
# The pong board

The payload that pings are answered with stands on a board.  Whoever writes it
replaces all of it.  A payload that is too long is refused and leaves the board
as it is, so the board never holds one.  Subscribers learn that the board has
been written since they last looked, also if the same payload was written again.
-/

namespace Anteroom

/-- The current pong payload, and how often it has been written. -/
structure PongBoard where
  payload : Bytes := []
  writes : Nat := 0
  length_le : payload.length ≤ maxPongPayload := by decide

namespace PongBoard

/-- Writes a payload, unless it is too long. -/
def store (board : PongBoard) (payload : Bytes) : Except ListenerError PongBoard :=
  if h : payload.length ≤ maxPongPayload then
    .ok { payload, writes := board.writes + 1, length_le := h }
  else
    .error (.pongPayloadTooLarge payload.length maxPongPayload)

/-- Writes a payload, or leaves the board as it is if it is too long. -/
def storeOrKeep (board : PongBoard) (payload : Bytes) : PongBoard :=
  match board.store payload with
  | .ok written => written
  | .error _ => board

/-- What a subscriber has seen of a board: the writes up to its last look. -/
structure Subscriber where
  seen : Nat
  deriving DecidableEq, Repr

/-- A subscriber that has seen everything so far. -/
def subscribe (board : PongBoard) : Subscriber :=
  ⟨board.writes⟩

/-- Whether the board has been written since the subscriber last looked. -/
def Subscriber.changed (subscriber : Subscriber) (board : PongBoard) : Bool :=
  subscriber.seen != board.writes

/-- A fresh subscriber sees no change until the board is written. -/
@[simp]
theorem changed_subscribe (board : PongBoard) : board.subscribe.changed board = false := by
  simp [subscribe, Subscriber.changed]

end PongBoard

end Anteroom
