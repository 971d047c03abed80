import Anteroom.Time.Span

/-!
# Tickers

A ticker is due at the multiples of its period since it was started, the start
included.  When it is late by more than five milliseconds, it skips the ticks
it has missed and is due next at the first multiple after the present; when it
is late by less, the next tick is one period after the one that was due.
-/

namespace Anteroom

/-- A ticker, with the time its next tick is due.  Times are in nanoseconds. -/
structure Ticker where
  period : Nat
  next : Nat
  period_pos : 0 < period
  deriving DecidableEq

namespace Ticker

/-- How late a tick may be before those it has missed are skipped. -/
def slack : Nat :=
  5 * Span.millisecond

/-- A ticker that is due at once. -/
def start (period : Nat) (positive : 0 < period) (now : Nat) : Ticker :=
  { period, next := now, period_pos := positive }

/-- Whether a tick is due. -/
def isDue (ticker : Ticker) (now : Nat) : Bool :=
  ticker.next ≤ now

/-- The ticker moved to the first multiple of its period after `now`. -/
def skipPast (ticker : Ticker) (now : Nat) : Ticker :=
  { ticker with next := now + ticker.period - (now - ticker.next) % ticker.period }

/-- The ticker after the tick that is due at `now`. -/
def fire (ticker : Ticker) (now : Nat) : Ticker :=
  if ticker.next + slack < now then ticker.skipPast now
  else { ticker with next := ticker.next + ticker.period }

/-- Skipping leaves no tick due. -/
@[simp]
theorem not_isDue_skipPast (ticker : Ticker) (now : Nat) :
    (ticker.skipPast now).isDue now = false := by
  have hmod := Nat.mod_lt (now - ticker.next) ticker.period_pos
  simp [skipPast, isDue]
  omega

end Ticker

end Anteroom
