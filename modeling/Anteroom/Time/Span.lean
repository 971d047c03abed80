import Anteroom.Text.Decimal

/-!
# Time spans

A span is a number of nanoseconds, at most those of `2 ^ 64 - 1` whole seconds
and a fraction.  It is given as seconds and nanoseconds, where a fraction of a
second or more is carried over; what exceeds the range is no span.

Its text uses the largest unit of s, ms, µs and ns of which it holds at least
one, with the exact fraction and no trailing zeros.
-/

namespace Anteroom

namespace Span

/-- The nanoseconds of a second. -/
def second : Nat :=
  1000000000

/-- The nanoseconds of a millisecond. -/
def millisecond : Nat :=
  1000000

/-- The nanoseconds of a microsecond. -/
def microsecond : Nat :=
  1000

/-- What the nanoseconds of a span stay below. -/
def bound : Nat :=
  UInt64.size * second

end Span

/-- A length of time in nanoseconds. -/
structure Span where
  nanos : Nat
  nanos_lt : nanos < Span.bound
  deriving DecidableEq

namespace Span

/-- The span of `seconds` and `nanos`, unless it is out of range. -/
def ofParts? (seconds nanos : Nat) : Option Span :=
  if h : seconds * second + nanos < bound then some ⟨_, h⟩ else none

/-- The span of `millis` milliseconds, unless it is out of range. -/
def ofMillis? (millis : Nat) : Option Span :=
  ofParts? (millis / 1000) (millis % 1000 * millisecond)

/-- A span of whole seconds. -/
def ofSeconds (seconds : UInt64) : Span :=
  ⟨seconds.toNat * second, Nat.mul_lt_mul_of_pos_right seconds.toNat_lt (by decide)⟩

/-- The whole seconds of a span. -/
def seconds (span : Span) : Nat :=
  span.nanos / second

/-- The nanoseconds of a span beyond its whole seconds. -/
def subsec (span : Span) : Nat :=
  span.nanos % second

instance : Inhabited Span :=
  ⟨ofSeconds 0⟩

/-- Putting the parts of a span together gives it back. -/
@[simp]
theorem ofParts?_parts (span : Span) : ofParts? span.seconds span.subsec = some span := by
  have hsum : span.seconds * second + span.subsec = span.nanos :=
    Nat.div_add_mod' span.nanos second
  have hlt : span.seconds * second + span.subsec < bound := hsum ▸ span.nanos_lt
  rw [ofParts?, dif_pos hlt]
  simp only [hsum]

/-- The last `places` decimal digits of `n`, without the zeros at the end. -/
def fractionDigits : (places n : Nat) → List Char
  | 0, _ => []
  | places + 1, n =>
      if n % 10 = 0 then fractionDigits places (n / 10)
      else fraction places (n / 10) ++ [Decimal.digit (n % 10)]
where
  /-- The last `places` decimal digits of `n`. -/
  fraction : (places n : Nat) → List Char
    | 0, _ => []
    | places + 1, n => fraction places (n / 10) ++ [Decimal.digit (n % 10)]

/-- A number of units of `size` nanoseconds, whose fraction has up to `places` digits. -/
def unitText (size places : Nat) (unit : String) (nanos : Nat) : String :=
  let whole := Decimal.text (nanos / size)
  match fractionDigits places nanos with
  | [] => whole ++ unit
  | digits => whole ++ "." ++ String.ofList digits ++ unit

/-- The text of a span in its largest unit. -/
def text (span : Span) : String :=
  if second ≤ span.nanos then unitText second 9 "s" span.nanos
  else if millisecond ≤ span.nanos then unitText millisecond 6 "ms" span.nanos
  else if microsecond ≤ span.nanos then unitText microsecond 3 "µs" span.nanos
  else unitText 1 0 "ns" span.nanos

end Span

end Anteroom
