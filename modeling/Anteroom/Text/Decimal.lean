/-!
# Decimal, octal and hexadecimal digits

Numbers are written in decimal without leading zeros, negative ones after a
minus sign.  Packet ids are written as two hexadecimal digits and the groups of
an IPv6 address without leading zeros; both use lower-case letters.  The
numbers of an IPv4 host are read in all three bases.
-/

namespace Anteroom.Decimal

/-- The character of a decimal digit. -/
def digit (d : Nat) : Char :=
  Char.ofNat (48 + d)

/-- The decimal digits of `n`, most significant first. -/
def digits (n : Nat) : List Char :=
  if n < 10 then [digit n] else digits (n / 10) ++ [digit (n % 10)]

/-- The decimal digits of an integer, after a minus sign if it is negative. -/
def ofInt : Int → List Char
  | .ofNat n => digits n
  | .negSucc n => '-' :: digits (n + 1)

/-- The decimal text of a number. -/
def text (n : Nat) : String :=
  String.ofList (digits n)

/-- The value of a character that is a decimal digit. -/
def digit? (c : Char) : Option Nat :=
  if '0' ≤ c ∧ c ≤ '9' then some (c.toNat - 48) else none

/-- The number a run of decimal digits stands for; no other character may occur. -/
def value? (cs : List Char) : Option Nat :=
  cs.foldlM (fun n c => (digit? c).map (n * 10 + ·)) 0

end Anteroom.Decimal

namespace Anteroom.Hex

/-- The lower-case character of a hexadecimal digit. -/
def digit (d : Nat) : Char :=
  if d < 10 then Char.ofNat (48 + d) else Char.ofNat (87 + d)

/-- The hexadecimal digits of `n`, most significant first. -/
def digits (n : Nat) : List Char :=
  if n < 16 then [digit n] else digits (n / 16) ++ [digit (n % 16)]

/-- A byte as `0x` and two hexadecimal digits. -/
def byteText (b : UInt8) : String :=
  String.ofList ['0', 'x', digit (b.toNat / 16), digit (b.toNat % 16)]

/-- The value of a character that is a hexadecimal digit of either case. -/
def digit? (c : Char) : Option Nat :=
  if '0' ≤ c ∧ c ≤ '9' then some (c.toNat - 48)
  else if 'a' ≤ c ∧ c ≤ 'f' then some (c.toNat - 87)
  else if 'A' ≤ c ∧ c ≤ 'F' then some (c.toNat - 55)
  else none

/-- The number a run of hexadecimal digits stands for; no other character may occur. -/
def value? (cs : List Char) : Option Nat :=
  cs.foldlM (fun n c => (digit? c).map (n * 16 + ·)) 0

end Anteroom.Hex

namespace Anteroom.Octal

/-- The value of a character that is an octal digit. -/
def digit? (c : Char) : Option Nat :=
  if '0' ≤ c ∧ c ≤ '7' then some (c.toNat - 48) else none

/-- The number a run of octal digits stands for; no other character may occur. -/
def value? (cs : List Char) : Option Nat :=
  cs.foldlM (fun n c => (digit? c).map (n * 8 + ·)) 0

end Anteroom.Octal
