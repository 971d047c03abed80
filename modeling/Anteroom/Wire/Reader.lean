import Anteroom.Bytes
import Anteroom.Wire.Error

/-!
# Reading fields

A reader takes a value from the front of a byte string.  Whether it succeeds or
fails, it also says which bytes are left.  A field that needs more bytes than
there are takes none of them.
-/

namespace Anteroom

/-- A reader of an `α`, which leaves bytes behind also when it fails. -/
abbrev Reader := EStateM DecodeError Bytes

namespace Reader

/-- Takes the `count` bytes of a field. -/
def take (field : String) (count : Nat) : Reader Bytes := fun bytes =>
  if count ≤ bytes.length then
    .ok (bytes.take count) (bytes.drop count)
  else
    .error (.truncated field count bytes.length) bytes

/-- Takes all bytes that are left. -/
def rest : Reader Bytes := fun bytes =>
  .ok bytes []

/-- Reads an unsigned number of `width` bytes. -/
def nat (field : String) (width : Nat) : Reader Nat :=
  return (← take field width).toNat

/-- Reads one byte. -/
def uint8 (field : String) : Reader UInt8 :=
  return UInt8.ofNat (← nat field 1)

/-- Reads a 16-bit number. -/
def uint16 (field : String) : Reader UInt16 :=
  return UInt16.ofNat (← nat field 2)

/-- Reads a signed 64-bit number. -/
def int64 (field : String) : Reader Int64 :=
  return (UInt64.ofNat (← nat field 8)).toInt64

/-- Reads a flag: any byte but 0 is true. -/
def flag (field : String) : Reader Bool :=
  return (← uint8 field) != 0

/-- The outcome of reading the front of `bytes`, without the bytes left over. -/
def value {α : Type} (reader : Reader α) (bytes : Bytes) : Except DecodeError α :=
  match reader bytes with
  | .ok a _ => .ok a
  | .error e _ => .error e

/-- The bytes left over after reading the front of `bytes`. -/
def left {α : Type} (reader : Reader α) (bytes : Bytes) : Bytes :=
  match reader bytes with
  | .ok _ rest => rest
  | .error _ rest => rest

end Reader

/-! ## Writing fields -/

namespace Bytes

/-- The byte of a flag. -/
def ofFlag (flag : Bool) : Bytes :=
  [if flag then 1 else 0]

/-- The two bytes of a 16-bit number. -/
def ofUInt16 (n : UInt16) : Bytes :=
  ofNat 2 n.toNat

/-- The four bytes of a 32-bit number. -/
def ofUInt32 (n : UInt32) : Bytes :=
  ofNat 4 n.toNat

/-- The eight bytes of a 64-bit number. -/
def ofUInt64 (n : UInt64) : Bytes :=
  ofNat 8 n.toNat

/-- The eight bytes of a signed 64-bit number. -/
def ofInt64 (n : Int64) : Bytes :=
  ofUInt64 n.toUInt64

end Bytes

end Anteroom
