import Anteroom.Net.Address
import Anteroom.Text.Fields

/-!
# Host texts

An IPv4 host is four bytes.  It is written as one to four numbers, of which all
but the last are one byte each and the last is the bytes that remain; so
`127.1` is `127.0.0.1`.  The numbers are decimal, octal after a zero, or
hexadecimal after `0x`.

An IPv6 host is written as eight groups of up to four hexadecimal digits; one
run of zero groups may be left out, and the last two groups may be written as
an IPv4 host.  There an IPv4 host is four decimal numbers without leading
zeros.
-/

namespace Anteroom

/-- An IPv4 or IPv6 host. -/
inductive Host
  | v4 (host : UInt32)
  | v6 (upper lower : UInt64)
  deriving DecidableEq, Repr

namespace Host

/-- The address of a port of this host. -/
def withPort (host : Host) (port : UInt16) : Address :=
  match host with
  | v4 host => .v4 host port
  | v6 upper lower => .v6 upper lower port 0 0

/-! ## IPv4 -/

/-- One of the numbers of an IPv4 host. -/
def number? : List Char → Option Nat
  | [] => none
  | '0' :: 'x' :: digits => if digits.isEmpty then none else Hex.value? digits
  | '0' :: 'X' :: digits => if digits.isEmpty then none else Hex.value? digits
  | '0' :: digits => Octal.value? digits
  | digits => Decimal.value? digits

/-- The number of `size` bytes that is written as one byte each and, in the last number, the bytes
that remain. -/
def ofNumbers? : (size : Nat) → List Nat → Option Nat
  | size + 1, [last] => if last < Bytes.weight (size + 1) then some last else none
  | size + 1, n :: others =>
      if n < 256 then (ofNumbers? size others).map (n * Bytes.weight size + ·) else none
  | _, _ => none

/-- The IPv4 host of a text. -/
def ofText4? (text : List Char) : Option UInt32 := do
  let numbers ← (Fields.split '.' text).mapM number?
  return UInt32.ofNat (← ofNumbers? 4 numbers)

/-! ## IPv6 -/

/-- One of the four numbers of an IPv4 host in an IPv6 host. -/
def octet? (text : List Char) : Option UInt8 :=
  match text with
  | [] => none
  | '0' :: _ :: _ => none
  | _ => do
      let n ← Decimal.value? text
      if n < 256 then some (UInt8.ofNat n) else none

/-- The IPv4 host of a field at the end of an IPv6 host. -/
def embedded4? (text : List Char) : Option UInt32 := do
  let octets ← (Fields.split '.' text).mapM octet?
  if octets.length = 4 then some (UInt32.ofNat (Bytes.toNat octets)) else none

/-- One group of an IPv6 host. -/
def group? (text : List Char) : Option Nat :=
  if 0 < text.length ∧ text.length ≤ 4 then Hex.value? text else none

/-- The groups of the fields at the end of an IPv6 host. -/
def groups? : List (List Char) → Option (List Nat)
  | [] => some []
  | [last] =>
      match embedded4? last with
      | some host => some [(host >>> 16).toUInt16.toNat, host.toUInt16.toNat]
      | none => (group? last).map ([·])
  | field :: others => do
      let group ← group? field
      return group :: (← groups? others)

/-- The fields of a part of an IPv6 host; an empty part has none. -/
def parts (text : List Char) : List (List Char) :=
  if text.isEmpty then [] else Fields.split ':' text

/-- What stands before and after the first pair of colons. -/
def splitGap? : List Char → Option (List Char × List Char)
  | ':' :: ':' :: rest => some ([], rest)
  | c :: rest => (splitGap? rest).map fun (before, after) => (c :: before, after)
  | [] => none

/-- The eight groups of an IPv6 host. -/
def allGroups? (text : List Char) : Option (List Nat) := do
  match splitGap? text with
  | none =>
      let groups ← groups? (parts text)
      if groups.length = 8 then some groups else none
  | some (before, after) =>
      let first ← (parts before).mapM group?
      let last ← groups? (parts after)
      if first.length + last.length < 8 then
        some (first ++ List.replicate (8 - first.length - last.length) 0 ++ last)
      else
        none

/-- The half of an IPv6 host that has the given groups. -/
def ofGroups (groups : List Nat) : UInt64 :=
  UInt64.ofNat (groups.foldl (fun n group => n * 65536 + group) 0)

/-- The IPv6 host of a text. -/
def ofText6? (text : List Char) : Option (UInt64 × UInt64) := do
  let groups ← allGroups? text
  return (ofGroups (groups.take 4), ofGroups (groups.drop 4))

/-- Whether an IPv6 host is one of `fe80::/10`, the hosts of a single link. -/
def isLinkLocal (upper : UInt64) : Bool :=
  upper >>> 54 = 0x3fa

/-- Whether an IPv6 host stands for many. -/
def isMulticast (upper : UInt64) : Bool :=
  upper >>> 56 = 0xff

/-- Whether an IPv6 host needs a scope, which tells the interface it is reached over: the hosts of
a single link do, and so do multicast hosts that reach no farther than an interface or a link. -/
def isScoped (upper : UInt64) : Bool :=
  let reach := (upper >>> 48) &&& 0xf
  isLinkLocal upper || isMulticast upper && (reach = 1 || reach = 2)

end Host

end Anteroom
