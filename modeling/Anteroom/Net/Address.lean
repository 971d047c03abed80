import Anteroom.Bytes
import Anteroom.Text.Decimal

/-!
# Socket addresses

An address is an IPv4 or IPv6 host with a port; an IPv6 address also carries a
flow label and the scope its host belongs to.  Two addresses are the same only
if they agree in all of these, so the scope tells two link-local peers apart.

The text of an IPv6 host shortens the first longest run of at least two zero
groups to `::`, and writes an IPv4-mapped host with its IPv4 part.
-/

namespace Anteroom

/-- A socket address: host and port, and for IPv6 the flow label and scope. -/
inductive Address
  | v4 (host : UInt32) (port : UInt16)
  | v6 (upper lower : UInt64) (port : UInt16) (flow scope : UInt32)
  deriving DecidableEq, Repr, Inhabited

namespace Address

/-- The port a datagram to this address goes to. -/
def port : Address → UInt16
  | v4 _ port => port
  | v6 _ _ port _ _ => port

/-- The text of an IPv4 host: its four bytes in decimal. -/
def hostText4 (host : UInt32) : String :=
  ".".intercalate ((Bytes.ofNat 4 host.toNat).map fun b => Decimal.text b.toNat)

/-- The eight 16-bit groups of an IPv6 host. -/
def groups (upper lower : UInt64) : List Nat :=
  let quarters (half : UInt64) : List UInt16 :=
    [(half >>> 48).toUInt16, (half >>> 32).toUInt16, (half >>> 16).toUInt16, half.toUInt16]
  (quarters upper ++ quarters lower).map UInt16.toNat

/-- The length of the run of zero groups at the front. -/
def zeroRun (gs : List Nat) : Nat :=
  (gs.takeWhile (· == 0)).length

/-- Position and length of the first longest run of zero groups. -/
def longestZeroRun (gs : List Nat) : Nat × Nat :=
  (List.range gs.length).foldl
    (fun best i =>
      let run := zeroRun (gs.drop i)
      if best.2 < run then (i, run) else best)
    (0, 0)

/-- Groups in hexadecimal without leading zeros, separated by colons. -/
def groupsText (gs : List Nat) : String :=
  ":".intercalate (gs.map fun g => String.ofList (Hex.digits g))

/-- The text of an IPv6 host. -/
def hostText6 (upper lower : UInt64) : String :=
  if upper = 0 ∧ lower >>> 32 = 0xffff then
    "::ffff:" ++ hostText4 lower.toUInt32
  else
    let gs := groups upper lower
    let (start, run) := longestZeroRun gs
    if 1 < run then
      groupsText (gs.take start) ++ "::" ++ groupsText (gs.drop (start + run))
    else
      groupsText gs

/-- The text of an address.  The scope is shown unless it is 0, the flow label never. -/
def text : Address → String
  | v4 host port => hostText4 host ++ ":" ++ Decimal.text port.toNat
  | v6 upper lower port _ scope =>
      let scopeText := if scope = 0 then "" else "%" ++ Decimal.text scope.toNat
      "[" ++ hostText6 upper lower ++ scopeText ++ "]:" ++ Decimal.text port.toNat

end Address

end Anteroom
