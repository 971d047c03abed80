import Anteroom.Bytes

/-!
# Datagram sizes

The MTU that peers negotiate counts the IP and UDP headers, 28 bytes, with the
datagram.  Reads are cut to 1500 bytes.
-/

namespace Anteroom

/-- The bytes of the IP and UDP headers, which an MTU counts too. -/
def headerOverhead : Nat :=
  28

/-- The bytes of a datagram beyond these are not read. -/
def maxDatagramSize : Nat :=
  1500

/-- The part of a datagram that is read. -/
def Bytes.received (datagram : Bytes) : Bytes :=
  datagram.take maxDatagramSize

namespace Mtu

/-- The size of the largest datagram that fits the MTU. -/
def room (mtu : UInt16) : Nat :=
  mtu.toNat - headerOverhead

/-- The MTU that a datagram of `size` bytes just fits, as far as 16 bits can tell. -/
def ofSize (size : Nat) : UInt16 :=
  UInt16.ofNat (min 65535 (size + headerOverhead))

theorem toNat_ofSize (size : Nat) : (ofSize size).toNat = min 65535 (size + 28) := by
  simp only [ofSize, headerOverhead, UInt16.toNat_ofNat']
  omega

/-- What is too large for the room that an MTU leaves is not empty, and exceeds the MTU with the
headers. -/
theorem room_lt_iff {mtu : UInt16} {size : Nat} :
    room mtu < size ↔ 0 < size ∧ mtu.toNat < size + 28 := by
  simp only [room, headerOverhead]
  omega

end Mtu

end Anteroom
