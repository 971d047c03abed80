import Anteroom.Net.Address
import Anteroom.Wire.Reader

/-!
# Addresses on the wire

An address starts with its version.  Version 4 is followed by the inverted
bytes of the host and the port.  Version 6 is followed by the two bytes of the
address family, which are written as `17 00` and not looked at when read, the
port, the flow label, the host and the scope.
-/

namespace Anteroom.Address

/-- The wire form of an address. -/
def encode : Address → Bytes
  | v4 host port => 4 :: (Bytes.ofUInt32 (~~~host) ++ Bytes.ofUInt16 port)
  | v6 upper lower port flow scope =>
      6 :: 0x17 :: 0x00 ::
        (Bytes.ofUInt16 port ++ Bytes.ofUInt32 flow ++ Bytes.ofUInt64 upper ++
          Bytes.ofUInt64 lower ++ Bytes.ofUInt32 scope)

/-- Writes an address behind what a buffer holds. -/
def write (buffer : Bytes) : Address → Bytes
  | v4 host port => buffer ++ [4] ++ Bytes.ofUInt32 (~~~host) ++ Bytes.ofUInt16 port
  | v6 upper lower port flow scope =>
      buffer ++ [6] ++ [0x17, 0x00] ++ Bytes.ofUInt16 port ++ Bytes.ofUInt32 flow ++
        Bytes.ofUInt64 upper ++ Bytes.ofUInt64 lower ++ Bytes.ofUInt32 scope

/-- The number of bytes an address takes on the wire. -/
def wireLength : Address → Nat
  | v4 .. => 7
  | v6 .. => 29

/-- The IPv4 address in the six bytes after its version. -/
def ofBytes4 (bytes : Bytes) : Address :=
  v4 (~~~(UInt32.ofNat (Bytes.toNat (bytes.take 4)))) (UInt16.ofNat (Bytes.toNat (bytes.drop 4)))

/-- The IPv6 address in the 28 bytes after its version. -/
def ofBytes6 (bytes : Bytes) : Address :=
  let field (start width : Nat) : Nat := Bytes.toNat ((bytes.drop start).take width)
  v6 (UInt64.ofNat (field 8 8)) (UInt64.ofNat (field 16 8)) (UInt16.ofNat (field 2 2))
    (UInt32.ofNat (field 4 4)) (UInt32.ofNat (field 24 4))

/-- Reads an address. -/
def read : Reader Address := do
  let version ← Reader.uint8 "address version"
  if version = 4 then
    return ofBytes4 (← Reader.take "ipv4 address" 6)
  else if version = 6 then
    return ofBytes6 (← Reader.take "ipv6 address" 28)
  else
    throw (.invalidAddressVersion version)

@[simp]
theorem length_encode (address : Address) : address.encode.length = address.wireLength := by
  cases address <;> simp [encode, wireLength, Bytes.ofUInt16, Bytes.ofUInt32, Bytes.ofUInt64]

/-- What the buffer holds is kept, and the wire form stands behind it. -/
theorem write_eq (buffer : Bytes) (address : Address) :
    address.write buffer = buffer ++ address.encode := by
  cases address <;> simp [write, encode]

end Anteroom.Address
