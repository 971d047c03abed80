import Anteroom.Wire.Error

/-!
# Packet ids

The leading byte of a datagram names the offline message in it.  Session
datagrams have the top bit of that byte set, which no packet id has.
-/

namespace Anteroom

/-- The offline messages that have a leading byte of their own. -/
inductive PacketId
  | unconnectedPing
  | unconnectedPingOpenConnections
  | openConnectionRequest1
  | openConnectionReply1
  | openConnectionRequest2
  | openConnectionReply2
  | incompatibleProtocolVersion
  | unconnectedPong
  deriving DecidableEq, Repr

namespace PacketId

/-- The leading byte of a message. -/
def byte : PacketId → UInt8
  | unconnectedPing => 0x01
  | unconnectedPingOpenConnections => 0x02
  | openConnectionRequest1 => 0x05
  | openConnectionReply1 => 0x06
  | openConnectionRequest2 => 0x07
  | openConnectionReply2 => 0x08
  | incompatibleProtocolVersion => 0x19
  | unconnectedPong => 0x1c

/-- All packet ids. -/
def all : List PacketId :=
  [unconnectedPing, unconnectedPingOpenConnections, openConnectionRequest1,
    openConnectionReply1, openConnectionRequest2, openConnectionReply2,
    incompatibleProtocolVersion, unconnectedPong]

theorem mem_all (id : PacketId) : id ∈ all := by
  cases id <;> decide

/-- The packet id with the given leading byte. -/
def ofByte (b : UInt8) : Except DecodeError PacketId :=
  match all.find? (·.byte == b) with
  | some id => .ok id
  | none => .error (.unknownPacket b)

theorem ofByte_byte (id : PacketId) : ofByte id.byte = .ok id := by
  cases id <;> rfl

end PacketId

/-- The bit that marks a session datagram. -/
def sessionFlag : UInt8 :=
  0x80

/-- Whether a leading byte is that of a session datagram. -/
def isSessionByte (b : UInt8) : Bool :=
  b &&& sessionFlag != 0

/-- No offline message is taken for a session datagram. -/
theorem PacketId.isSessionByte_byte (id : PacketId) : isSessionByte id.byte = false := by
  cases id <;> rfl

end Anteroom
