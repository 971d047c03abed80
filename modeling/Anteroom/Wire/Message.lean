import Anteroom.Wire.AddressCode
import Anteroom.Wire.Magic
import Anteroom.Wire.Mtu
import Anteroom.Wire.PacketId

/-!
# Offline messages

The six messages of fixed layout that are exchanged before a session exists.
Each is its leading byte followed by its fields in order, numbers big-endian,
the magic among them.

The first connection request measures the path: the client pads it to the size
that it wants to try, and the MTU it asks for is the size of the datagram with
its headers.  Reading it therefore takes all bytes that are left, and writing
it pads it to the MTU, where an MTU below 46 leaves no room for padding.
-/

namespace Anteroom

/-- An offline message. -/
inductive Message
  | unconnectedPing (sendTimestamp clientGuid : Int64)
  | openConnectionRequest1 (protocolVersion : UInt8) (mtu : UInt16)
  | openConnectionReply1 (serverGuid : Int64) (useSecurity : Bool) (mtu : UInt16)
  | incompatibleProtocolVersion (protocolVersion : UInt8) (serverGuid : Int64)
  | openConnectionRequest2 (serverAddress : Address) (mtu : UInt16) (clientGuid : Int64)
  | openConnectionReply2 (serverGuid : Int64) (clientAddress : Address) (mtu : UInt16)
      (encryptionEnabled : Bool)
  deriving DecidableEq, Repr

/-- The layouts of offline messages. -/
inductive Layout
  | unconnectedPing
  | openConnectionRequest1
  | openConnectionReply1
  | incompatibleProtocolVersion
  | openConnectionRequest2
  | openConnectionReply2
  deriving DecidableEq, Repr

namespace Layout

/-- The packet id a message of this layout starts with. -/
def packetId : Layout → PacketId
  | unconnectedPing => .unconnectedPing
  | openConnectionRequest1 => .openConnectionRequest1
  | openConnectionReply1 => .openConnectionReply1
  | incompatibleProtocolVersion => .incompatibleProtocolVersion
  | openConnectionRequest2 => .openConnectionRequest2
  | openConnectionReply2 => .openConnectionReply2

/-- The leading byte of a message of this layout. -/
def id (layout : Layout) : UInt8 :=
  layout.packetId.byte

end Layout

/-- The bytes of a first connection request before its padding, with the leading byte. -/
def request1Size : Nat :=
  18

namespace Message

/-- The layout of a message. -/
def layout : Message → Layout
  | unconnectedPing .. => .unconnectedPing
  | openConnectionRequest1 .. => .openConnectionRequest1
  | openConnectionReply1 .. => .openConnectionReply1
  | incompatibleProtocolVersion .. => .incompatibleProtocolVersion
  | openConnectionRequest2 .. => .openConnectionRequest2
  | openConnectionReply2 .. => .openConnectionReply2

/-- The fields of a message as they follow its leading byte. -/
def body : Message → Bytes
  | unconnectedPing sendTimestamp clientGuid =>
      Bytes.ofInt64 sendTimestamp ++ magic ++ Bytes.ofInt64 clientGuid
  | openConnectionRequest1 protocolVersion mtu =>
      magic ++ [protocolVersion] ++ List.replicate (Mtu.room mtu - request1Size) 0
  | openConnectionReply1 serverGuid useSecurity mtu =>
      magic ++ Bytes.ofInt64 serverGuid ++ Bytes.ofFlag useSecurity ++ Bytes.ofUInt16 mtu
  | incompatibleProtocolVersion protocolVersion serverGuid =>
      [protocolVersion] ++ magic ++ Bytes.ofInt64 serverGuid
  | openConnectionRequest2 serverAddress mtu clientGuid =>
      magic ++ serverAddress.encode ++ Bytes.ofUInt16 mtu ++ Bytes.ofInt64 clientGuid
  | openConnectionReply2 serverGuid clientAddress mtu encryptionEnabled =>
      magic ++ Bytes.ofInt64 serverGuid ++ clientAddress.encode ++ Bytes.ofUInt16 mtu ++
        Bytes.ofFlag encryptionEnabled

/-- The datagram of a message. -/
def encode (message : Message) : Bytes :=
  message.layout.id :: message.body

end Message

namespace Layout

/-- Reads the fields of a message of this layout. -/
def readBody : Layout → Reader Message
  | unconnectedPing => do
      let sendTimestamp ← Reader.int64 "send timestamp"
      Reader.magic
      let clientGuid ← Reader.int64 "client guid"
      return .unconnectedPing sendTimestamp clientGuid
  | openConnectionRequest1 => do
      Reader.magic
      let protocolVersion ← Reader.uint8 "protocol version"
      let padding ← Reader.rest
      return .openConnectionRequest1 protocolVersion (Mtu.ofSize (request1Size + padding.length))
  | openConnectionReply1 => do
      Reader.magic
      let serverGuid ← Reader.int64 "server guid"
      let useSecurity ← Reader.flag "use security"
      let mtu ← Reader.uint16 "mtu"
      return .openConnectionReply1 serverGuid useSecurity mtu
  | incompatibleProtocolVersion => do
      let protocolVersion ← Reader.uint8 "protocol version"
      Reader.magic
      let serverGuid ← Reader.int64 "server guid"
      return .incompatibleProtocolVersion protocolVersion serverGuid
  | openConnectionRequest2 => do
      Reader.magic
      let serverAddress ← Address.read
      let mtu ← Reader.uint16 "mtu"
      let clientGuid ← Reader.int64 "client guid"
      return .openConnectionRequest2 serverAddress mtu clientGuid
  | openConnectionReply2 => do
      Reader.magic
      let serverGuid ← Reader.int64 "server guid"
      let clientAddress ← Address.read
      let mtu ← Reader.uint16 "mtu"
      let encryptionEnabled ← Reader.flag "encryption enabled"
      return .openConnectionReply2 serverGuid clientAddress mtu encryptionEnabled

/-- Reads a leading byte, which must be `expected`. -/
def readId (expected : UInt8) : Reader Unit := do
  let found ← Reader.uint8 "packet id"
  if found = expected then
    return ()
  else
    throw (.unexpectedPacket expected found)

/-- Reads a whole datagram as a message of this layout.  Bytes after the last field are
ignored. -/
def decode (layout : Layout) (datagram : Bytes) : Except DecodeError Message :=
  Reader.value (do readId layout.id; layout.readBody) datagram

end Layout

/-- The layout of the messages a client sends with this leading byte.  Both pings share one. -/
def Layout.inbound? (id : UInt8) : Option Layout :=
  if id = PacketId.unconnectedPing.byte ∨ id = PacketId.unconnectedPingOpenConnections.byte then
    some .unconnectedPing
  else if id = PacketId.openConnectionRequest1.byte then
    some .openConnectionRequest1
  else if id = PacketId.openConnectionRequest2.byte then
    some .openConnectionRequest2
  else
    none

/-- Reads a datagram that a client without a session sent. -/
def Message.decodeInbound : Bytes → Except DecodeError Message
  | [] => .error .empty
  | id :: body =>
      match Layout.inbound? id with
      | some layout => Reader.value layout.readBody body
      | none => .error (.unknownPacket id)

end Anteroom
