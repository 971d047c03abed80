import Anteroom.Wire.Message

/-!
# Pongs

The answer to a ping carries a payload that the operator chose.  Its framing
depends on the protocol version: the Minecraft protocol writes the length of
the payload, as 16 bits, in front of it; all others let it run to the end of
the datagram.  A length of 65536 or more wraps.
-/

namespace Anteroom

/-- The protocol version whose pongs carry the length of their payload. -/
def minecraftProtocol : UInt8 :=
  10

/-- The longest payload a listener answers with. -/
def maxPongPayload : Nat :=
  32767

/-- How the payload of a pong is delimited. -/
inductive PongFraming
  | lengthPrefixed
  | raw
  deriving DecidableEq, Repr

/-- The framing of a protocol version. -/
def PongFraming.ofProtocol (version : UInt8) : PongFraming :=
  if version = minecraftProtocol then .lengthPrefixed else .raw

/-- An answer to an unconnected ping. -/
structure Pong where
  sendTimestamp : Int64
  serverGuid : Int64
  payload : Bytes
  deriving DecidableEq, Repr

namespace PongFraming

/-- The payload as it stands at the end of a pong. -/
def encode (framing : PongFraming) (payload : Bytes) : Bytes :=
  match framing with
  | lengthPrefixed => Bytes.ofNat 2 payload.length ++ payload
  | raw => payload

/-- Reads the payload at the end of a pong. -/
def read : PongFraming → Reader Bytes
  | lengthPrefixed => do
      let length ← Reader.nat "pong payload length" 2
      Reader.take "pong payload" length
  | raw => Reader.rest

end PongFraming

namespace Pong

/-- The datagram of a pong. -/
def encode (framing : PongFraming) (pong : Pong) : Bytes :=
  PacketId.unconnectedPong.byte ::
    (Bytes.ofInt64 pong.sendTimestamp ++ Bytes.ofInt64 pong.serverGuid ++ magic ++
      framing.encode pong.payload)

/-- Reads a pong from its leading byte on. -/
def read (framing : PongFraming) : Reader Pong := do
  Layout.readId PacketId.unconnectedPong.byte
  let sendTimestamp ← Reader.int64 "send timestamp"
  let serverGuid ← Reader.int64 "server guid"
  Reader.magic
  let payload ← framing.read
  return { sendTimestamp, serverGuid, payload }

/-- Reads a whole datagram as a pong. -/
def decode (framing : PongFraming) (datagram : Bytes) : Except DecodeError Pong :=
  Reader.value (read framing) datagram

end Pong

end Anteroom
