import Anteroom.Session.Error
import Anteroom.Time.Span
import Anteroom.Wire.Error

/-!
# Listener errors

What the operations of a listener and of a probe end in, and what the listener
reports about single datagrams.  Each error has a text; one that wraps the
failure behind it also gives the text of that failure.  A wrapper that adds
nothing of its own shows the failure as if it were not there.
-/

namespace Anteroom

/-- The failure of an operation of a listener. -/
inductive ListenerError
  /-- The socket could not be bound. -/
  | bind (cause : String)
  /-- An address has no resolution. -/
  | resolve (address cause : String)
  /-- The listener is closed. -/
  | closed
  /-- A pong payload is longer than a listener answers with. -/
  | pongPayloadTooLarge (size max : Nat)
  /-- A registered session could not be closed. -/
  | session (error : CloseError)
  /-- The read loop failed. -/
  | readLoop (cause : String)
  deriving DecidableEq, Repr

namespace ListenerError

/-- The text of a listener's failure. -/
def message : ListenerError → String
  | bind cause => "error creating UDP listener: " ++ cause
  | resolve address cause => "error resolving UDP address " ++ address ++ ": " ++ cause
  | closed => "error accepting connection: listener closed"
  | pongPayloadTooLarge size max =>
      "pong payload must not be longer than " ++ Decimal.text max ++ " bytes, got " ++
        Decimal.text size
  | session error => error.message
  | readLoop cause => "read loop failed: " ++ cause

/-- The text of the failure behind this one. -/
def source? : ListenerError → Option String
  | bind cause => some cause
  | resolve _ cause => some cause
  | session error => error.source?
  | readLoop cause => some cause
  | _ => none

end ListenerError

/-- A problem with one datagram. -/
inductive DispatchError
  /-- An offline message does not decode. -/
  | decode (error : DecodeError)
  /-- A leading byte belongs neither to an inbound message nor to a session datagram. -/
  | unknownPacket (id : UInt8) (size : Nat)
  /-- A client speaks another protocol version than the listener. -/
  | incompatibleProtocol (client server : UInt8)
  /-- A reply could not be sent. -/
  | send (packet cause : String)
  /-- The peer's session refused the datagram. -/
  | session (error : TransportError)
  /-- Nobody is left to accept sessions. -/
  | queueClosed
  deriving DecidableEq, Repr

namespace DispatchError

/-- The text of a problem with a datagram. -/
def message : DispatchError → String
  | decode error => "error decoding offline message: " ++ error.message
  | unknownPacket id size =>
      "unknown packet received (" ++ Hex.byteText id ++ ", " ++ Decimal.text size ++ " bytes)"
  | incompatibleProtocol client server =>
      "incompatible protocol version " ++ Decimal.text client.toNat ++ " (listener protocol = " ++
        Decimal.text server.toNat ++ ")"
  | send packet cause => "error sending " ++ packet ++ ": " ++ cause
  | session error => "session rejected datagram: " ++ error.message
  | queueClosed => "accept queue closed"

/-- The text of the failure behind this one. -/
def source? : DispatchError → Option String
  | decode error => some error.message
  | send _ cause => some cause
  | session error => some error.message
  | _ => none

/-- Whether this is an outcome of negotiation rather than a fault. -/
def isRejection : DispatchError → Bool
  | incompatibleProtocol .. => true
  | _ => false

end DispatchError

/-- The failure of a probe. -/
inductive PingError
  /-- The socket could not be set up or used. -/
  | io (cause : String)
  /-- No pong came in time. -/
  | timeout (address : Address) (limit : Span)
  /-- The pong is malformed. -/
  | malformed (error : DecodeError)
  deriving DecidableEq

namespace PingError

/-- The text of a probe's failure. -/
def message : PingError → String
  | io cause => "ping i/o failed: " ++ cause
  | timeout address limit => "no pong from " ++ address.text ++ " within " ++ limit.text
  | malformed error => error.message

/-- The text of the failure behind this one. -/
def source? : PingError → Option String
  | io cause => some cause
  | _ => none

end PingError

/-- Any failure of the library. -/
inductive Failure
  | listener (error : ListenerError)
  | dispatch (error : DispatchError)
  | ping (error : PingError)
  | decode (error : DecodeError)
  | transport (error : TransportError)
  | session (error : CloseError)

namespace Failure

/-- The text of a failure. -/
def message : Failure → String
  | listener error => error.message
  | dispatch error => error.message
  | ping error => error.message
  | decode error => error.message
  | transport error => error.message
  | session error => error.message

/-- The text of the failure behind this one. -/
def source? : Failure → Option String
  | listener error => error.source?
  | dispatch error => error.source?
  | ping error => error.source?
  | decode _ => none
  | transport error => error.source?
  | session error => error.source?

end Failure

end Anteroom
