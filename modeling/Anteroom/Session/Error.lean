import Anteroom.Net.Address

/-!
# Session errors

Why a session refuses to send, to receive or to close.
-/

namespace Anteroom

/-- A failure of one session. -/
inductive TransportError
  /-- The session with this peer is closed. -/
  | closed (peer : Address)
  /-- The socket could not send. -/
  | sendFailed (cause : String)
  /-- The datagram does not fit the negotiated MTU. -/
  | oversized (size : Nat) (mtu : UInt16)
  deriving DecidableEq, Repr

namespace TransportError

/-- The text of a session failure. -/
def message : TransportError → String
  | closed peer => "session with " ++ peer.text ++ " is closed"
  | sendFailed cause => "send failed: " ++ cause
  | oversized size mtu =>
      "datagram of " ++ Decimal.text size ++ " bytes exceeds the negotiated MTU of " ++
        Decimal.text mtu.toNat

/-- The text of the failure behind this one. -/
def source? : TransportError → Option String
  | sendFailed cause => some cause
  | _ => none

end TransportError

/-- A registered session could not be closed. -/
structure CloseError where
  peer : Address
  cause : TransportError
  deriving DecidableEq, Repr

namespace CloseError

/-- The text of a failed close. -/
def message (error : CloseError) : String :=
  "error closing session " ++ error.peer.text ++ ": " ++ error.cause.message

/-- The text of the failure behind this one. -/
def source? (error : CloseError) : Option String :=
  some error.cause.message

end CloseError

end Anteroom
