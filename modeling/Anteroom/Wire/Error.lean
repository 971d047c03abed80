import Anteroom.Text.Decimal

/-!
# Decoding errors

What can be wrong with a datagram that was to be read as an offline message.
-/

namespace Anteroom

/-- Why bytes were not read as a message, an address or a pong. -/
inductive DecodeError
  /-- The datagram has no bytes at all. -/
  | empty
  /-- A field needs more bytes than are left. -/
  | truncated (field : String) (needed remaining : Nat)
  /-- The bytes where the magic belongs are others. -/
  | invalidMagic
  /-- An address is of neither of the two versions, 4 and 6. -/
  | invalidAddressVersion (version : UInt8)
  /-- The datagram is another message than the one asked for. -/
  | unexpectedPacket (expected found : UInt8)
  /-- The leading byte is not that of an inbound offline message. -/
  | unknownPacket (id : UInt8)
  deriving DecidableEq, Repr

/-- The text of a decoding error. -/
def DecodeError.message : DecodeError → String
  | empty => "empty datagram"
  | truncated field needed remaining =>
      "truncated " ++ field ++ ": need " ++ Decimal.text needed ++ " bytes, " ++
        Decimal.text remaining ++ " remaining"
  | invalidMagic => "offline message magic mismatch"
  | invalidAddressVersion version =>
      "unsupported address version " ++ Decimal.text version.toNat
  | unexpectedPacket expected found =>
      "unexpected packet id " ++ Hex.byteText found ++ ", expected " ++ Hex.byteText expected
  | unknownPacket id => "unknown offline packet id " ++ Hex.byteText id

end Anteroom
