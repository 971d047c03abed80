import Anteroom.Bytes
import Anteroom.Text.Decimal
import Anteroom.Text.Fields

/-!
# Server descriptors

A pong payload that starts with `MCPE` describes a game server in fields
separated by semicolons.  A listener that relays the descriptor of another
server keeps its first six fields and puts its own identity behind them: its
id, a fixed label, and an empty ninth field.  Other payloads are relayed as
they are.
-/

namespace Anteroom.Descriptor

/-- The byte between fields. -/
def separator : UInt8 :=
  0x3b

/-- The bytes `MCPE`, which start a descriptor. -/
def marker : Bytes :=
  [0x4d, 0x43, 0x50, 0x45]

/-- The bytes `Proxy`, which label a relayed descriptor. -/
def label : Bytes :=
  [0x50, 0x72, 0x6f, 0x78, 0x79]

/-- The number of fields that are kept of the server that is relayed. -/
def keptFields : Nat :=
  6

/-- Whether a payload is a descriptor. -/
def isDescriptor (payload : Bytes) : Bool :=
  marker.isPrefixOf payload

/-- The fields of a payload: the byte strings between separators. -/
def fields (payload : Bytes) : List Bytes :=
  Fields.split separator payload

/-- The first `count` fields, empty ones in place of those that are missing. -/
def firstFields (count : Nat) (given : List Bytes) : List Bytes :=
  (given ++ List.replicate count []).take count

/-- The decimal text of a listener id, as bytes. -/
def idBytes (id : Int64) : Bytes :=
  (Decimal.ofInt id.toInt).map fun c => UInt8.ofNat c.toNat

/-- The payload that a listener answers with when it relays `payload`. -/
def relay (payload : Bytes) (id : Int64) : Bytes :=
  if isDescriptor payload then
    Fields.join separator
      (firstFields keptFields (fields payload) ++ [idBytes id, label, []])
  else
    payload

end Anteroom.Descriptor
