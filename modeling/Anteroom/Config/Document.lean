import Anteroom.Config
import Anteroom.Json.Value

/-!
# Settings documents

A configuration is stored as a JSON object of its four fields, or as an array
of them in order.  Fields that are missing keep their defaults, and an object
may have members of other names, which are ignored; a field given twice is an
error.  Numbers must be whole and in range.  A span is an object of exactly
`secs` and `nanos`, or the array of these two.

A document is a byte string.  Names must be text in UTF-8; in strings that are
ignored any bytes may stand.
-/

namespace Anteroom

/-! ## Reading -/

/-- The whole number below `bound` that a JSON value is. -/
def Json.Value.below? (bound : Nat) : Json.Value → Option Nat
  | .number (some n) => if n < bound then some n else none
  | _ => none

namespace Span

/-- The name of the member with the whole seconds. -/
def secondsKey : List Char :=
  "secs".toList

/-- The name of the member with the nanoseconds. -/
def nanosKey : List Char :=
  "nanos".toList

/-- The span of two JSON numbers. -/
def ofNumbers? (seconds nanos : Json.Value) : Option Span := do
  ofParts? (← seconds.below? UInt64.size) (← nanos.below? UInt32.size)

/-- The span that a JSON value describes. -/
def ofValue? : Json.Value → Option Span
  | .array [seconds, nanos] => ofNumbers? seconds nanos
  | .object [(some k, v), (some l, w)] =>
      if k = secondsKey ∧ l = nanosKey then ofNumbers? v w
      else if k = nanosKey ∧ l = secondsKey then ofNumbers? w v
      else none
  | _ => none

end Span

namespace Config

/-- The fields of a configuration. -/
inductive Field
  | protocolVersion
  | acceptQueueCapacity
  | handshakeTimeout
  | hijackInterval
  deriving DecidableEq, Repr

namespace Field

/-- All fields in the order of their declaration. -/
def all : List Field :=
  [protocolVersion, acceptQueueCapacity, handshakeTimeout, hijackInterval]

/-- The name of a field in a document. -/
def key : Field → List Char
  | protocolVersion => "protocol_version".toList
  | acceptQueueCapacity => "accept_queue_capacity".toList
  | handshakeTimeout => "handshake_timeout".toList
  | hijackInterval => "hijack_interval".toList

/-- The field of a name. -/
def ofKey? (name : List Char) : Option Field :=
  all.find? (·.key = name)

end Field

/-- The configuration with one field set to what a JSON value describes. -/
def set? (config : Config) (value : Json.Value) : Field → Option Config
  | .protocolVersion =>
      (value.below? UInt8.size).map fun n => { config with protocolVersion := UInt8.ofNat n }
  | .acceptQueueCapacity =>
      (value.below? UInt64.size).map fun n => { config with acceptQueueCapacity := UInt64.ofNat n }
  | .handshakeTimeout =>
      (Span.ofValue? value).map fun span => { config with handshakeTimeout := span }
  | .hijackInterval =>
      (Span.ofValue? value).map fun span => { config with hijackInterval := span }

/-- Sets the fields that the members of an object name.  `pending` are the fields that have not
been given yet. -/
def setMembers? (config : Config) (pending : List Field) :
    List (Option (List Char) × Json.Value) → Option Config
  | [] => some config
  | (none, _) :: _ => none
  | (some name, value) :: members =>
      match Field.ofKey? name with
      | none => setMembers? config pending members
      | some field =>
          if field ∈ pending then do
            setMembers? (← config.set? value field) (pending.erase field) members
          else
            none

/-- Sets the first fields to the elements of an array. -/
def setElements? (config : Config) : List Field → List Json.Value → Option Config
  | _, [] => some config
  | [], _ :: _ => none
  | field :: fields, value :: values => do
      setElements? (← config.set? value field) fields values

/-- The configuration that a JSON value describes. -/
def ofValue? : Json.Value → Option Config
  | .object members => setMembers? {} Field.all members
  | .array elements => setElements? {} Field.all elements
  | _ => none

/-- The configuration that a document describes. -/
def ofDocument? (document : Bytes) : Option Config := do
  ofValue? (← Json.parse? (Utf8.letters document))

/-! ## Writing -/

/-- A member of an object: the quoted name, a colon and the value. -/
def memberText (name value : List Char) : List Char :=
  '"' :: name ++ '"' :: ':' :: value

/-- The text of an object without blanks. -/
def objectText (members : List (List Char)) : List Char :=
  '{' :: [','].intercalate members ++ ['}']

/-- The text of a span in a document. -/
def spanText (span : Span) : List Char :=
  objectText [memberText Span.secondsKey (Decimal.digits span.seconds),
    memberText Span.nanosKey (Decimal.digits span.subsec)]

/-- The text of a field's value in a document. -/
def fieldText (config : Config) : Field → List Char
  | .protocolVersion => Decimal.digits config.protocolVersion.toNat
  | .acceptQueueCapacity => Decimal.digits config.acceptQueueCapacity.toNat
  | .handshakeTimeout => spanText config.handshakeTimeout
  | .hijackInterval => spanText config.hijackInterval

/-- The document of a configuration: all fields in order, without blanks. -/
def document (config : Config) : String :=
  String.ofList
    (objectText (Field.all.map fun field => memberText field.key (config.fieldText field)))

end Config

end Anteroom
