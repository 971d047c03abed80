import Anteroom.Net.Host

/-!
# Endpoint texts

Sockets are bound to, and servers are found at, endpoints: a host and, behind
the last colon, a port.  The host is a literal or a name that has to be looked
up.  An IPv6 literal may have a scope, and may stand in brackets.  In brackets
the scope is a number, and the port has no sign; without them the scope of a
host that needs one may be the name of an interface.  The port is checked
before the host is looked at.
-/

namespace Anteroom

/-- Why no host is found for a name. -/
inductive LookupError
  /-- There is no host of that name. -/
  | unknown
  /-- Nobody who knows could be asked. -/
  | unanswered
  deriving DecidableEq, Repr

/-- The text of a lookup error. -/
def LookupError.message (error : LookupError) : String :=
  "failed to lookup address information: " ++
    match error with
    | unknown => "Name or service not known"
    | unanswered => "Temporary failure in name resolution"

/-- Why a text is no endpoint. -/
inductive EndpointError
  /-- No port is given. -/
  | malformed
  /-- What is given as the port is none. -/
  | badPort
  /-- The host has a NUL character, which no name has. -/
  | badHost
  /-- No host is found for the name. -/
  | noHost (cause : LookupError)
  deriving DecidableEq, Repr

/-- The text of an endpoint error. -/
def EndpointError.message : EndpointError → String
  | malformed => "invalid socket address"
  | badPort => "invalid port value"
  | badHost => "file name contained an unexpected NUL byte"
  | noHost cause => cause.message

/-- The names that are known. -/
structure Names where
  /-- Finds the host of a name. -/
  host : String → Except LookupError Host
  /-- Finds the number of the network interface of a name. -/
  interface : String → Option UInt32

namespace Names

/-- Whether a part of a name is one: up to 63 letters, digits, hyphens and underscores. -/
def isLabel (text : List Char) : Bool :=
  0 < text.length ∧ text.length ≤ 63 ∧ text.all fun c => c.isAlphanum || c = '-' || c = '_'

/-- Whether a text can be the name of a host: up to 253 characters with a dot between the parts,
and no hyphen in front.  A last dot is not counted, and may be all there is. -/
def isWellFormed (text : List Char) : Bool :=
  let name := if text.getLast? = some '.' then text.dropLast else text
  text = ['.'] ∨
    (name.length ≤ 253 ∧ name.head? ≠ some '-' ∧ (Fields.split '.' name).all isLabel)

/-- Names of a host that knows itself only, and cannot ask about others.  Names of hosts that
differ only in the case of letters are the same, names of interfaces are not. -/
def loopback : Names where
  host name :=
    if name.toList.map Char.toLower = "localhost".toList then .ok (.v4 0x7f000001)
    else if isWellFormed name.toList then .error .unanswered
    else .error .unknown
  interface name := if name = "lo" then some 1 else none

end Names

namespace Endpoint

/-- The number written in decimal digits, of which there is at least one, below `bound`. -/
def number? (bound : Nat) (text : List Char) : Option Nat := do
  if text.isEmpty then none
  else
    let n ← Decimal.value? text
    if n < bound then some n else none

/-- The port of a text; a plus sign may stand in front. -/
def port? (text : List Char) : Option UInt16 :=
  let digits := match text with
    | '+' :: rest => rest
    | _ => text
  (number? UInt16.size digits).map UInt16.ofNat

/-- What stands before and after the last colon. -/
def splitPort? (text : List Char) : Option (List Char × List Char) :=
  let fields := Fields.split ':' text
  match fields.dropLast with
  | [] => none
  | front => some (Fields.join ':' front, fields.getLastD [])

/-- The number of a scope. -/
def scope? (text : List Char) : Option UInt32 :=
  (number? UInt32.size text).map UInt32.ofNat

/-- The scope of an IPv6 host, which is the name of an interface or a number. -/
def namedScope? (names : Names) (upper : UInt64) (text : List Char) : Option UInt32 :=
  if Host.isScoped upper then
    match names.interface (String.ofList text) with
    | some number => some number
    | none => scope? text
  else
    scope? text

/-- The address of an IPv6 host in brackets. -/
def bracketed? (text : List Char) (port : UInt16) : Option Address := do
  match text with
  | '[' :: rest =>
      if rest.getLast? = some ']' then
        match Fields.split '%' rest.dropLast with
        | [host] =>
            let (upper, lower) ← Host.ofText6? host
            return .v6 upper lower port 0 0
        | [host, scope] =>
            let (upper, lower) ← Host.ofText6? host
            return .v6 upper lower port 0 (← scope? scope)
        | _ => none
      else
        none
  | _ => none

/-- The address of a host that is no name. -/
def literal? (names : Names) (text : List Char) (port : UInt16) : Option Address :=
  match Host.ofText4? text with
  | some host => some (.v4 host port)
  | none => do
      match Fields.split '%' text with
      | [] => none
      | [host] =>
          let (upper, lower) ← Host.ofText6? host
          return .v6 upper lower port 0 0
      | host :: scope =>
          let (upper, lower) ← Host.ofText6? host
          return .v6 upper lower port 0 (← namedScope? names upper (Fields.join '%' scope))

/-- The address of a host, be it a literal or a name. -/
def find (names : Names) (host : List Char) (port : UInt16) : Except EndpointError Address :=
  if '\x00' ∈ host then .error .badHost
  else
    match literal? names host port with
    | some address => .ok address
    | none =>
        match names.host (String.ofList host) with
        | .ok found => .ok (found.withPort port)
        | .error cause => .error (.noHost cause)

/-- The address an endpoint stands for. -/
def resolve (names : Names) (text : String) : Except EndpointError Address :=
  match splitPort? text.toList with
  | none => .error .malformed
  | some (host, portText) =>
      match port? portText with
      | none => .error .badPort
      | some port =>
          match if portText.head? = some '+' then none else bracketed? host port with
          | some address => .ok address
          | none => find names host port

end Endpoint

end Anteroom
