import Anteroom.Config.Document
import Anteroom.Listener.Builder
import Anteroom.Listener.Run

/-!
# The relay

The relay is a small server on a listener.  It accepts every session, one call
after another, and sends back what the sessions receive.  It answers pings
either with a descriptor of its own or, if it has a target, with the
descriptor of that server.

It starts with the configuration of a document, if it is given one, and does
not start if there is something wrong with the document, with the endpoint it
is to be bound to, or with the endpoint of its target.
-/

namespace Anteroom.Relay

/-- What the relay is told when it starts. -/
structure Options where
  /-- The endpoint it is bound to. -/
  endpoint : String := "0.0.0.0:19132"
  /-- The endpoint of the server whose descriptor it relays. -/
  target : Option String := none

/-- Why the relay does not run. -/
inductive Failure
  /-- The configuration document cannot be read. -/
  | document
  | start (error : StartError)
  /-- The listener runs, but the target has no address. -/
  | target (error : ListenerError)
  deriving DecidableEq, Repr

/-- The exit status that a failure ends in. -/
def Failure.status : Failure → UInt32
  | start .unbuildable => 101
  | _ => 1

/-- The configuration of a document, or the default where no document is given.  The relay wants
the whole document to be text. -/
def configOf (document : Option Bytes) : Except Failure Config :=
  match document with
  | none => .ok {}
  | some bytes =>
      match if Utf8.isText bytes then Config.ofDocument? bytes else none with
      | some config => .ok config
      | none => .error .document

/-- The descriptor of a relay without a target. -/
def descriptor (id : Int64) : Bytes :=
  let text := "MCPE;Rakgate relay;390;1.14.60;0;10;" ++ String.ofList (Decimal.ofInt id.toInt) ++
    ";Rakgate;Survival;"
  text.toUTF8.toList

/-- The relay's listener as it starts. -/
def start (id : Int64) (link : Link) (names : Names) (config : Config) (options : Options) :
    Except Failure Listener := do
  let builder := Builder.ofChoices [.endpoint options.endpoint, .config config]
  let l ← (builder.listen names id link fun _ => .raw).mapError .start
  match options.target with
  | some target => (l.hijack names target).mapError .target
  | none => (l.setPong (descriptor id)).mapError .target

/-- Calls accept until a call has to wait, at most `count` times. -/
def acceptWithin : (count : Nat) → Listener → Listener
  | 0, l => l
  | count + 1, l =>
      if l.hasPendingCall || l.shutdown then l else acceptWithin count l.accept

/-- Sends back up to `count` datagrams of a session.  What does not fit is dropped. -/
def echoWithin : (count : Nat) → Listener → (session : Nat) → Listener
  | 0, l, _ => l
  | count + 1, l, session =>
      match l.readSession session with
      | some (l, .datagram datagram) =>
          echoWithin count (l.perform (.sendSession session datagram)) session
      | _ => l

/-- The listener after the relay has done all it can do. -/
def serve (l : Listener) : Listener :=
  let l := acceptWithin (l.created + l.backlog.length + 1) l
  l.returned.foldl (echoWithin inboxCapacity) l

/-- The listener after a command and what the relay does in response. -/
def perform (l : Listener) (command : Command) : Listener :=
  serve (l.perform command)

/-- The listener after a list of commands, and what the relay does at first and in response to
each of them. -/
def run (l : Listener) (commands : List Command) : Listener :=
  commands.foldl perform (serve l)

end Anteroom.Relay
