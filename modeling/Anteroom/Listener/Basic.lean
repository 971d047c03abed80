import Anteroom.Config
import Anteroom.Listener.Hijack
import Anteroom.Pong.Board
import Anteroom.Session.Registry

/-!
# Listeners

A listener reads datagrams one at a time.  Those of a peer with a registered
session go to that session; all others are offline messages.  A peer that ends
its handshake gets a session, which is registered and queued; accept calls take
candidates from the queue, one each and in turn, and wait for them to complete.

The queue is bounded.  When it is full, the read loop holds the session it has
just created and handles no datagram until there is room.

The state of a listener also records what became of each session that has left
the queue without being in somebody's hands, and everything that happened, in
order.  Sessions, accept calls and hijacks are numbered in the order they came.
Times are in nanoseconds since the listener started.
-/

namespace Anteroom

/-- What becomes of an attempt to create a session. -/
inductive Plan
  | raw
  /-- The script may depend on the peer. -/
  | scripted (script : Address → Script)
  /-- The attempt fails and takes the read loop with it. -/
  | fails

/-- What is fixed while a listener runs. -/
structure Setup where
  /-- The id the listener shows to clients. -/
  id : Int64
  config : Config
  link : Link
  /-- What becomes of the attempt to create the session of each number. -/
  plan : Nat → Plan
  capacity_pos : 0 < config.acceptQueueCapacity.toNat
  timeout_pos : 0 < config.handshakeTimeout.nanos
  interval_pos : 0 < config.hijackInterval.nanos

namespace Setup

/-- The setup with a configuration made valid. -/
def ofConfig (id : Int64) (config : Config) (link : Link) (plan : Nat → Plan) : Setup where
  id := id
  config := config.validated
  link := link
  plan := plan
  capacity_pos := Nat.pos_of_ne_zero fun h =>
    config.validated_acceptQueueCapacity_ne_zero (UInt64.toNat_inj.mp h)
  timeout_pos := config.validated_handshakeTimeout_pos
  interval_pos := config.validated_hijackInterval_pos

/-- The id that is drawn with some random bits.  It is not negative. -/
def drawId (bits : UInt64) : Int64 :=
  (bits >>> 1).toInt64

/-- The sessions that may wait in the queue. -/
def capacity (setup : Setup) : Nat :=
  setup.config.acceptQueueCapacity.toNat

/-- The protocol version of the listener. -/
def protocolVersion (setup : Setup) : UInt8 :=
  setup.config.protocolVersion

end Setup

/-- What the read loop is doing. -/
inductive ReadLoop
  /-- It reads datagrams. -/
  | reading
  /-- It waits for room in the queue, with the session it wants to put there. -/
  | holding (session : Nat)
  /-- The creation of a session failed in it. -/
  | failed
  /-- It ended when the listener shut down. -/
  | stopped
  deriving DecidableEq, Repr

namespace ReadLoop

/-- Whether the read loop has ended. -/
def ended : ReadLoop → Bool
  | failed => true
  | stopped => true
  | _ => false

/-- The session that the read loop holds. -/
def held? : ReadLoop → Option Nat
  | holding session => some session
  | _ => none

end ReadLoop

/-- A datagram on its way to the read loop. -/
structure Delivery where
  peer : Address
  datagram : Bytes
  deriving DecidableEq

/-- A session that an accept call waits for. -/
structure Candidate where
  call : Nat
  session : Nat
  /-- When its time to complete is up. -/
  deadline : Nat
  deriving DecidableEq, Repr

/-- What became of a session that is neither queued nor waited for. -/
inductive Fate
  /-- An accept call returned it. -/
  | returned (call : Nat)
  /-- It was closed because its time to complete was up. -/
  | expired
  /-- It was dropped because the listener shut down. -/
  | discarded
  /-- The accept call that waited for it was abandoned. -/
  | abandoned
  deriving DecidableEq, Repr

/-- Something that happened in a listener. -/
inductive Event
  /-- The read loop took a datagram, for the session registered for its sender if any. -/
  | handled (peer : Address) (datagram : Bytes) (session : Option Nat)
  /-- A datagram was sent: by a session, or by the read loop in answer to an offline message. -/
  | sent (peer : Address) (datagram : Bytes) (session : Option Nat)
  /-- A problem with a datagram was reported. -/
  | reported (peer : Address) (error : DispatchError)
  /-- A session was created and registered. -/
  | created (session : Nat)
  /-- An accept call took a candidate from the queue. -/
  | pulled (call session : Nat)
  /-- An accept call returned a session. -/
  | returned (call session : Nat)
  /-- An accept call ended because the listener is closed. -/
  | refused (call : Nat)
  /-- The listener closed a session whose time to complete was up. -/
  | expired (session : Nat)
  /-- The listener closed a session because it shuts down. -/
  | shut (session : Nat)
  /-- A hijack sent a probe. -/
  | probed (hijack serial : Nat)
  /-- A payload was written on the board: one that the operator set, or one that a hijack
  learned. -/
  | written (hijack : Option Nat) (payload : Bytes)
  deriving DecidableEq

/-- An event and when it happened. -/
structure Entry where
  time : Nat
  event : Event
  deriving DecidableEq

/-- A listener. -/
structure Listener where
  setup : Setup
  now : Nat := 0
  /-- Whether it is shutting down or has shut down. -/
  shutdown : Bool := false
  /-- Whether it has been closed. -/
  closed : Bool := false
  /-- Whether the application has let go of it. -/
  released : Bool := false
  loop : ReadLoop := .reading
  /-- The datagrams that have arrived and not been handled, oldest first. -/
  backlog : List Delivery := []
  registry : Registry := {}
  /-- The sessions that wait for an accept call, oldest first. -/
  queue : List Nat := []
  /-- The accept calls that wait for a candidate, in turn. -/
  waiting : List Nat := []
  /-- The accept calls that wait for their candidate to complete. -/
  inHand : List Candidate := []
  /-- The returned sessions that are unregistered as soon as they close. -/
  watched : List Nat := []
  board : PongBoard := {}
  hijacks : List Hijack := []
  /-- The accept calls made so far. -/
  calls : Nat := 0
  /-- The hijacks started so far. -/
  hijackCount : Nat := 0
  /-- What became of the sessions that left the queue. -/
  fates : List (Nat × Fate) := []
  /-- Everything that happened, oldest first. -/
  history : List Entry := []

namespace Listener

/-- A listener that has just started. -/
def start (setup : Setup) : Listener :=
  { setup }

/-- Adds an event to the history. -/
def record (l : Listener) (event : Event) : Listener :=
  { l with history := l.history ++ [{ time := l.now, event }] }

/-- The session registered for a peer. -/
def sessionOf? (l : Listener) (peer : Address) : Option Nat :=
  l.registry.table.find? peer

/-- The number of sessions created so far. -/
def created (l : Listener) : Nat :=
  l.registry.sessions.length

/-- The number of registered sessions. -/
def sessionCount (l : Listener) : Nat :=
  l.registry.size

/-- Everything that happened, without the times. -/
def events (l : Listener) : List Event :=
  l.history.map Entry.event

/-- Notes what became of a session. -/
def settleFate (l : Listener) (session : Nat) (fate : Fate) : Listener :=
  { l with fates := l.fates ++ [(session, fate)] }

/-- The accept call that returned a session. -/
def returnedBy? (l : Listener) (session : Nat) : Option Nat :=
  l.fates.findSome? fun
    | (number, .returned call) => if number = session then some call else none
    | _ => none

/-- Whether the application has a session. -/
def isReturned (l : Listener) (session : Nat) : Bool :=
  (l.returnedBy? session).isSome

/-- Whether the session of a number is in a state that `test` accepts. -/
def sessionIs (l : Listener) (number : Nat) (test : Session → Bool) : Bool :=
  (l.registry.session? number).any test

/-- The sessions that accept calls have returned, in this order. -/
def returned (l : Listener) : List Nat :=
  l.fates.filterMap fun
    | (number, .returned _) => some number
    | _ => none

/-- Whether an accept call is under way. -/
def hasPendingCall (l : Listener) : Bool :=
  !l.waiting.isEmpty || !l.inHand.isEmpty

/-- Whether the read loop is ready for a datagram. -/
def isReading (l : Listener) : Bool :=
  !l.shutdown && l.loop == .reading

/-- Whether a ping from a peer without a session would be answered now. -/
def wouldAnswer (l : Listener) (peer : Address) : Bool :=
  l.isReading && l.setup.link.reaches peer

/-- Whether nothing keeps the state of the listener any more. -/
def isGone (l : Listener) : Bool :=
  l.released && !l.hasPendingCall && l.loop.ended && l.hijacks.isEmpty && l.watched.isEmpty

end Listener

end Anteroom
