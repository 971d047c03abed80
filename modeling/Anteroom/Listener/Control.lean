import Anteroom.Listener.Move
import Anteroom.Net.Endpoint
import Anteroom.Pong.Descriptor

/-!
# Operating a listener

What is done to a listener from outside: datagrams arrive, time passes,
sessions signal, and the application accepts sessions, uses the ones it has,
sets the pong payload, starts hijacks, and closes the listener or lets go of
it.  Each of these has its effect at once, and then the listener settles; the
effects stand beside the operations, so that settling can be told apart from
what it follows.

Closing shuts everything down before it closes the registered sessions, so no
session is created while they are closed, and all of them are closed whatever
failures there are.  A listener that is let go of without being closed shuts
down as soon as no accept call refers to it; its sessions stay open.
-/

namespace Anteroom

/-- Why a listener does not start. -/
inductive StartError
  /-- The socket could not be bound. -/
  | refused (error : ListenerError)
  /-- No queue is as long as the configuration asks for. -/
  | unbuildable
  deriving DecidableEq, Repr

/-- How a shutdown went. -/
structure Closing where
  /-- Whether the read loop had failed. -/
  loopFailed : Bool := false
  /-- The sessions that could not be closed. -/
  failures : List CloseError := []

namespace Closing

/-- What a shutdown is reported as.  A failed read loop goes before failures of sessions. -/
def result (closing : Closing) : Except ListenerError Unit :=
  if closing.loopFailed then .error (.readLoop "the task failed")
  else (Registry.closeResult closing.failures).mapError .session

end Closing

namespace Listener

/-- Starts a listener at an endpoint. -/
def listen (names : Names) (endpoint : String) (setup : Setup) : Except StartError Listener :=
  match Endpoint.resolve names endpoint with
  | .error error => .error (.refused (.bind error.message))
  | .ok address =>
      match setup.link.bindFault? address with
      | some fault => .error (.refused (.bind fault.message))
      | none =>
          if setup.capacity ≤ Config.maxQueueCapacity then .ok (start setup)
          else .error .unbuildable

/-! ## The world outside -/

/-- A datagram has arrived.  What is longer than the read buffer is cut. -/
def arrive (l : Listener) (peer : Address) (datagram : Bytes) : Listener :=
  let delivery : Delivery := { peer, datagram := datagram.received }
  { l with backlog := l.backlog ++ [delivery] }

/-- A datagram arrives. -/
def deliver (l : Listener) (peer : Address) (datagram : Bytes) : Listener :=
  (l.arrive peer datagram).settle

/-- Time has passed. -/
def elapse (l : Listener) (nanos : Nat) : Listener :=
  { l with now := l.now + nanos }

/-- Time passes. -/
def advance (l : Listener) (nanos : Nat) : Listener :=
  (l.elapse nanos).settle

/-- A session has signalled. -/
def fire (l : Listener) (session : Nat) (signal : Signal) : Listener :=
  { l with registry := l.registry.modify session (·.fire signal) }

/-- A session signals. -/
def signal (l : Listener) (session : Nat) (signal : Signal) : Listener :=
  (l.fire session signal).settle

/-- A hijack has learned a payload, which is relayed. -/
def learn (l : Listener) (number : Nat) (payload : Bytes) : Listener :=
  let relayed := Descriptor.relay payload l.setup.id
  match l.board.store relayed with
  | .ok board => { l with board }.record (.written (some number) relayed)
  | .error _ => l

/-- A datagram has arrived for a probe of a hijack.  Once the listener shuts down, a hijack looks
at no datagram any more. -/
def hear (l : Listener) (number serial : Nat) (datagram : Bytes) : Listener :=
  if l.shutdown then l
  else
    match l.hijacks.findIdx? (·.number = number) with
    | none => l
    | some index =>
        match l.hijacks[index]? with
        | none => l
        | some hijack =>
            let (hijack, learned) := hijack.hear l.setup.config.framing serial datagram
            let l : Listener := { l with hijacks := l.hijacks.set index hijack }
            match learned with
            | none => l
            | some payload => l.learn number payload

/-- A datagram arrives for a probe of a hijack. -/
def answerProbe (l : Listener) (number serial : Nat) (datagram : Bytes) : Listener :=
  (l.hear number serial datagram).settle

/-! ## Accept calls -/

/-- Accept has been called.  The call gets the next number. -/
def join (l : Listener) : Listener :=
  { l with waiting := l.waiting ++ [l.calls], calls := l.calls + 1 }

/-- Calls accept. -/
def accept (l : Listener) : Listener :=
  l.join.settle

/-- Whether an accept call is under way. -/
def isPending (l : Listener) (call : Nat) : Bool :=
  l.waiting.contains call || l.inHand.any (·.call = call)

/-- An accept call is gone.  The candidate it waited for stays registered, but is in nobody's
hands any more. -/
def leave (l : Listener) (call : Nat) : Listener :=
  if call ∈ l.waiting then
    { l with waiting := l.waiting.erase call }
  else
    match l.inHand.find? (·.call = call) with
    | some candidate =>
        let rest : Listener := { l with inHand := l.inHand.erase candidate }
        rest.settleFate candidate.session .abandoned
    | none => l

/-- Abandons an accept call, and tells whether it was under way. -/
def abandon (l : Listener) (call : Nat) : Listener × Bool :=
  if l.isPending call then ((l.leave call).settle, true) else (l, false)

/-! ## Sessions in the hands of the application -/

/-- The session of a number, if an accept call has returned it. -/
def accepted? (l : Listener) (session : Nat) : Option Session :=
  if l.isReturned session then l.registry.session? session else none

/-- A session has changed. -/
def put (l : Listener) (session : Nat) (value : Session) : Listener :=
  { l with registry := l.registry.modify session fun _ => value }

/-- Changes a session. -/
def update (l : Listener) (session : Nat) (value : Session) : Listener :=
  (l.put session value).settle

/-- The application closes a session that it has. -/
def closeSession (l : Listener) (session : Nat) : Option (Listener × Option TransportError) := do
  let (closed, fault) := (← l.accepted? session).close
  return (l.update session closed, fault)

/-- The application reads from a session that it has. -/
def readSession (l : Listener) (session : Nat) : Option (Listener × Session.Received) := do
  let (read, received) := (← l.accepted? session).recv
  return (l.update session read, received)

/-- The application sends on a session that it has. -/
def sendSession (l : Listener) (session : Nat) (datagram : Bytes) :
    Option (Listener × Except TransportError Unit) := do
  let sender ← l.accepted? session
  match sender.send l.setup.link datagram with
  | .ok () => return (l.record (.sent sender.address datagram (some session)), .ok ())
  | .error error => return (l, .error error)

/-! ## Pong payloads -/

/-- Sets the pong payload. -/
def setPong (l : Listener) (payload : Bytes) : Except ListenerError Listener := do
  let board ← l.board.store payload
  return { l with board }.record (.written none payload)

/-- A hijack has been started. -/
def enlist (l : Listener) (target : Address) : Listener :=
  let hijack := Hijack.start l.hijackCount target l.setup.config.hijackInterval
    l.setup.interval_pos l.now
  { l with
    hijacks := l.hijacks ++ [hijack]
    hijackCount := l.hijackCount + 1 }

/-- Starts a hijack of the pong of the server at an endpoint. -/
def hijack (l : Listener) (names : Names) (endpoint : String) : Except ListenerError Listener :=
  if l.shutdown then .error .closed
  else
    match Endpoint.resolve names endpoint with
    | .error error => .error (.resolve endpoint error.message)
    | .ok target => .ok (l.enlist target).settle

/-! ## The end -/

/-- Closes every registered session and empties the table. -/
def closeSessions (l : Listener) : Listener × List CloseError :=
  let l := l.registry.table.numbers.foldl (fun l session => l.record (.shut session)) l
  let (registry, failures) := l.registry.closeAll
  ({ l with registry := registry.clear }, failures)

/-- Closing has begun. -/
def beginClose (l : Listener) : Listener :=
  { l with closed := true, shutdown := true }

/-- Closes the listener.  Closing it again changes nothing and succeeds. -/
def close (l : Listener) : Listener × Closing :=
  if l.closed then (l, {})
  else
    let stopped := l.beginClose.settle
    let (emptied, failures) := stopped.closeSessions
    (emptied.settle, { loopFailed := l.loop = .failed, failures })

/-- The listener has been let go of. -/
def letGo (l : Listener) : Listener :=
  { l with released := true }

/-- Lets go of the listener. -/
def release (l : Listener) : Listener :=
  l.letGo.settle

end Listener

end Anteroom
