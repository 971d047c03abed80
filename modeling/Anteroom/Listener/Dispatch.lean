import Anteroom.Listener.Basic

/-!
# Handling datagrams

A datagram from a peer with a registered session goes to that session, whatever
its bytes.  From any other peer it is an offline message.

A ping is answered with the current payload.  The first connection request is
answered with the MTU it measured if it asks for the listener's protocol
version, and is rejected otherwise.  The second one is answered and ends the
handshake: a session is created and registered, and goes to the queue.  A peer
that has sent the first request is not remembered, so nothing is kept for peers
that have not sent the second.

Session datagrams from peers without a session are left over from sessions that
are gone, and are ignored.  Anything else that is no inbound message is reported.
-/

namespace Anteroom.Listener

/-- Reports a problem with a datagram of `peer`. -/
def report (l : Listener) (peer : Address) (error : DispatchError) : Listener :=
  l.record (.reported peer error)

/-- Sends a reply and goes on with `next`; a reply that cannot be sent is reported and ends the
matter. -/
def reply (l : Listener) (peer : Address) (packet : String) (datagram : Bytes)
    (next : Listener → Listener) : Listener :=
  if l.setup.link.reaches peer then
    next (l.record (.sent peer datagram none))
  else
    l.report peer (.send packet Link.fault)

/-- The answer to a ping. -/
def pong (l : Listener) (sendTimestamp : Int64) : Bytes :=
  Pong.encode l.setup.config.framing
    { sendTimestamp, serverGuid := l.setup.id, payload := l.board.payload }

/-- The answer to a first connection request for the listener's protocol version. -/
def reply1 (l : Listener) (mtu : UInt16) : Bytes :=
  (Message.openConnectionReply1 l.setup.id false mtu).encode

/-- The answer to a first connection request for another protocol version. -/
def incompatible (l : Listener) : Bytes :=
  (Message.incompatibleProtocolVersion l.setup.protocolVersion l.setup.id).encode

/-- The answer to a second connection request. -/
def reply2 (l : Listener) (peer : Address) (mtu : UInt16) : Bytes :=
  (Message.openConnectionReply2 l.setup.id peer mtu false).encode

/-- Puts a session into the queue, or holds it until there is room. -/
def offer (l : Listener) (number : Nat) : Listener :=
  if l.queue.length < l.setup.capacity then { l with queue := l.queue ++ [number] }
  else { l with loop := .holding number }

/-- Creates, registers and queues the session of a peer, unless its creation fails. -/
def negotiate (l : Listener) (peer : Address) (mtu : UInt16) (guid : Int64) : Listener :=
  let number := l.created
  let enroll (session : Session) : Listener :=
    ({ l with registry := ((l.registry.add session).register number).1 }.record
      (.created number)).offer number
  match l.setup.plan number with
  | .raw => enroll (Session.raw peer mtu guid)
  | .scripted script => enroll (Session.scripted (script peer) peer mtu guid)
  | .fails => { l with loop := .failed }

/-- Answers an offline message of a peer without a session. -/
def answer (l : Listener) (peer : Address) : Message → Listener
  | .unconnectedPing sendTimestamp _ =>
      l.reply peer "unconnected pong" (l.pong sendTimestamp) id
  | .openConnectionRequest1 version mtu =>
      if version = l.setup.protocolVersion then
        l.reply peer "open connection reply 1" (l.reply1 mtu) id
      else
        l.reply peer "incompatible protocol version" l.incompatible fun l =>
          l.report peer (.incompatibleProtocol version l.setup.protocolVersion)
  | .openConnectionRequest2 _ mtu guid =>
      l.reply peer "open connection reply 2" (l.reply2 peer mtu) fun l =>
        l.negotiate peer mtu guid
  | _ => l

/-- Handles a datagram of a peer without a session. -/
def handleOffline (l : Listener) (peer : Address) (datagram : Bytes) : Listener :=
  match Message.decodeInbound datagram with
  | .ok message => l.answer peer message
  | .error (.unknownPacket id) =>
      if isSessionByte id then l else l.report peer (.unknownPacket id datagram.length)
  | .error error => l.report peer (.decode error)

/-- Hands a datagram to a session, and reports its refusal. -/
def forward (l : Listener) (peer : Address) (number : Nat) (datagram : Bytes) : Listener :=
  match l.registry.session? number with
  | none => l
  | some session =>
      let (session, refusal) := session.receive datagram
      let l := { l with registry := l.registry.modify number fun _ => session }
      match refusal with
      | none => l
      | some error => l.report peer (.session error)

/-- Handles a datagram. -/
def handle (l : Listener) (peer : Address) (datagram : Bytes) : Listener :=
  let number? := l.sessionOf? peer
  let l := l.record (.handled peer datagram number?)
  match number? with
  | some number => l.forward peer number datagram
  | none => l.handleOffline peer datagram

end Anteroom.Listener
