import Anteroom.Listener.Dispatch

/-!
# What handling a datagram does

The read loop has five ways to handle a datagram, which are listed here with
the condition of each and the state it leads to.  A datagram of a peer with a
registered session goes to that session.  Any other one is an offline message:
it may be answered or reported and changes nothing else, or it ends a
handshake, and then a session is created or its creation fails.
-/

namespace Anteroom

/-- The session that an attempt to create one gives. -/
def Plan.session? (plan : Plan) (peer : Address) (mtu : UInt16) (guid : Int64) : Option Session :=
  match plan with
  | raw => some (Session.raw peer mtu guid)
  | scripted script => some (Session.scripted (script peer) peer mtu guid)
  | fails => none

/-- A new session is that of its peer, with what was negotiated; it has been handed nothing and
has not been closed. -/
theorem Plan.fresh_of_session? {plan : Plan} {peer : Address} {mtu : UInt16} {guid : Int64}
    {session : Session} (planned : plan.session? peer mtu guid = some session) :
    session.address = peer ∧ session.mtu = mtu ∧ session.guid = guid ∧
      session.isClosed = false ∧ session.handed = [] ∧ session.closes = 0 := by
  cases plan with
  | raw =>
      cases planned
      exact ⟨rfl, rfl, rfl, rfl, rfl, rfl⟩
  | scripted script =>
      cases planned
      exact ⟨rfl, rfl, rfl, rfl, rfl, rfl⟩
  | fails => cases planned

/-- The datagrams that offline messages are answered with. -/
inductive IsReply : Bytes → Prop
  | pong (framing : PongFraming) (pong : Pong) : IsReply (pong.encode framing)
  | reply1 (serverGuid : Int64) (useSecurity : Bool) (mtu : UInt16) :
      IsReply (Message.openConnectionReply1 serverGuid useSecurity mtu).encode
  | incompatible (protocolVersion : UInt8) (serverGuid : Int64) :
      IsReply (Message.incompatibleProtocolVersion protocolVersion serverGuid).encode
  | reply2 (serverGuid : Int64) (clientAddress : Address) (mtu : UInt16)
      (encryptionEnabled : Bool) :
      IsReply (Message.openConnectionReply2 serverGuid clientAddress mtu encryptionEnabled).encode

/-- The events that answering an offline message of `peer` may leave: replies sent to it and
problems reported about it. -/
def Event.Answers (peer : Address) : Event → Prop
  | .sent receiver datagram none => receiver = peer ∧ IsReply datagram
  | .reported sender _ => sender = peer
  | _ => False

theorem Event.answers_reported (peer : Address) (error : DispatchError) :
    ∀ event ∈ [Event.reported peer error], event.Answers peer :=
  List.forall_mem_singleton.mpr rfl

namespace Listener

/-- Adds events to the history, all of them now. -/
def recordAll (l : Listener) (events : List Event) : Listener :=
  { l with history := l.history ++ events.map fun event => { time := l.now, event } }

theorem record_eq_recordAll (l : Listener) (event : Event) : l.record event = l.recordAll [event] :=
  rfl

@[simp]
theorem recordAll_nil (l : Listener) : l.recordAll [] = l := by
  simp [recordAll]

@[simp]
theorem recordAll_recordAll (l : Listener) (first second : List Event) :
    (l.recordAll first).recordAll second = l.recordAll (first ++ second) := by
  simp [recordAll]

@[simp]
theorem events_recordAll (l : Listener) (events : List Event) :
    (l.recordAll events).events = l.events ++ events := by
  simp [Listener.events, recordAll, Function.comp_def]

@[simp]
theorem events_record (l : Listener) (event : Event) :
    (l.record event).events = l.events ++ [event] :=
  events_recordAll l [event]

/-! ## Handling a datagram -/

/-- The listener with a new session, registered under its address. -/
def enroll (l : Listener) (session : Session) : Listener :=
  { l with registry := ((l.registry.add session).register l.created).1 }

/-- What handling a datagram of `peer` leads to. -/
inductive Handled (l : Listener) (peer : Address) (datagram : Bytes) : Listener → Prop
  /-- It goes to the session registered for the peer, whose refusal is reported. -/
  | forwarded {number : Nat} {session : Session}
      (registered : l.sessionOf? peer = some number)
      (found : l.registry.session? number = some session) :
      Handled l peer datagram
        (({ l with
          registry := l.registry.modify number fun _ => (session.receive datagram).1
          } : Listener).recordAll
          (.handled peer datagram (some number) ::
            (session.receive datagram).2.toList.map fun error => .reported peer (.session error)))
  /-- The table names a session that does not exist. -/
  | unclaimed {number : Nat}
      (registered : l.sessionOf? peer = some number)
      (unknown : l.registry.session? number = none) :
      Handled l peer datagram (l.recordAll [.handled peer datagram (some number)])
  /-- It is an offline message, a malformed one included, that creates no session. -/
  | answered {events : List Event}
      (unregistered : l.sessionOf? peer = none)
      (answers : ∀ event ∈ events, event.Answers peer) :
      Handled l peer datagram (l.recordAll (.handled peer datagram none :: events))
  /-- The creation of a session fails. -/
  | failed {server : Address} {mtu : UInt16} {guid : Int64}
      (unregistered : l.sessionOf? peer = none)
      (decoded : Message.decodeInbound datagram = .ok (.openConnectionRequest2 server mtu guid))
      (reached : l.setup.link.reaches peer = true)
      (planned : (l.setup.plan l.created).session? peer mtu guid = none) :
      Handled l peer datagram
        (({ l with loop := .failed } : Listener).recordAll
          [.handled peer datagram none, .sent peer (l.reply2 peer mtu) none])
  /-- A session is created, registered and offered to the queue. -/
  | negotiated {server : Address} {mtu : UInt16} {guid : Int64} {session : Session}
      (unregistered : l.sessionOf? peer = none)
      (decoded : Message.decodeInbound datagram = .ok (.openConnectionRequest2 server mtu guid))
      (reached : l.setup.link.reaches peer = true)
      (planned : (l.setup.plan l.created).session? peer mtu guid = some session) :
      Handled l peer datagram
        (((l.enroll session).recordAll
          [.handled peer datagram none, .sent peer (l.reply2 peer mtu) none,
            .created l.created]).offer l.created)

/-- An offline message that decodes is answered. -/
theorem handle_of_unregistered {l : Listener} {peer : Address} {datagram : Bytes}
    {message : Message} (unregistered : l.sessionOf? peer = none)
    (decoded : Message.decodeInbound datagram = .ok message) :
    l.handle peer datagram = (l.record (.handled peer datagram none)).answer peer message := by
  simp only [handle, unregistered, handleOffline, decoded]

/-- What follows the event that a datagram has been taken, when it is replied to. -/
theorem reply_record (l : Listener) (event : Event) (peer : Address) (packet : String)
    (reply : Bytes) (next : Listener → Listener) :
    (l.record event).reply peer packet reply next =
      if l.setup.link.reaches peer then next (l.recordAll [event, .sent peer reply none])
      else l.recordAll [event, .reported peer (.send packet Link.fault)] := by
  rw [Listener.reply, report, record_eq_recordAll, record_eq_recordAll, record_eq_recordAll,
    recordAll_recordAll, recordAll_recordAll]
  rfl

/-- What is told of the attempt to send a reply: that it has been sent, or why it has not. -/
def attempt (l : Listener) (peer : Address) (packet : String) (reply : Bytes) : Event :=
  if l.setup.link.reaches peer then .sent peer reply none
  else .reported peer (.send packet Link.fault)

theorem reply_record_id (l : Listener) (event : Event) (peer : Address) (packet : String)
    (reply : Bytes) :
    (l.record event).reply peer packet reply id =
      l.recordAll [event, l.attempt peer packet reply] := by
  rw [reply_record, attempt]
  split <;> rfl

theorem answered_reply {l : Listener} {peer : Address} {datagram answer : Bytes} {packet : String}
    {next : Listener → Listener} {events : List Event} (isReply : IsReply answer)
    (unregistered : l.sessionOf? peer = none) (answers : ∀ event ∈ events, event.Answers peer)
    (adds : next (l.recordAll [.handled peer datagram none, .sent peer answer none]) =
      (l.recordAll [.handled peer datagram none, .sent peer answer none]).recordAll events) :
    Handled l peer datagram
      ((l.record (.handled peer datagram none)).reply peer packet answer next) := by
  rw [reply_record]
  split
  · rw [adds, recordAll_recordAll]
    apply Handled.answered unregistered
    rintro event (_ | ⟨_, member⟩)
    · exact ⟨rfl, isReply⟩
    · exact answers event member
  · exact .answered unregistered (Event.answers_reported peer _)

theorem answered_report {l : Listener} {peer : Address} {datagram : Bytes} (error : DispatchError)
    (unregistered : l.sessionOf? peer = none) :
    Handled l peer datagram ((l.record (.handled peer datagram none)).report peer error) := by
  rw [report, record_eq_recordAll, record_eq_recordAll, recordAll_recordAll]
  exact .answered unregistered (Event.answers_reported peer _)

theorem answered_quiet {l : Listener} {peer : Address} {datagram : Bytes}
    (unregistered : l.sessionOf? peer = none) :
    Handled l peer datagram (l.record (.handled peer datagram none)) :=
  .answered unregistered (List.forall_mem_nil _)

/-- A negotiation ends in a session if its creation is planned to succeed, and takes the read loop
with it otherwise. -/
theorem negotiate_recordAll (l : Listener) (events : List Event) (peer : Address) (mtu : UInt16)
    (guid : Int64) :
    (l.recordAll events).negotiate peer mtu guid =
      match (l.setup.plan l.created).session? peer mtu guid with
      | some session =>
          ((l.enroll session).recordAll (events ++ [.created l.created])).offer l.created
      | none => ({ l with loop := .failed } : Listener).recordAll events := by
  simp only [← recordAll_recordAll]
  have same : (l.recordAll events).setup.plan (l.recordAll events).created =
      l.setup.plan l.created := rfl
  rw [negotiate, same]
  cases l.setup.plan l.created <;> rfl

theorem handled_negotiate {l : Listener} {peer : Address} {datagram : Bytes} {server : Address}
    {mtu : UInt16} {guid : Int64} (unregistered : l.sessionOf? peer = none)
    (decoded : Message.decodeInbound datagram = .ok (.openConnectionRequest2 server mtu guid))
    (reached : l.setup.link.reaches peer = true) :
    Handled l peer datagram
      ((l.recordAll [.handled peer datagram none, .sent peer (l.reply2 peer mtu) none]).negotiate
        peer mtu guid) := by
  rw [negotiate_recordAll]
  split
  · rename_i session planned
    exact .negotiated unregistered decoded reached planned
  · rename_i planned
    exact .failed unregistered decoded reached planned

theorem handled_answer {l : Listener} {peer : Address} {datagram : Bytes} {message : Message}
    (unregistered : l.sessionOf? peer = none)
    (decoded : Message.decodeInbound datagram = .ok message) :
    Handled l peer datagram ((l.record (.handled peer datagram none)).answer peer message) := by
  cases message with
  | unconnectedPing sendTimestamp guid =>
      exact answered_reply (.pong _ _) unregistered (List.forall_mem_nil _)
        (recordAll_nil _).symm
  | openConnectionRequest1 version mtu =>
      rw [answer]
      split
      · exact answered_reply (.reply1 _ _ _) unregistered (List.forall_mem_nil _)
          (recordAll_nil _).symm
      · refine answered_reply (.incompatible _ _) unregistered ?_ (record_eq_recordAll _ _)
        exact Event.answers_reported peer _
  | openConnectionRequest2 server mtu guid =>
      rw [answer, reply_record]
      split
      · rename_i reached
        exact handled_negotiate unregistered decoded reached
      · exact .answered unregistered (Event.answers_reported peer _)
  | _ => exact answered_quiet unregistered

theorem handled_forward {l : Listener} {peer : Address} {datagram : Bytes} {number : Nat}
    (registered : l.sessionOf? peer = some number) :
    Handled l peer datagram
      ((l.record (.handled peer datagram (some number))).forward peer number datagram) := by
  simp only [forward]
  split
  · rename_i unknown
    exact .unclaimed registered unknown
  · rename_i session found
    have forwarded : Handled l peer datagram _ := .forwarded registered found
    cases refusal : (session.receive datagram).2 with
    | none => simpa [refusal, recordAll, record] using forwarded
    | some error => simpa [refusal, recordAll, record, report] using forwarded

/-- Handling a datagram leads to one of the listed states. -/
theorem handled_handle (l : Listener) (peer : Address) (datagram : Bytes) :
    Handled l peer datagram (l.handle peer datagram) := by
  cases registered : l.sessionOf? peer with
  | some number =>
      simp only [handle, registered]
      exact handled_forward registered
  | none =>
      simp only [handle, registered, handleOffline]
      split
      · rename_i message decoded
        exact handled_answer registered decoded
      · split
        · exact answered_quiet registered
        · exact answered_report _ registered
      · exact answered_report _ registered

/-- Handling a datagram touches the read loop, the registry, the queue and the history. -/
theorem Handled.eq_update {l next : Listener} {peer : Address} {datagram : Bytes}
    (handled : Handled l peer datagram next) :
    next = { l with
      loop := next.loop, registry := next.registry, queue := next.queue,
      history := next.history } := by
  cases handled with
  | negotiated =>
      rw [offer]
      split <;> rfl
  | _ => rfl

theorem offer_recordAll (l : Listener) (events : List Event) (number : Nat) :
    (l.recordAll events).offer number = (l.offer number).recordAll events := by
  rw [offer, offer]
  by_cases room : l.queue.length < l.setup.capacity
  · rw [if_pos room]
    exact if_pos room
  · rw [if_neg room]
    exact if_neg room

/-! ## Connection requests -/

theorem handle_request1 {l : Listener} {peer : Address} {datagram : Bytes} {mtu : UInt16}
    (unregistered : l.sessionOf? peer = none)
    (decoded : Message.decodeInbound datagram =
      .ok (.openConnectionRequest1 l.setup.protocolVersion mtu)) :
    l.handle peer datagram = l.recordAll [.handled peer datagram none,
      l.attempt peer "open connection reply 1" (l.reply1 mtu)] := by
  rw [handle_of_unregistered unregistered decoded, answer]
  exact (if_pos rfl).trans (reply_record_id l _ peer _ _)

/-- A first connection request for another protocol version is reported after it was answered. -/
theorem handle_foreign {l : Listener} {peer : Address} {datagram : Bytes} {version : UInt8}
    {mtu : UInt16} (unregistered : l.sessionOf? peer = none)
    (decoded : Message.decodeInbound datagram = .ok (.openConnectionRequest1 version mtu))
    (foreign : version ≠ l.setup.protocolVersion) :
    l.handle peer datagram = l.recordAll (.handled peer datagram none ::
      if l.setup.link.reaches peer then
        [.sent peer l.incompatible none,
          .reported peer (.incompatibleProtocol version l.setup.protocolVersion)]
      else [.reported peer (.send "incompatible protocol version" Link.fault)]) := by
  rw [handle_of_unregistered unregistered decoded, answer]
  refine (if_neg foreign).trans ?_
  rw [reply_record]
  split
  · exact recordAll_recordAll l [_, _] [_]
  · rfl

/-- A second connection request creates a session once it has been answered, or takes the read loop
with it. -/
theorem handle_request2 {l : Listener} {peer server : Address} {datagram : Bytes} {mtu : UInt16}
    {guid : Int64} (unregistered : l.sessionOf? peer = none)
    (decoded : Message.decodeInbound datagram = .ok (.openConnectionRequest2 server mtu guid)) :
    l.handle peer datagram =
      if l.setup.link.reaches peer then
        match (l.setup.plan l.created).session? peer mtu guid with
        | some session =>
            ((l.enroll session).recordAll
              [.handled peer datagram none, .sent peer (l.reply2 peer mtu) none,
                .created l.created]).offer l.created
        | none =>
            ({ l with loop := .failed } : Listener).recordAll
              [.handled peer datagram none, .sent peer (l.reply2 peer mtu) none]
      else
        l.recordAll [.handled peer datagram none,
          .reported peer (.send "open connection reply 2" Link.fault)] := by
  rw [handle_of_unregistered unregistered decoded, answer, reply_record]
  split
  · exact negotiate_recordAll l _ peer mtu guid
  · rfl

theorem handle_request2_of_planned {l : Listener} {peer server : Address} {datagram : Bytes}
    {mtu : UInt16} {guid : Int64} {session : Session} (unregistered : l.sessionOf? peer = none)
    (decoded : Message.decodeInbound datagram = .ok (.openConnectionRequest2 server mtu guid))
    (reached : l.setup.link.reaches peer = true)
    (planned : (l.setup.plan l.created).session? peer mtu guid = some session) :
    l.handle peer datagram = ((l.enroll session).recordAll [.handled peer datagram none,
      .sent peer (l.reply2 peer mtu) none, .created l.created]).offer l.created := by
  rw [handle_request2 unregistered decoded, if_pos reached, planned]

end Listener

end Anteroom
