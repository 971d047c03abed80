import Anteroom.Proofs.ReadLoop

/-!
# Replies

A listener answers offline messages with pongs and with replies to connection
requests, and with nothing else.  None of these is a message of a client: its
leading byte is refused before anything is looked at behind it.  So a listener
that receives the reply of another one reports it and sends nothing, and two
listeners cannot keep each other busy.
-/

namespace Anteroom

/-- A datagram that starts with the leading byte of a server's message. -/
def IsOutbound (datagram : Bytes) (id : UInt8) : Prop :=
  datagram.head? = some id ∧ isSessionByte id = false ∧ Layout.inbound? id = none

theorem IsReply.outbound {reply : Bytes} (isReply : IsReply reply) : ∃ id, IsOutbound reply id := by
  cases isReply with
  | pong => exact ⟨0x1c, rfl, rfl, rfl⟩
  | reply1 => exact ⟨0x06, rfl, rfl, rfl⟩
  | incompatible => exact ⟨0x19, rfl, rfl, rfl⟩
  | reply2 => exact ⟨0x08, rfl, rfl, rfl⟩

/-- Cutting a datagram leaves its leading byte. -/
theorem IsOutbound.received {datagram : Bytes} {id : UInt8} (outbound : IsOutbound datagram id) :
    IsOutbound datagram.received id := by
  obtain ⟨leading, offline, unknown⟩ := outbound
  refine ⟨?_, offline, unknown⟩
  rw [Bytes.received, List.head?_take, if_neg (by decide), leading]

/-- The leading byte of a message is never that of a session datagram. -/
theorem isSessionByte_encode (message : Message) :
    ∃ id, message.encode.head? = some id ∧ isSessionByte id = false :=
  ⟨message.layout.id, rfl, message.layout.packetId.isSessionByte_byte⟩

namespace Listener

/-- A server's message from a peer without a session is reported, and nothing else comes of it. -/
theorem handle_of_outbound {l : Listener} {peer : Address} {datagram : Bytes} {id : UInt8}
    (outbound : IsOutbound datagram id) (unregistered : l.sessionOf? peer = none) :
    l.handle peer datagram = l.recordAll
      [.handled peer datagram none, .reported peer (.unknownPacket id datagram.length)] := by
  obtain ⟨leading, offline, unknown⟩ := outbound
  have decoded : Message.decodeInbound datagram = .error (.unknownPacket id) := by
    cases datagram with
    | nil => cases leading
    | cons first body =>
        cases leading
        rw [Message.decodeInbound, unknown]
  have quiet : ¬ isSessionByte id = true := by simp [offline]
  simp only [handle, unregistered, handleOffline, decoded, if_neg quiet]
  rw [report, record_eq_recordAll, record_eq_recordAll, recordAll_recordAll]
  rfl

/-- What is sent in a step in answer to an offline message is a reply. -/
theorem Went.replies {l next : Listener} {step : Step} (went : Went l step next) {peer : Address}
    {datagram : Bytes} (sent : .sent peer datagram none ∈ next.events) :
    .sent peer datagram none ∈ l.events ∨ IsReply datagram := by
  rcases went.told with ⟨events, tells⟩
  rw [tells.events] at sent
  rcases List.mem_append.mp sent with before | now
  · exact .inl before
  · exact .inr (tells.told _ now).2

theorem replies_follow {setup : Setup} {steps : List Step} {l : Listener}
    (followed : (start setup).follow steps = some l) {peer : Address} {datagram : Bytes} :
    .sent peer datagram none ∈ l.events → IsReply datagram := by
  apply follow_induction (P := fun s => .sent peer datagram none ∈ s.events → IsReply datagram)
    _ (fun sent => absurd sent List.not_mem_nil) followed
  intro step _ s next holds went sent
  exact (went.replies sent).elim holds id

/-- The read loop takes a server's message from a peer without a session, and reports it. -/
theorem move?_handle_of_outbound {l next : Listener} {peer : Address} {datagram : Bytes}
    {deliveries : List Delivery} {id : UInt8} (outbound : IsOutbound datagram id)
    (unregistered : l.sessionOf? peer = none) (backlog : l.backlog = ⟨peer, datagram⟩ :: deliveries)
    (moves : l.move? .handle = some next) :
    next = ({ l with backlog := deliveries } : Listener).recordAll
      [.handled peer datagram none, .reported peer (.unknownPacket id datagram.length)] := by
  obtain ⟨-, -, rfl⟩ := handle_of_move? backlog moves
  exact handle_of_outbound outbound unregistered

theorem Settled.deliver_of_outbound {l : Listener} (settled : l.Settled)
    (running : l.shutdown = false) (reading : l.loop = .reading) {peer : Address}
    {datagram : Bytes} {id : UInt8} (outbound : IsOutbound datagram id)
    (unregistered : l.sessionOf? peer = none) :
    l.deliver peer datagram = l.recordAll [.handled peer datagram.received none,
      .reported peer (.unknownPacket id datagram.received.length)] := by
  apply settled.deliver_eq_recordAll running reading
  exact handle_of_outbound outbound.received unregistered

/-- Two listeners do not answer each other.  What a listener sends along any schedule in answer to
offline messages are replies.  Any other listener that receives a reply, whole or cut, from an
address without a session there takes it, reports its leading byte and its length once, and does
nothing else: it sends nothing and creates no session.  The leading byte of no message has the
mark of session datagrams. -/
theorem replies_end_exchange {setup : Setup} {steps : List Step} {l : Listener}
    (followed : (start setup).follow steps = some l) :
    (∀ peer datagram, .sent peer datagram none ∈ l.events → IsReply datagram) ∧
    (∀ reply, IsReply reply → ∃ id, reply.head? = some id ∧ isSessionByte id = false ∧
      ∀ (other : Listener) peer, other.sessionOf? peer = none →
        (∀ cut, cut = reply ∨ cut = reply.take 1500 →
          other.handle peer cut = other.recordAll
            [.handled peer cut none, .reported peer (.unknownPacket id cut.length)] ∧
          ∀ deliveries next, other.backlog = ⟨peer, cut⟩ :: deliveries →
            other.move? .handle = some next →
            next = ({ other with backlog := deliveries } : Listener).recordAll
              [.handled peer cut none, .reported peer (.unknownPacket id cut.length)]) ∧
        (other.Settled → other.shutdown = false → other.loop = .reading →
          other.perform (.deliver peer reply) = other.recordAll
            [.handled peer (reply.take 1500) none,
              .reported peer (.unknownPacket id (min 1500 reply.length))])) ∧
    ∀ message : Message, ∃ id, message.encode.head? = some id ∧ isSessionByte id = false := by
  refine ⟨fun _ _ => replies_follow followed, ?_, isSessionByte_encode⟩
  intro reply isReply
  obtain ⟨id, outbound⟩ := isReply.outbound
  refine ⟨id, outbound.1, outbound.2.1, ?_⟩
  intro other peer unregistered
  constructor
  · intro cut whole
    have outbound : IsOutbound cut id := by
      rcases whole with rfl | rfl
      · exact outbound
      · exact outbound.received
    refine ⟨handle_of_outbound outbound unregistered, ?_⟩
    intro deliveries next backlog moves
    exact move?_handle_of_outbound outbound unregistered backlog moves
  · intro settled running reading
    have delivered := settled.deliver_of_outbound running reading outbound unregistered
    rw [Bytes.received, List.length_take] at delivered
    exact delivered

/-- A listener answers a ping, and another one that receives the pong reports it. -/
theorem replies_end_exchange_of_ping :
    ∃ l pong, (start .plain).follow
        [.command (.deliver (.v4 0x7F000001 4000) (Probe.request 5 9)), .move .handle] = some l ∧
      .sent (.v4 0x7F000001 4000) pong none ∈ l.events ∧
      (start .plain).perform (.deliver (.v4 0x7F000001 19132) pong) =
        (start .plain).recordAll [.handled (.v4 0x7F000001 19132) (pong.take 1500) none,
          .reported (.v4 0x7F000001 19132) (.unknownPacket 0x1c 35)] := by
  have followed : (start .plain).follow
    [.command (.deliver (.v4 0x7F000001 4000) (Probe.request 5 9)), .move .handle] = some _ := rfl
  obtain ⟨replies, refused, _⟩ := replies_end_exchange followed
  have isReply : IsReply ((start .plain).pong 5) :=
    replies (.v4 0x7F000001 4000) _ (List.mem_cons_of_mem _ List.mem_cons_self)
  obtain ⟨id, leading, _, ends⟩ := refused _ isReply
  obtain rfl : 0x1c = id := Option.some.inj leading
  exact ⟨_, _, followed, List.mem_cons_of_mem _ List.mem_cons_self,
    (ends (start .plain) (.v4 0x7F000001 19132) rfl).2 (settled_start .plain) rfl rfl⟩

end Listener

end Anteroom
