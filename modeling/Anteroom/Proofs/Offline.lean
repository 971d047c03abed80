import Anteroom.Proofs.Faults
import Anteroom.Proofs.Grammar
import Anteroom.Proofs.Replies

/-!
# What comes of an offline message

A datagram of a peer without a session is answered once, or reported once, or
both, or neither: both only where a first connection request asks for another
protocol version.  Which of these it is, is told by the leading byte and by
whether the fields behind it can be read.  Apart from the history, nothing in
the listener changes, unless the datagram is a second connection request.
-/

namespace Anteroom

/-- A leading byte has the mark of session datagrams exactly if it is 128 or more. -/
theorem isSessionByte_iff {leading : UInt8} : isSessionByte leading = true ↔ 0x80 ≤ leading := by
  rcases leading with ⟨bits⟩
  revert bits
  decide +kernel

/-- The leading bytes of the messages of clients are 1, 2, 5 and 7. -/
theorem Layout.exists_inbound?_iff {leading : UInt8} :
    (∃ layout, inbound? leading = some layout) ↔ leading ∈ ([1, 2, 5, 7] : Bytes) := by
  constructor
  · rintro ⟨layout, inbound⟩
    rcases inbound?_eq_some_iff.mp inbound with ⟨rfl | rfl, -⟩ | ⟨rfl, -⟩ | ⟨rfl, -⟩ <;> decide
  · intro listed
    simp only [List.mem_cons, List.not_mem_nil, or_false] at listed
    rcases listed with rfl | rfl | rfl | rfl <;> exact ⟨_, rfl⟩

theorem Layout.inbound?_eq_none_iff {leading : UInt8} :
    inbound? leading = none ↔ leading ∉ ([1, 2, 5, 7] : Bytes) := by
  rw [← exists_inbound?_iff, not_exists, Option.eq_none_iff_forall_ne_some]

/-- No message of a client has the mark of session datagrams. -/
theorem Layout.inbound?_eq_none_of_le {leading : UInt8} (marked : 0x80 ≤ leading) :
    inbound? leading = none := by
  rw [inbound?_eq_none_iff]
  intro listed
  simp only [List.mem_cons, List.not_mem_nil, or_false] at listed
  rcases listed with rfl | rfl | rfl | rfl <;> exact absurd marked (by decide)

/-- The datagram of an event that says it has been sent, with its receiver and the session that
sent it. -/
def Event.sent? : Event → Option (Address × Bytes × Option Nat)
  | sent receiver datagram session => some (receiver, datagram, session)
  | _ => none

/-- The problem that an event reports, with the sender of the datagram. -/
def Event.reported? : Event → Option (Address × DispatchError)
  | reported sender error => some (sender, error)
  | _ => none

namespace Listener

/-! ## Messages that are not read -/

/-- A session datagram without a session is taken, and that is all. -/
theorem handle_of_marked {l : Listener} {peer : Address} {leading : UInt8} (body : Bytes)
    (marked : 0x80 ≤ leading) (unregistered : l.sessionOf? peer = none) :
    l.handle peer (leading :: body) = l.record (.handled peer (leading :: body) none) := by
  have refused : Message.decodeInbound (leading :: body) = .error (.unknownPacket leading) :=
    Message.decodeInbound_eq_unknownPacket_iff.mpr ⟨rfl, Layout.inbound?_eq_none_of_le marked⟩
  simp only [handle, unregistered, handleOffline, refused, if_pos (isSessionByte_iff.mpr marked)]

/-- Any other leading byte that is not a client's is reported with the length of the datagram. -/
theorem handle_of_unknown {l : Listener} {peer : Address} {leading : UInt8} (body : Bytes)
    (unmarked : ¬ 0x80 ≤ leading) (unlisted : leading ∉ ([1, 2, 5, 7] : Bytes))
    (unregistered : l.sessionOf? peer = none) :
    l.handle peer (leading :: body) = l.recordAll
      [.handled peer (leading :: body) none,
        .reported peer (.unknownPacket leading (leading :: body).length)] := by
  apply handle_of_outbound _ unregistered
  refine ⟨rfl, ?_, Layout.inbound?_eq_none_iff.mpr unlisted⟩
  rw [Bool.eq_false_iff]
  exact isSessionByte_iff.not.mpr unmarked

/-- A message that lacks its leading byte, or whose fields are refused, is reported with the
reason. -/
theorem handle_of_refused {l : Listener} {peer : Address} {datagram : Bytes} {e : DecodeError}
    (refused : Message.decodeInbound datagram = .error e) (known : ∀ id, e ≠ .unknownPacket id)
    (unregistered : l.sessionOf? peer = none) :
    l.handle peer datagram =
      l.recordAll [.handled peer datagram none, .reported peer (.decode e)] := by
  simp only [handle, unregistered, handleOffline, refused]
  cases e with
  | unknownPacket id => exact absurd rfl (known id)
  | _ => exact recordAll_recordAll l [_] [_]

/-! ## At most one answer, at most one report -/

/-- What is told of an offline message, beside that it was taken. -/
inductive Reacts (l : Listener) (peer : Address) (datagram : Bytes) : List Event → Prop
  | silent : Reacts l peer datagram []
  | complained (error : DispatchError) : Reacts l peer datagram [.reported peer error]
  | answered (reply : Bytes) : Reacts l peer datagram [.sent peer reply none]
  /-- A first connection request for another protocol version has been answered. -/
  | rejected {version : UInt8} {mtu : UInt16} (reply : Bytes) (error : DispatchError)
      (decoded : Message.decodeInbound datagram = .ok (.openConnectionRequest1 version mtu))
      (foreign : version ≠ l.setup.protocolVersion) :
      Reacts l peer datagram [.sent peer reply none, .reported peer error]
  /-- A second connection request has been answered and has ended in a session. -/
  | negotiated (reply : Bytes) : Reacts l peer datagram [.sent peer reply none, .created l.created]

theorem reacts_attempt (l : Listener) (peer : Address) (datagram : Bytes) (packet : String)
    (reply : Bytes) : Reacts l peer datagram [l.attempt peer packet reply] := by
  rw [attempt]
  split
  · exact .answered reply
  · exact .complained _

/-- Only a second connection request changes more than the history. -/
theorem exists_reaction {l : Listener} {peer : Address} {datagram : Bytes}
    (unregistered : l.sessionOf? peer = none)
    (other : ∀ server mtu guid,
      Message.decodeInbound datagram ≠ .ok (.openConnectionRequest2 server mtu guid)) :
    ∃ events, Reacts l peer datagram events ∧
      l.handle peer datagram = l.recordAll (.handled peer datagram none :: events) := by
  cases decoded : Message.decodeInbound datagram with
  | error e =>
      cases e with
      | unknownPacket id =>
          simp only [handle, unregistered, handleOffline, decoded]
          split
          · exact ⟨[], .silent, rfl⟩
          · exact ⟨_, .complained _, recordAll_recordAll l [_] [_]⟩
      | _ =>
          refine ⟨_, .complained _, handle_of_refused decoded ?_ unregistered⟩
          intro id same
          cases same
  | ok message =>
      cases message with
      | unconnectedPing sendTimestamp guid =>
          exact ⟨_, reacts_attempt _ _ _ _ _, handle_ping unregistered decoded⟩
      | openConnectionRequest1 version mtu =>
          by_cases own : version = l.setup.protocolVersion
          · subst own
            exact ⟨_, reacts_attempt _ _ _ _ _, handle_request1 unregistered decoded⟩
          · refine ⟨_, ?_, handle_foreign unregistered decoded own⟩
            split
            · exact .rejected _ _ decoded own
            · exact .complained _
      | openConnectionRequest2 server mtu guid => exact absurd decoded (other server mtu guid)
      | _ => exact ⟨[], .silent, handle_of_unregistered unregistered decoded⟩

theorem exists_reaction_request2 {l : Listener} {peer server : Address} {datagram : Bytes}
    {mtu : UInt16} {guid : Int64} (unregistered : l.sessionOf? peer = none)
    (decoded : Message.decodeInbound datagram = .ok (.openConnectionRequest2 server mtu guid)) :
    ∃ events, Reacts l peer datagram events ∧
      (l.handle peer datagram).events = l.events ++ .handled peer datagram none :: events := by
  rw [handle_request2 unregistered decoded]
  split
  · split
    · refine ⟨_, .negotiated (l.reply2 peer mtu), ?_⟩
      rw [events_offer, events_recordAll]
      rfl
    · exact ⟨_, .answered (l.reply2 peer mtu), events_recordAll _ _⟩
  · exact ⟨_, .complained _, events_recordAll _ _⟩

theorem Reacts.at_most_one {l : Listener} {peer : Address} {datagram : Bytes} {events : List Event}
    (reacts : Reacts l peer datagram events) :
    ∃ (reply : Option Bytes) (error : Option DispatchError),
      events.filterMap Event.sent? = (reply.map (peer, ·, none)).toList ∧
      events.filterMap Event.reported? = (error.map (peer, ·)).toList ∧
      (reply.isSome → error.isSome → ∃ version mtu,
        Message.decodeInbound datagram = .ok (.openConnectionRequest1 version mtu) ∧
          version ≠ l.setup.protocolVersion) := by
  cases reacts with
  | silent => exact ⟨none, none, rfl, rfl, nofun⟩
  | complained error => exact ⟨none, some error, rfl, rfl, nofun⟩
  | answered reply => exact ⟨some reply, none, rfl, rfl, fun _ => nofun⟩
  | rejected reply error decoded foreign =>
      exact ⟨some reply, some error, rfl, rfl, fun _ _ => ⟨_, _, decoded, foreign⟩⟩
  | negotiated reply => exact ⟨some reply, none, rfl, rfl, fun _ => nofun⟩

/-- What comes of the datagram that the read loop takes from a peer without a session.  At most one
datagram is sent and at most one problem is reported, both to do with this peer, and both together
only for a first connection request with another protocol version.  A datagram with the mark of
session datagrams is taken, and that is all.  One without bytes, and one with the leading byte of a
client's message whose fields are not read, is reported with the reason, which is never that its
leading byte is another one's.  Any other leading byte is reported with the length of the datagram.
Unless it is a second connection request, nothing changes but the history. -/
theorem offline_answered_or_reported {l next : Listener} {delivery : Delivery}
    {deliveries : List Delivery} (backlog : l.backlog = delivery :: deliveries)
    (unregistered : l.sessionOf? delivery.peer = none) (enabled : l.move? .handle = some next) :
    (∃ (events : List Event) (reply : Option Bytes) (error : Option DispatchError),
      next.events = l.events ++ .handled delivery.peer delivery.datagram none :: events ∧
      events.filterMap Event.sent? = (reply.map (delivery.peer, ·, none)).toList ∧
      events.filterMap Event.reported? = (error.map (delivery.peer, ·)).toList ∧
      (reply.isSome → error.isSome → ∃ version mtu,
        Message.decodeInbound delivery.datagram = .ok (.openConnectionRequest1 version mtu) ∧
          version ≠ l.setup.protocolVersion)) ∧
    (∀ leading body, delivery.datagram = leading :: body → 0x80 ≤ leading →
      next = ({ l with backlog := deliveries } : Listener).record
        (.handled delivery.peer delivery.datagram none)) ∧
    (delivery.datagram = [] →
      next = ({ l with backlog := deliveries } : Listener).recordAll
        [.handled delivery.peer delivery.datagram none,
          .reported delivery.peer (.decode .empty)]) ∧
    (∀ leading body e, delivery.datagram = leading :: body → leading ∈ ([1, 2, 5, 7] : Bytes) →
      Message.decodeInbound delivery.datagram = .error e →
      next = ({ l with backlog := deliveries } : Listener).recordAll
        [.handled delivery.peer delivery.datagram none, .reported delivery.peer (.decode e)] ∧
      (∀ id, e ≠ .unknownPacket id) ∧ ∀ expected found, e ≠ .unexpectedPacket expected found) ∧
    (∀ leading body, delivery.datagram = leading :: body → leading < 0x80 →
      leading ∉ ([1, 2, 5, 7] : Bytes) →
      next = ({ l with backlog := deliveries } : Listener).recordAll
        [.handled delivery.peer delivery.datagram none,
          .reported delivery.peer (.unknownPacket leading delivery.datagram.length)]) ∧
    ((∀ server mtu guid,
        Message.decodeInbound delivery.datagram ≠ .ok (.openConnectionRequest2 server mtu guid)) →
      ∃ events, next = ({ l with backlog := deliveries } : Listener).recordAll
        (.handled delivery.peer delivery.datagram none :: events)) := by
  obtain ⟨-, -, rfl⟩ := handle_of_move? backlog enabled
  let waiting : Listener := { l with backlog := deliveries }
  have free : waiting.sessionOf? delivery.peer = none := unregistered
  refine ⟨?_, ?_, ?_, ?_, ?_, ?_⟩
  · have reaction : ∃ events, Reacts waiting delivery.peer delivery.datagram events ∧
        (waiting.handle delivery.peer delivery.datagram).events =
          l.events ++ .handled delivery.peer delivery.datagram none :: events := by
      by_cases request2 : ∃ server mtu guid, Message.decodeInbound delivery.datagram =
          .ok (.openConnectionRequest2 server mtu guid)
      · rcases request2 with ⟨server, mtu, guid, decoded⟩
        exact exists_reaction_request2 free decoded
      · have other : ∀ server mtu guid, Message.decodeInbound delivery.datagram ≠
            .ok (.openConnectionRequest2 server mtu guid) :=
          fun server mtu guid decoded => request2 ⟨server, mtu, guid, decoded⟩
        rcases exists_reaction free other with ⟨events, reacts, handled⟩
        exact ⟨events, reacts, by rw [handled]; exact events_recordAll waiting _⟩
    rcases reaction with ⟨events, reacts, told⟩
    rcases reacts.at_most_one with ⟨reply, error, sent, reported, both⟩
    exact ⟨events, reply, error, told, sent, reported, both⟩
  · intro leading body datagram marked
    rw [datagram]
    exact handle_of_marked body marked free
  · intro nothing
    rw [nothing]
    exact handle_of_refused rfl nofun free
  · intro leading body e datagram listed refused
    have fault : e.OfField := by
      rcases Layout.exists_inbound?_iff.mpr listed with ⟨layout, inbound⟩
      rw [datagram] at refused
      exact Message.ofField_of_decodeInbound inbound refused
    have known : ∀ id, e ≠ .unknownPacket id := by
      rintro id rfl
      cases fault
    refine ⟨handle_of_refused refused known free, known, ?_⟩
    rintro expected found rfl
    cases fault
  · intro leading body datagram unmarked unlisted
    rw [datagram]
    exact handle_of_unknown body (UInt8.not_le.mpr unmarked) unlisted free
  · intro other
    rcases exists_reaction free other with ⟨events, -, handled⟩
    exact ⟨events, handled⟩

/-- A datagram that ends in the middle of the magic is reported with what is missing. -/
theorem offline_answered_or_reported_of_truncated :
    ∃ l next, (start .plain).follow [.command (.deliver (.v4 0x7F000001 4000) [5, 0, 0xff])] =
        some l ∧
      l.move? .handle = some next ∧
      next.events = [.handled (.v4 0x7F000001 4000) [5, 0, 0xff] none,
        .reported (.v4 0x7F000001 4000) (.decode (.truncated "magic" 16 2))] := by
  have followed : (start .plain).follow
    [.command (.deliver (.v4 0x7F000001 4000) [5, 0, 0xff])] = some _ := rfl
  have enabled : ((start .plain).issue (.deliver (.v4 0x7F000001 4000) [5, 0, 0xff])).move?
    .handle = some _ := rfl
  obtain ⟨-, -, -, refused, -⟩ := offline_answered_or_reported rfl rfl enabled
  refine ⟨_, _, followed, enabled, ?_⟩
  rw [(refused 5 [0, 0xff] (.truncated "magic" 16 2) rfl (by decide) rfl).1]
  rfl

end Listener

end Anteroom
