import Anteroom.Proofs.Offline
import Anteroom.Proofs.RoundTrip

/-!
# The two steps of a handshake

The first connection request is answered with the MTU that it has measured, and
leaves nothing behind.  The second one is answered and leaves a session, which
is in the table and in line for an accept call before anything else happens.
-/

namespace Anteroom.Listener

/-- A datagram that is no longer than what is read arrives whole. -/
theorem backlog_deliver_of_le (l : Listener) (peer : Address) {datagram : Bytes}
    (short : datagram.length ≤ 1500) :
    (l.issue (.deliver peer datagram)).backlog = l.backlog ++ [⟨peer, datagram⟩] := by
  have whole : datagram.received = datagram := List.take_of_length_le short
  rw [issue, arrive, whole]

/-! ## The first step -/

/-- Along every schedule, what comes of a first connection request that the read loop takes from a
peer without a session.  If it asks for the listener's protocol version, it is answered with the
MTU that it has measured, and no datagram that fits this MTU is cut when it arrives.  If it asks for
another version, it is answered with the listener's, and reported.  Nothing changes but the history,
and a reply that cannot be sent is reported instead. -/
theorem first_request_answered {setup : Setup} {steps : List Step} {l next : Listener}
    {delivery : Delivery} {deliveries : List Delivery} {version : UInt8} {mtu : UInt16}
    (followed : (start setup).follow steps = some l) (backlog : l.backlog = delivery :: deliveries)
    (unregistered : l.sessionOf? delivery.peer = none)
    (decoded : Message.decodeInbound delivery.datagram = .ok (.openConnectionRequest1 version mtu))
    (enabled : l.move? .handle = some next) :
    (18 ≤ delivery.datagram.length ∧ delivery.datagram.length ≤ 1500 ∧
      mtu.toNat = delivery.datagram.length + 28) ∧
    (version = setup.protocolVersion → ∃ reply,
      next = ({ l with backlog := deliveries } : Listener).recordAll
        [.handled delivery.peer delivery.datagram none,
          if setup.link.reaches delivery.peer then .sent delivery.peer reply none
          else .reported delivery.peer (.send "open connection reply 1" Link.fault)] ∧
      Layout.decode .openConnectionReply1 reply =
        .ok (.openConnectionReply1 setup.id false mtu)) ∧
    (version ≠ setup.protocolVersion → ∃ reply,
      next = ({ l with backlog := deliveries } : Listener).recordAll
        (.handled delivery.peer delivery.datagram none ::
          if setup.link.reaches delivery.peer then
            [.sent delivery.peer reply none,
              .reported delivery.peer (.incompatibleProtocol version setup.protocolVersion)]
          else [.reported delivery.peer (.send "incompatible protocol version" Link.fault)]) ∧
      Layout.decode .incompatibleProtocolVersion reply =
        .ok (.incompatibleProtocolVersion setup.protocolVersion setup.id) ∧
      (DispatchError.incompatibleProtocol version setup.protocolVersion).isRejection = true) ∧
    ∀ (later : Listener) peer datagram, datagram.length + 28 ≤ mtu.toNat →
      (later.issue (.deliver peer datagram)).backlog = later.backlog ++ [⟨peer, datagram⟩] := by
  have same : l.setup = setup := setup_follow followed
  have cut : delivery.datagram.length ≤ 1500 :=
    length_le_of_mem_backlog followed (backlog ▸ List.mem_cons_self)
  rcases Message.mtu_of_decodeInbound decoded with ⟨long, measured⟩
  have size : mtu.toNat = delivery.datagram.length + 28 := by
    rw [measured, Mtu.toNat_ofSize]
    omega
  obtain ⟨-, -, rfl⟩ := handle_of_move? backlog enabled
  let waiting : Listener := { l with backlog := deliveries }
  have free : waiting.sessionOf? delivery.peer = none := unregistered
  refine ⟨⟨long, cut, size⟩, ?_, ?_, ?_⟩
  · intro own
    rw [← same] at own ⊢
    rw [own] at decoded
    refine ⟨l.reply1 mtu, handle_request1 free decoded, ?_⟩
    exact Message.decode_encode (.openConnectionReply1 _ _ _) nofun
  · intro foreign
    rw [← same] at foreign ⊢
    refine ⟨l.incompatible, handle_foreign free decoded foreign, ?_, rfl⟩
    exact Message.decode_encode (.incompatibleProtocolVersion _ _) nofun
  · intro later peer datagram fits
    apply backlog_deliver_of_le later peer
    omega

/-- A first connection request of 18 bytes asks for version 9, which is not the listener's. -/
theorem first_request_answered_of_foreign :
    ∃ l next reply, (start .plain).follow
        [.command (.deliver (.v4 0x7F000001 4000) (5 :: (magic ++ [9])))] = some l ∧
      l.move? .handle = some next ∧
      next.events = [.handled (.v4 0x7F000001 4000) (5 :: (magic ++ [9])) none,
        .sent (.v4 0x7F000001 4000) reply none,
        .reported (.v4 0x7F000001 4000) (.incompatibleProtocol 9 10)] ∧
      Layout.decode .incompatibleProtocolVersion reply =
        .ok (.incompatibleProtocolVersion 10 7) := by
  have followed : (start .plain).follow
    [.command (.deliver (.v4 0x7F000001 4000) (5 :: (magic ++ [9])))] = some _ := rfl
  have enabled : ((start .plain).issue
    (.deliver (.v4 0x7F000001 4000) (5 :: (magic ++ [9])))).move? .handle = some _ := rfl
  have decoded : Message.decodeInbound (5 :: (magic ++ [9])) =
    .ok (.openConnectionRequest1 9 46) := rfl
  obtain ⟨-, -, rejected, -⟩ := first_request_answered followed rfl rfl decoded enabled
  rcases rejected (by decide) with ⟨reply, same, replied, -⟩
  refine ⟨_, _, reply, followed, enabled, ?_, replied⟩
  rw [same]
  rfl

/-! ## The second step -/

/-- A new session has come to the registry, to the table and to the end of the line. -/
structure Enrolled (l next : Listener) (session : Session) : Prop where
  created : next.created = l.created + 1
  sessions : ∀ number, next.registry.session? number =
    if number = l.created then some session else l.registry.session? number
  table : ∀ address, next.sessionOf? address =
    if address = session.address then some l.created else l.sessionOf? address
  line : next.line = l.line ++ [l.created]

theorem enrolled_offer {l : Listener} (reading : l.loop = .reading) (session : Session)
    (events : List Event) :
    Enrolled l (((l.enroll session).recordAll events).offer l.created) session where
  created := (created_offer _ _).trans (created_enroll l session)
  sessions number := by
    rw [registry_offer]
    exact session?_enroll l session number
  table address := by
    rw [sessionOf?, registry_offer]
    exact sessionOf?_enroll l session address
  line := line_offer (l := (l.enroll session).recordAll events) reading l.created

/-- A peer without a session that can be reached gets one, unless its creation is planned to fail. -/
theorem enrolled_of_move? {l next : Listener} {delivery : Delivery} {deliveries : List Delivery}
    {server : Address} {mtu : UInt16} {guid : Int64} (backlog : l.backlog = delivery :: deliveries)
    (unregistered : l.sessionOf? delivery.peer = none)
    (decoded : Message.decodeInbound delivery.datagram =
      .ok (.openConnectionRequest2 server mtu guid))
    (enabled : l.move? .handle = some next)
    (reached : l.setup.link.reaches delivery.peer = true)
    (possible : l.setup.plan l.created ≠ .fails) :
    ∃ session,
      next.events = l.events ++ [.handled delivery.peer delivery.datagram none,
        .sent delivery.peer (l.reply2 delivery.peer mtu) none, .created l.created] ∧
      session.address = delivery.peer ∧ session.mtu = mtu ∧ session.guid = guid ∧
      Enrolled l next session := by
  obtain ⟨-, reading, handled⟩ := handle_of_move? backlog enabled
  let waiting : Listener := { l with backlog := deliveries }
  have free : waiting.sessionOf? delivery.peer = none := unregistered
  cases planned : (l.setup.plan l.created).session? delivery.peer mtu guid with
  | none => exact absurd (Plan.eq_fails planned) possible
  | some session =>
      rcases Plan.fresh_of_session? planned with ⟨address, agreed, client, -⟩
      have created : next = ((waiting.enroll session).recordAll
          [.handled delivery.peer delivery.datagram none,
            .sent delivery.peer (l.reply2 delivery.peer mtu) none,
            .created l.created]).offer l.created :=
        handled.trans (handle_request2_of_planned (l := waiting) free decoded reached planned)
      refine ⟨session, ?_, address, agreed, client, ?_⟩
      · rw [created, events_offer, events_recordAll]
        rfl
      · have enrolled := enrolled_offer (l := waiting) reading session
          [.handled delivery.peer delivery.datagram none,
            .sent delivery.peer (l.reply2 delivery.peer mtu) none, .created l.created]
        rw [created]
        exact ⟨enrolled.created, enrolled.sessions, enrolled.table, enrolled.line⟩

/-- Of a second connection request, the history shows the datagram itself.  All else that comes of
it depends on the MTU and on the client's id alone. -/
theorem exists_handle_request2 {l : Listener} {peer : Address} (mtu : UInt16) (guid : Int64)
    (unregistered : l.sessionOf? peer = none) :
    ∃ (base : Listener) (events : List Event), ∀ server datagram,
      Message.decodeInbound datagram = .ok (.openConnectionRequest2 server mtu guid) →
        l.handle peer datagram = base.recordAll (.handled peer datagram none :: events) := by
  by_cases reached : l.setup.link.reaches peer = true
  · cases planned : (l.setup.plan l.created).session? peer mtu guid with
    | some session =>
        refine ⟨(l.enroll session).offer l.created,
          [.sent peer (l.reply2 peer mtu) none, .created l.created], ?_⟩
        intro server datagram decoded
        rw [handle_request2_of_planned unregistered decoded reached planned]
        exact offer_recordAll (l.enroll session) _ l.created
    | none =>
        refine ⟨{ l with loop := .failed }, [.sent peer (l.reply2 peer mtu) none], ?_⟩
        intro server datagram decoded
        rw [handle_request2 unregistered decoded, if_pos reached, planned]
  · refine ⟨l, [.reported peer (.send "open connection reply 2" Link.fault)], ?_⟩
    intro server datagram decoded
    rw [handle_request2 unregistered decoded, if_neg reached]

/-- A session that has come to the line is in one place ever after, and in line once. -/
theorem Enrolled.once {setup : Setup} {steps : List Step} {l next : Listener} {session : Session}
    (enrolled : Enrolled l next session) (followed : (start setup).follow steps = some next)
    {later : List Step} {last : Listener} (goes : next.follow later = some last) :
    last.placed.count l.created = 1 ∧
      (l.created ∉ last.line → ∀ further final, last.follow further = some final →
        l.created ∉ final.line) := by
  have known : l.created < last.created := by
    apply Nat.lt_of_lt_of_le _ (created_le_follow goes)
    rw [enrolled.created]
    exact Nat.lt_succ_self _
  have tracked : last.Tracked :=
    tracked_follow (follow_append_eq_some_iff.mpr ⟨next, followed, goes⟩)
  refine ⟨tracked.placed.count_eq_one known, ?_⟩
  intro out further final continues
  exact follow_not_mem_line continues known out

/-- A datagram of a peer with a session is neither answered nor does it create a session. -/
theorem move?_handle_of_registered {l next : Listener} (sound : l.registry.Sound)
    {delivery : Delivery} {deliveries : List Delivery} {number : Nat}
    (backlog : l.backlog = delivery :: deliveries)
    (registered : l.sessionOf? delivery.peer = some number)
    (enabled : l.move? .handle = some next) :
    next.created = l.created ∧ next.registry.table = l.registry.table ∧
      ∃ errors : List DispatchError, next.events = l.events ++
        .handled delivery.peer delivery.datagram (some number) ::
          errors.map (.reported delivery.peer) := by
  obtain ⟨-, -, rfl⟩ := handle_of_move? backlog enabled
  rcases (handled_handle { l with backlog := deliveries } _ _).of_registered sound registered with
    ⟨session, -, -, forwarded⟩
  rw [forwarded]
  refine ⟨Registry.length_modify .., rfl,
    (session.receive delivery.datagram).2.toList.map .session, ?_⟩
  rw [forwardTo, events_recordAll, List.map_map]
  rfl

/-- A session is created only if none is registered for its address. -/
theorem Went.free_of_created {l next : Listener} {step : Step} (went : Went l step next)
    (more : next.created ≠ l.created) :
    ∃ session, next.registry.session? l.created = some session ∧
      l.sessionOf? session.address = none := by
  rcases went.became.created_or with same | ⟨_, session, free, enrolled⟩
  · exact absurd same more
  · refine ⟨session, ?_, free⟩
    rw [enrolled]
    change (Registry.register _ _).1.session? l.registry.sessions.length = _
    rw [Registry.session?_register, Registry.session?_add, if_pos rfl]

/-- Along every schedule, what comes of a second connection request that the read loop takes from a
peer without a session.  It is answered, and a session with the address of the peer and with what it
has asked for comes to the registry, to the table and once to the line, unless the reply cannot be
sent or the creation of the session fails.  The address of the server in it and the bytes behind it
do not matter.  While a session is registered, a datagram of its peer is not answered and creates no
session, whatever it is; and a session is created only when none is registered for its address, so
no two sessions with one address are ever registered. -/
theorem second_request_enrolls {setup : Setup} {steps : List Step} {l next : Listener}
    {delivery : Delivery} {deliveries : List Delivery} {server : Address} {mtu : UInt16}
    {guid : Int64} (followed : (start setup).follow steps = some l)
    (backlog : l.backlog = delivery :: deliveries)
    (unregistered : l.sessionOf? delivery.peer = none)
    (decoded : Message.decodeInbound delivery.datagram =
      .ok (.openConnectionRequest2 server mtu guid))
    (enabled : l.move? .handle = some next) :
    (setup.link.reaches delivery.peer = true → setup.plan l.created ≠ .fails →
      ∃ reply session,
        next.events = l.events ++ [.handled delivery.peer delivery.datagram none,
          .sent delivery.peer reply none, .created l.created] ∧
        Layout.decode .openConnectionReply2 reply =
          .ok (.openConnectionReply2 setup.id delivery.peer mtu false) ∧
        session.address = delivery.peer ∧ session.mtu = mtu ∧ session.guid = guid ∧
        Enrolled l next session ∧
        ∀ later last, next.follow later = some last →
          last.placed.count l.created = 1 ∧
          (l.created ∉ last.line → ∀ further final, last.follow further = some final →
            l.created ∉ final.line)) ∧
    (setup.link.reaches delivery.peer = false →
      next = ({ l with backlog := deliveries } : Listener).recordAll
        [.handled delivery.peer delivery.datagram none,
          .reported delivery.peer (.send "open connection reply 2" Link.fault)]) ∧
    (∃ (base : Listener) (events : List Event), ∀ other copy,
      Message.decodeInbound copy = .ok (.openConnectionRequest2 other mtu guid) →
        ({ l with backlog := ⟨delivery.peer, copy⟩ :: deliveries } : Listener).move? .handle =
          some (base.recordAll (.handled delivery.peer copy none :: events))) ∧
    (∀ rest, Message.decodeInbound ((delivery.datagram ++ rest).take 1500) =
      .ok (.openConnectionRequest2 server mtu guid)) ∧
    ∀ others last, (start setup).follow others = some last →
      (∀ delivery deliveries number after, last.backlog = delivery :: deliveries →
        last.sessionOf? delivery.peer = some number → last.move? .handle = some after →
        after.created = last.created ∧ after.registry.table = last.registry.table ∧
        ∃ errors : List DispatchError, after.events = last.events ++
          .handled delivery.peer delivery.datagram (some number) ::
            errors.map (.reported delivery.peer)) ∧
      (∀ step after, last.after? step = some after → after.created ≠ last.created →
        ∃ session, after.registry.session? last.created = some session ∧
          last.sessionOf? session.address = none) ∧
      ∀ number other session rival, number ∈ last.registry.table.numbers →
        other ∈ last.registry.table.numbers → last.registry.session? number = some session →
        last.registry.session? other = some rival → session.address = rival.address →
        number = other := by
  have same : l.setup = setup := setup_follow followed
  have short : delivery.datagram.length ≤ 1500 :=
    length_le_of_mem_backlog followed (backlog ▸ List.mem_cons_self)
  obtain ⟨running, reading, handled⟩ := handle_of_move? backlog enabled
  let waiting : Listener := { l with backlog := deliveries }
  have free : waiting.sessionOf? delivery.peer = none := unregistered
  refine ⟨?_, ?_, ?_, ?_, ?_⟩
  · intro reached planned
    rw [← same] at reached planned
    rcases enrolled_of_move? backlog unregistered decoded enabled reached planned with
      ⟨session, told, address, agreed, client, enrolled⟩
    have goesOn : (start setup).follow (steps ++ [.move .handle]) = some next :=
      follow_append_eq_some_iff.mpr
        ⟨l, followed, follow_cons_eq_some_iff.mpr ⟨next, enabled, rfl⟩⟩
    refine ⟨l.reply2 delivery.peer mtu, session, told, ?_, address, agreed, client, enrolled,
      fun _ _ => enrolled.once goesOn⟩
    rw [← same]
    exact Message.decode_encode (.openConnectionReply2 _ _ _ _) nofun
  · intro unreached
    rw [← same] at unreached
    have cut : ¬ l.setup.link.reaches delivery.peer = true := Bool.eq_false_iff.mp unreached
    rw [handled, handle_request2 free decoded]
    exact if_neg cut
  · rcases exists_handle_request2 mtu guid free with ⟨base, events, goes⟩
    refine ⟨base, events, ?_⟩
    intro other copy again
    have moved := (Moved.handled (l := { l with backlog := ⟨delivery.peer, copy⟩ :: deliveries })
      rfl running reading).enabled
    rw [moved]
    exact congrArg some (goes other copy again)
  · exact Message.decodeInbound_received_append decoded nofun short
  · intro others last reached
    have sound := sound_follow reached
    refine ⟨?_, ?_, ?_⟩
    · intro delivery deliveries number after backlog registered enabled
      exact move?_handle_of_registered sound backlog registered enabled
    · intro step after goes more
      exact (went_of_after? goes).free_of_created more
    · intro number other session rival registered also found known same
      exact sound.number_unique registered also found known same

/-- The second request of a client that also gives an address of the server that is not its own,
with a byte behind it, ends in a session that is queued. -/
theorem second_request_enrolls_of_client :
    ∃ l next reply session, (start .plain).follow [.command (.deliver (.v4 0x7F000001 4000)
        ((Message.openConnectionRequest2 (.v4 0 0) 1400 9).encode ++ [0xff]))] = some l ∧
      l.move? .handle = some next ∧
      next.events = [.handled (.v4 0x7F000001 4000)
          ((Message.openConnectionRequest2 (.v4 0 0) 1400 9).encode ++ [0xff]) none,
        .sent (.v4 0x7F000001 4000) reply none, .created 0] ∧
      Layout.decode .openConnectionReply2 reply =
        .ok (.openConnectionReply2 7 (.v4 0x7F000001 4000) 1400 false) ∧
      session.address = .v4 0x7F000001 4000 ∧ session.mtu = 1400 ∧ session.guid = 9 ∧
      next.registry.session? 0 = some session ∧
      next.sessionOf? (.v4 0x7F000001 4000) = some 0 ∧ next.line = [0] := by
  have followed : (start .plain).follow [.command (.deliver (.v4 0x7F000001 4000)
    ((Message.openConnectionRequest2 (.v4 0 0) 1400 9).encode ++ [0xff]))] = some _ := rfl
  have enabled : ((start .plain).issue (.deliver (.v4 0x7F000001 4000)
    ((Message.openConnectionRequest2 (.v4 0 0) 1400 9).encode ++ [0xff]))).move? .handle =
      some _ := rfl
  have decoded : Message.decodeInbound
    ((Message.openConnectionRequest2 (.v4 0 0) 1400 9).encode ++ [0xff]) =
      .ok (.openConnectionRequest2 (.v4 0 0) 1400 9) := rfl
  obtain ⟨negotiated, -⟩ := second_request_enrolls followed rfl rfl decoded enabled
  rcases negotiated rfl nofun with
    ⟨reply, session, told, replied, address, agreed, client, enrolled, -⟩
  refine ⟨_, _, reply, session, followed, enabled, told, replied, address, agreed, client,
    enrolled.sessions 0, ?_, enrolled.line⟩
  rw [enrolled.table, address]
  rfl

end Anteroom.Listener
