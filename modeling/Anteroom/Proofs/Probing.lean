import Anteroom.Proofs.Pongs

/-!
# What a probe gains from a listener

A probe reads no more than the first 1500 bytes of the answer to its ping, and
the header of a pong takes 33 of them.  So the two agree on payloads of up to
1467 bytes, or 1465 where the length of the payload stands in front of it.  The
board takes payloads of up to 32767 bytes: of a longer one a probe gains the
first 1467 bytes, or nothing where the length announces more than it has read.
-/

namespace Anteroom

/-- The default configuration but for the protocol version, with raw sessions only. -/
def Setup.unframed : Setup :=
  .ofConfig 7 { protocolVersion := 11 } Link.routed fun _ => .raw

namespace PongFraming

/-- The longest payload that a probe reads to its end. -/
def room : PongFraming → Nat
  | lengthPrefixed => 1465
  | raw => 1467

/-- What a probe gains from the pong with a payload. -/
def gained (framing : PongFraming) (payload : Bytes) : Except DecodeError Bytes :=
  match framing with
  | lengthPrefixed =>
      if payload.length ≤ room lengthPrefixed then .ok payload
      else .error (.truncated "pong payload" payload.length (room lengthPrefixed))
  | raw => .ok (payload.take (room raw))

theorem gained_eq_ok_iff {framing : PongFraming} {payload : Bytes} :
    framing.gained payload = .ok payload ↔ payload.length ≤ framing.room := by
  cases framing with
  | lengthPrefixed =>
      rw [gained]
      split <;> simp_all
  | raw =>
      rw [gained, Except.ok.injEq]
      constructor
      · intro whole
        rw [← whole, List.length_take]
        exact Nat.min_le_left _ _
      · exact List.take_of_length_le

/-- The part of a pong's payload that is read. -/
theorem value_read_take (framing : PongFraming) {payload : Bytes}
    (fits : payload.length ≤ 32767) :
    framing.read.value ((framing.encode payload).take 1467) = framing.gained payload := by
  cases framing with
  | raw => exact value_read_raw _
  | lengthPrefixed =>
      have cut : (lengthPrefixed.encode payload).take 1467 =
          Bytes.ofNat 2 payload.length ++ payload.take 1465 := by
        rw [encode, List.take_append, Bytes.length_ofNat,
          List.take_of_length_le (by rw [Bytes.length_ofNat]; decide)]
      rw [cut, value_read_lengthPrefixed (by omega), gained, List.length_take, room]
      by_cases short : payload.length ≤ 1465
      · rw [if_pos short, if_pos (by omega), List.take_take, Nat.min_eq_left short,
          List.take_length]
      · rw [if_neg short, if_neg (by omega), Nat.min_eq_left (by omega)]

/-- What a probe makes of a pong, of which it reads the first 1500 bytes. -/
theorem judge_encode (framing : PongFraming) {pong : Pong} (fits : pong.payload.length ≤ 32767) :
    framing.judge (Pong.encode framing pong) = some (framing.gained pong.payload) := by
  have cut : (Pong.encode framing pong).received =
      Pong.header pong.sendTimestamp pong.serverGuid ++
        (framing.encode pong.payload).take 1467 := by
    rw [Bytes.received, Pong.encode_eq_header_append, List.take_append, Pong.length_header,
      List.take_of_length_le (by rw [Pong.length_header]; decide)]
    rfl
  rw [judge, cut, Pong.decode_header_append, framing.value_read_take fits]
  cases framing with
  | raw => rfl
  | lengthPrefixed =>
      by_cases short : pong.payload.length ≤ room lengthPrefixed
      · rw [gained, if_pos short]
        rfl
      · rw [gained, if_neg short]
        rfl

end PongFraming

namespace Probe

/-- A probe that is decided stays so. -/
theorem hearAll_of_decided {probe : Probe} {outcome : Except PingError Bytes}
    (decided : probe.outcome = some outcome) (datagrams : List Bytes) :
    probe.hearAll datagrams = probe := by
  induction datagrams with
  | nil => rfl
  | cons datagram datagrams ih =>
      have same : probe.hear datagram = probe := by rw [hear, decided]
      rw [hearAll, List.foldl_cons, same]
      exact ih

theorem wake_of_decided {probe : Probe} {outcome : Except PingError Bytes}
    (decided : probe.outcome = some outcome) (now : Nat) : probe.wake now = probe := by
  rw [wake, decided]

/-- The first datagram that is no other message, if it comes in time, decides a probe. -/
theorem outcome_of_judge {link : Link} {started time : Nat} {target : Address} {version : UInt8}
    {limit : Span} {datagram : Bytes} {verdict : Except DecodeError Bytes}
    (reached : link.reaches target = true) (inTime : time < started + limit.nanos)
    (judged : (PongFraming.ofProtocol version).judge datagram = some verdict)
    (more : List Bytes) (later : Nat) :
    (((((Probe.start link started target version limit).wake time).hear datagram).hearAll
      more).wake later).outcome = some (verdict.mapError .malformed) := by
  have waits : (Probe.start link started target version limit).outcome = none := if_pos reached
  have still : (Probe.start link started target version limit).wake time =
      Probe.start link started target version limit := by
    rw [wake, waits]
    exact if_neg (Nat.not_le.mpr inTime)
  have decided : ((Probe.start link started target version limit).hear datagram).outcome =
      some (verdict.mapError .malformed) := by
    rw [hear, waits]
    exact congrArg (Option.map _) judged
  rw [still, hearAll_of_decided decided, wake_of_decided decided, decided]

end Probe

namespace Listener

/-- What a probe makes of the answer to its ping. -/
theorem judge_pong (l : Listener) (sendTimestamp : Int64) :
    l.setup.config.framing.judge (l.pong sendTimestamp) =
      some (l.setup.config.framing.gained l.board.payload) :=
  PongFraming.judge_encode _ l.board.length_le

theorem decodeInbound_request (sendTimestamp clientGuid : Int64) :
    Message.decodeInbound (Probe.request sendTimestamp clientGuid) =
      .ok (.unconnectedPing sendTimestamp clientGuid) :=
  Message.decodeInbound_eq_ping_iff.mpr
    ⟨1, [], .inl rfl, congrArg (List.cons 1) (List.append_nil _).symm⟩

theorem received_request (sendTimestamp clientGuid : Int64) :
    (Probe.request sendTimestamp clientGuid).received = Probe.request sendTimestamp clientGuid := by
  apply List.take_of_length_le
  simp [Probe.request, Message.encode, Message.body, Bytes.ofInt64, Bytes.ofUInt64, magic,
    maxDatagramSize]

/-- The answer of a listener that has just started and whose payload has been set. -/
theorem exists_answer (setup : Setup) {payload : Bytes} (fits : payload.length ≤ 32767)
    {peer : Address} (reached : setup.link.reaches peer = true)
    (sendTimestamp clientGuid : Int64) :
    ∃ l next, (start setup).follow [.command (.setPong payload),
        .command (.deliver peer (Probe.request sendTimestamp clientGuid))] = some l ∧
      l.setup = setup ∧ l.board.payload = payload ∧ l.move? .handle = some next ∧
      next.events = [.written none payload,
        .handled peer (Probe.request sendTimestamp clientGuid) none,
        .sent peer (l.pong sendTimestamp) none] := by
  have issued : (start setup).issue (.setPong payload) =
      ({ start setup with board := ⟨payload, 1, fits⟩ } : Listener).record
        (.written none payload) := by
    rw [issue, setPong_of_fits _ fits]
    rfl
  have arrived (l : Listener) : l.issue (.deliver peer (Probe.request sendTimestamp clientGuid)) =
      { l with backlog := l.backlog ++
        [{ peer, datagram := Probe.request sendTimestamp clientGuid }] } := by
    rw [issue, arrive, received_request]
  have enabled := (Moved.handled (l := ({ start setup with
    board := ⟨payload, 1, fits⟩
    backlog := [{ peer, datagram := Probe.request sendTimestamp clientGuid }]
    } : Listener).record (.written none payload)) rfl rfl rfl).enabled
  refine ⟨_, _, ?_, rfl, rfl, enabled, ?_⟩
  · rw [follow, after?, issued]
    simp only [follow, after?, arrived]
    rfl
  · rw [handle_ping rfl (decodeInbound_request sendTimestamp clientGuid), events_recordAll]
    exact congrArg (fun answer => [_, _, answer]) (if_pos reached)

/-- Along every schedule, what a probe gains from a listener of its own protocol version that is
sent its ping, and whose answer is the first datagram that comes back to it in time: the payload
that the board shows, as far as the 1500 bytes go that the probe reads of the answer. -/
theorem probe_gains {setup : Setup} {steps : List Step} {l next : Listener} {delivery : Delivery}
    {deliveries : List Delivery} {sendTimestamp clientGuid : Int64}
    (followed : (start setup).follow steps = some l) (backlog : l.backlog = delivery :: deliveries)
    (unregistered : l.sessionOf? delivery.peer = none)
    (asked : delivery.datagram = Probe.request sendTimestamp clientGuid)
    (answerable : setup.link.reaches delivery.peer = true)
    (enabled : l.move? .handle = some next) :
    ∃ reply,
      next = ({ l with backlog := deliveries } : Listener).recordAll
        [.handled delivery.peer delivery.datagram none, .sent delivery.peer reply none] ∧
      (∀ link started time target limit more later, link.reaches target = true →
        time < started + limit.nanos →
          (((((Probe.start link started target setup.protocolVersion limit).wake time).hear
            reply).hearAll more).wake later).outcome =
              some ((setup.config.framing.gained l.board.payload).mapError .malformed)) ∧
      (setup.config.framing.gained l.board.payload = .ok l.board.payload ↔
        l.board.payload.length ≤ setup.config.framing.room) := by
  have same : l.setup = setup := setup_follow followed
  have decoded : Message.decodeInbound delivery.datagram =
      .ok (.unconnectedPing sendTimestamp clientGuid) := by
    rw [asked, decodeInbound_request]
  refine ⟨l.pong sendTimestamp, ?_, ?_, PongFraming.gained_eq_ok_iff⟩
  · cases moved_of_move? enabled with
    | handled again =>
        rw [backlog] at again
        cases again
        have reached : l.setup.link.reaches delivery.peer = true := same ▸ answerable
        refine (handle_ping (l := { l with backlog := deliveries }) unregistered decoded).trans ?_
        rw [if_pos reached]
        rfl
  · intro link started time target limit more later reached inTime
    refine Probe.outcome_of_judge reached inTime ?_ more later
    rw [← same]
    exact l.judge_pong sendTimestamp

/-- A payload of one byte is gained as it is. -/
theorem probe_gains_of_byte :
    ∃ l next reply, (start .plain).follow [.command (.setPong [0x61]),
        .command (.deliver (.v4 0x7F000001 4000) (Probe.request 5 9))] = some l ∧
      l.move? .handle = some next ∧
      next.events = [.written none [0x61],
        .handled (.v4 0x7F000001 4000) (Probe.request 5 9) none,
        .sent (.v4 0x7F000001 4000) reply none] ∧
      ((((Probe.start Link.routed 0 (.v4 0x7F000001 19132) 10 (Span.ofSeconds 1)).wake 5).hear
        reply).wake 2000000000).outcome = some (.ok [0x61]) := by
  have followed : (start .plain).follow [.command (.setPong [0x61]),
      .command (.deliver (.v4 0x7F000001 4000) (Probe.request 5 9))] = some _ := rfl
  obtain ⟨reply, same, gains, _⟩ := probe_gains followed rfl rfl rfl rfl rfl
  refine ⟨_, _, reply, followed, rfl, ?_, ?_⟩
  · rw [same]
    rfl
  · exact gains Link.routed 0 5 (.v4 0x7F000001 19132) (Span.ofSeconds 1) [] 2000000000 rfl
      (by decide)

/-- The listener takes a payload of 1468 bytes, and a probe gains the first 1467 of them as if they
were all. -/
theorem long_payload_cut :
    ∃ l next reply, (start .unframed).follow [.command (.setPong (List.replicate 1468 0x61)),
        .command (.deliver (.v4 0x7F000001 4000) (Probe.request 5 9))] = some l ∧
      l.board.payload = List.replicate 1468 0x61 ∧ l.move? .handle = some next ∧
      next.events = [.written none (List.replicate 1468 0x61),
        .handled (.v4 0x7F000001 4000) (Probe.request 5 9) none,
        .sent (.v4 0x7F000001 4000) reply none] ∧
      ((((Probe.start Link.routed 0 (.v4 0x7F000001 19132) 11 (Span.ofSeconds 1)).wake 5).hear
        reply).wake 2000000000).outcome = some (.ok (List.replicate 1467 0x61)) := by
  have fits : (List.replicate 1468 (0x61 : UInt8)).length ≤ 32767 := by
    rw [List.length_replicate]
    decide
  have reached : Setup.unframed.link.reaches (.v4 0x7F000001 4000) = true := rfl
  rcases exists_answer .unframed fits reached 5 9 with
    ⟨l, next, followed, same, shows, enabled, told⟩
  have judged := l.judge_pong 5
  rw [shows, same] at judged
  refine ⟨l, next, l.pong 5, followed, shows, enabled, told, ?_⟩
  have inTime : 5 < 0 + (Span.ofSeconds 1).nanos := by decide
  have reaches : Link.routed.reaches (.v4 0x7F000001 19132) = true := rfl
  refine (Probe.outcome_of_judge reaches inTime judged [] 2000000000).trans ?_
  have cut : (List.replicate 1468 (0x61 : UInt8)).take 1467 = List.replicate 1467 0x61 := by
    rw [List.take_replicate]
    rfl
  exact congrArg (fun gained => some (Except.ok gained)) cut

end Listener

end Anteroom
