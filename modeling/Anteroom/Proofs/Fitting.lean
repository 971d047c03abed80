import Anteroom.Proofs.Skipping
import Anteroom.Proofs.Descriptors
import Anteroom.Proofs.Framing
import Anteroom.Proofs.Writers

/-!
# What hijacks write fits

A probe reads 1500 bytes of an answer at most, so what it learns is short, and a
relayed descriptor is at most 33 bytes longer than what was learned: eight
separators, the label, and an id of up to twenty characters.  That is far from
what the board refuses, so a probe that learns a payload always replaces the one
on the board.
-/

namespace Anteroom

/-! ## What a probe learns -/

namespace Pong

open Reader

/-- What stands where in a pong whose payload runs to its end. -/
theorem reads_read_raw (d : Bytes) :
    (read .raw).Reads d
      (d[0]? = some 0x1c ∧ 9 ≤ d.length ∧ 17 ≤ d.length ∧ d.extract 17 33 = magic ∧ True)
      { sendTimestamp := d.signed 1, serverGuid := d.signed 9, payload := d.drop 33 } [] :=
  (Layout.reads_readId _ d).bind <| (reads_int64 d 1).bind <| (reads_int64 d 9).bind <|
    (reads_magic d 17).bind <| (reads_rest (d.drop 33)).map _

/-- The payload of a pong is what the datagram holds behind the header, or less. -/
theorem length_payload_le {framing : PongFraming} {d : Bytes} {pong : Pong}
    (short : d.length ≤ 1500) (decoded : decode framing d = .ok pong) :
    pong.payload.length ≤ framing.room := by
  cases framing with
  | lengthPrefixed =>
      obtain ⟨⟨_, _, _, whole⟩, rfl⟩ := (reads_read d).value_eq_ok_iff.mp decoded
      have length : (d.extract 35 (35 + d.number 33 35)).length ≤ d.length - 35 := by
        rw [List.extract_eq_take_drop, List.length_take, List.length_drop]
        exact Nat.min_le_right _ _
      exact Nat.le_trans length (Nat.sub_le_sub_right short 35)
  | raw =>
      obtain ⟨_, rfl⟩ := (reads_read_raw d).value_eq_ok_iff.mp decoded
      have length : (d.drop 33).length = d.length - 33 := List.length_drop
      exact Nat.le_trans (Nat.le_of_eq length) (Nat.sub_le_sub_right short 33)

end Pong

namespace PongFraming

/-- The versions whose pongs carry the length of their payload leave two bytes less. -/
theorem room_ofProtocol {version : UInt8} (prefixed : version = 10) :
    (ofProtocol version).room = 1465 := by
  rw [prefixed]
  rfl

theorem room_le (framing : PongFraming) : framing.room ≤ 1467 := by
  cases framing <;> decide

/-- What is learned of an answer, of which the first 1500 bytes are read. -/
theorem length_le_of_judge {framing : PongFraming} {datagram payload : Bytes}
    (judged : framing.judge datagram = some (.ok payload)) : payload.length ≤ framing.room := by
  have short : datagram.received.length ≤ 1500 := List.length_take_le _ _
  rw [judge] at judged
  split at judged
  · rename_i pong decoded
    cases judged
    exact Pong.length_payload_le short decoded
  · cases judged
  · cases judged

end PongFraming

namespace Probe

/-- What a probe has learned is no longer than what it reads to its end. -/
structure Short (framing : PongFraming) (probe : Probe) : Prop where
  framed : probe.framing = framing
  learned : ∀ payload, probe.outcome = some (.ok payload) → payload.length ≤ framing.room

variable {framing : PongFraming} {probe : Probe}

theorem short_start (link : Link) (now : Nat) (target : Address) (version : UInt8) (limit : Span) :
    Short (.ofProtocol version) (start link now target version limit) := by
  refine ⟨rfl, ?_⟩
  intro payload learned
  simp only [start] at learned
  split at learned <;> cases learned

theorem Short.hear (short : probe.Short framing) (datagram : Bytes) :
    (probe.hear datagram).Short framing := by
  rw [Probe.hear]
  split
  · exact short
  · refine ⟨short.framed, ?_⟩
    intro payload learned
    obtain ⟨verdict, judged, gained⟩ := Option.map_eq_some_iff.mp learned
    cases verdict with
    | error e => cases gained
    | ok given =>
        cases gained
        exact short.framed ▸ PongFraming.length_le_of_judge judged

theorem Short.wake (short : probe.Short framing) (now : Nat) :
    (probe.wake now).Short framing := by
  rw [Probe.wake]
  split
  · exact short
  · split
    · refine ⟨short.framed, ?_⟩
      intro payload learned
      cases learned
    · exact short

theorem Short.attend (short : probe.Short framing) (arrivals : List (Nat × Bytes)) :
    (probe.attend arrivals).Short framing := by
  induction arrivals generalizing probe with
  | nil => exact short
  | cons arrival arrivals ih => exact ih ((short.wake arrival.1).hear arrival.2)

end Probe

/-- What a hijack learns is what its open probe does. -/
theorem Hijack.length_le_of_hear {hijack : Hijack} {framing : PongFraming} {serial : Nat}
    {datagram payload : Bytes} (gained : (hijack.hear framing serial datagram).2 = some payload) :
    payload.length ≤ framing.room := by
  obtain ⟨probe, pong, _, _, decoded, rfl⟩ := Hijack.pong_of_hear gained
  exact Pong.length_payload_le (List.length_take_le _ _) decoded

/-! ## What is relayed -/

namespace Descriptor

/-- Nineteen digits and a sign are enough for every id. -/
theorem length_idBytes_le (id : Int64) : (idBytes id).length ≤ 20 := by
  have below := id.toInt_lt
  have above := id.le_toInt
  have digits (n : Nat) (small : n ≤ 9223372036854775808) : (Decimal.digits n).length ≤ 19 := by
    rw [Decimal.digits_eq_toDigits]
    exact (Nat.length_toDigits_le_iff (by decide) (by decide)).mpr (by omega)
  rw [idBytes, List.length_map]
  cases same : id.toInt with
  | ofNat n =>
      rw [same, Int.ofNat_eq_natCast] at below
      exact Nat.le_succ_of_le (digits n (by omega))
  | negSucc n => exact Nat.succ_le_succ (digits (n + 1) (by omega))

/-- The fields that are kept are no longer than all fields together. -/
theorem length_flatten_firstFields_le (count : Nat) (given : List Bytes) :
    (firstFields count given).flatten.length ≤ given.flatten.length := by
  have whole := congrArg List.flatten (List.take_append_drop count
    (given ++ List.replicate count []))
  rw [List.flatten_append, List.flatten_append, List.flatten_replicate_nil, List.append_nil]
    at whole
  rw [firstFields, ← whole, List.length_append]
  exact Nat.le_add_right _ _

/-- Relaying a payload adds at most eight separators, the label and the id. -/
theorem length_relay_le (payload : Bytes) (id : Int64) :
    (relay payload id).length ≤ payload.length + 33 := by
  cases descriptor : isDescriptor payload with
  | false =>
      rw [relay_of_not_isDescriptor descriptor]
      exact Nat.le_add_right _ _
  | true =>
      have some_part :
          firstFields keptFields (fields payload) ++ [idBytes id, label, []] ≠ [] := by simp
      have six : (firstFields keptFields (fields payload)).length = 6 := by
        simp [firstFields, keptFields]
      have kept := length_flatten_firstFields_le keptFields (fields payload)
      have number := length_idBytes_le id
      have given : payload.length + 1 =
          (fields payload).flatten.length + (fields payload).length := by
        have joined := Fields.length_join separator (Fields.split_ne_nil separator payload)
        rwa [Fields.join_split] at joined
      have relayed := Fields.length_join separator some_part
      simp only [List.flatten_append, List.flatten_cons, List.flatten_nil, List.length_append,
        List.length_cons, List.length_nil, six] at relayed
      have labelled : label.length = 5 := rfl
      have some_field : 0 < (fields payload).length :=
        List.length_pos_iff.mpr (Fields.split_ne_nil separator payload)
      rw [relay, if_pos descriptor]
      omega

end Descriptor

/-! ## What is written -/

namespace Listener

/-- Settling leaves the board as it is. -/
theorem board_settle (l : Listener) : l.settle.board = l.board :=
  settle_induction (P := fun next => next.board = l.board)
    (fun same moved => moved.board.trans same) rfl

/-- What a hijack of a running listener learns is on the board afterwards, and counts as one
write. -/
theorem Manned.board_answerProbe {l : Listener} (manned : l.Manned) (running : l.shutdown = false)
    {hijack : Hijack} (member : hijack ∈ l.hijacks) {serial : Nat} {datagram payload : Bytes}
    (gained : (hijack.hear l.setup.config.framing serial datagram).2 = some payload)
    (fits : (Descriptor.relay payload l.setup.id).length ≤ 32767) :
    (l.answerProbe hijack.number serial datagram).board.payload =
        Descriptor.relay payload l.setup.id ∧
      (l.answerProbe hijack.number serial datagram).board.writes = l.board.writes + 1 := by
  obtain ⟨index, found⟩ := List.mem_iff_getElem?.mp member
  have hears : hijack.hear l.setup.config.framing serial datagram =
      ((hijack.hear l.setup.config.framing serial datagram).1, some payload) := by rw [← gained]
  rw [answerProbe, board_settle, manned.hear_eq running found hears]
  exact learn_of_fits _ _ fits

/-- Whatever datagrams come to a probe, and whenever they come, the payload it gains is at most 1467
bytes long, or 1465 where the length of the payload stands in front, and relaying a payload makes
it at most 33 bytes longer.  So along every schedule the board refuses nothing that a hijack has
learned, and as long as the listener runs all of it is written: the board shows the relayed payload
afterwards, and subscribers see one more write.  What a hijack learns is the payload of every pong
that comes to its open probe. -/
theorem hijack_writes_fit {setup : Setup} {steps : List Step} {l : Listener}
    (followed : (start setup).follow steps = some l) :
    (∀ (link : Link) (started : Nat) (target : Address) (version : UInt8) (limit : Span)
        (arrivals : List (Nat × Bytes)) (payload : Bytes),
      ((Probe.start link started target version limit).attend arrivals).outcome =
          some (.ok payload) →
        payload.length ≤ 1467 ∧ (version = 10 → payload.length ≤ 1465)) ∧
    (∀ (payload : Bytes) (id : Int64),
      (Descriptor.relay payload id).length ≤ payload.length + 33) ∧
    (∀ hijack ∈ l.hijacks, ∀ (serial : Nat) (datagram payload : Bytes),
      (hijack.hear setup.config.framing serial datagram).2 = some payload →
        payload.length ≤ 1467 ∧ (setup.protocolVersion = 10 → payload.length ≤ 1465) ∧
        (∀ (board : PongBoard) (error : ListenerError),
          board.store (Descriptor.relay payload setup.id) ≠ .error error) ∧
        (l.shutdown = false →
          (l.answerProbe hijack.number serial datagram).board.payload =
              Descriptor.relay payload setup.id ∧
            (l.answerProbe hijack.number serial datagram).board.writes = l.board.writes + 1)) ∧
    ∀ hijack ∈ l.hijacks, ∀ (probe : OpenProbe) (datagram : Bytes) (pong : Pong),
      hijack.probe = some probe →
        Pong.decode setup.config.framing (datagram.take 1500) = .ok pong →
          (hijack.hear setup.config.framing probe.serial datagram).2 = some pong.payload := by
  refine ⟨?_, Descriptor.length_relay_le, ?_, ?_⟩
  · intro link started target version limit arrivals payload gained
    have short := ((Probe.short_start link started target version limit).attend arrivals).learned
      payload gained
    exact ⟨Nat.le_trans short (PongFraming.room_le _),
      fun prefixed => PongFraming.room_ofProtocol prefixed ▸ short⟩
  · intro hijack member serial datagram payload gained
    have short := Hijack.length_le_of_hear gained
    have small := Nat.le_trans short (PongFraming.room_le _)
    have fits : (Descriptor.relay payload setup.id).length ≤ 32767 :=
      Nat.le_trans (Descriptor.length_relay_le payload setup.id) (by omega)
    refine ⟨small, fun prefixed => PongFraming.room_ofProtocol prefixed ▸ short, ?_, ?_⟩
    · intro board error refused
      have stored : board.store (Descriptor.relay payload setup.id) =
          .ok ⟨_, board.writes + 1, fits⟩ := PongBoard.store_eq_ok_iff.mpr ⟨fits, rfl, rfl⟩
      cases stored.symm.trans refused
    · intro running
      obtain rfl : l.setup = setup := setup_follow followed
      exact (manned_follow followed).board_answerProbe running member gained fits
  · intro hijack member probe datagram pong opened decoded
    rw [Hijack.hear_of_pong opened decoded]

/-- The pong of a server whose descriptor is the mere marker is learned and relayed with all that a
descriptor has in addition. -/
theorem hijack_writes_fit_of_marker :
    let datagram := Pong.encode .lengthPrefixed ⟨5, 9, Descriptor.marker⟩
    ((Probe.start Link.routed 0 (.v4 0x7F000001 19133) 10 (Span.ofSeconds 1)).attend
      [(5, datagram)]).outcome = some (.ok Descriptor.marker) ∧
    Descriptor.marker.length ≤ 1465 ∧
    ∃ l, (start .plain).follow probing = some l ∧ ∃ hijack ∈ l.hijacks,
      (l.answerProbe hijack.number 0 datagram).board.payload =
          Descriptor.relay Descriptor.marker 7 ∧
        (l.answerProbe hijack.number 0 datagram).board.writes = 1 := by
  intro datagram
  have some? : ((start .plain).follow probing).any (fun l =>
      l.shutdown = false ∧ l.board.writes = 0 ∧ l.hijacks.any fun hijack =>
        hijack.probe.any fun probe => probe.serial = 0) = true := by
    decide +kernel
  have decoded : Pong.decode Setup.plain.config.framing (datagram.take 1500) =
      .ok ⟨5, 9, Descriptor.marker⟩ := rfl
  rcases (Option.any_eq_true _ _).mp some? with ⟨l, followed, facts⟩
  rcases of_decide_eq_true facts with ⟨running, unwritten, hijacks⟩
  rcases List.any_eq_true.mp hijacks with ⟨hijack, member, opens⟩
  rcases (Option.any_eq_true _ _).mp opens with ⟨probe, opened, first⟩
  obtain ⟨gains, _, writes, learns⟩ := hijack_writes_fit followed
  have learned := learns hijack member probe datagram _ opened decoded
  rw [of_decide_eq_true first] at learned
  have gained : ((Probe.start Link.routed 0 (.v4 0x7F000001 19133) 10 (Span.ofSeconds 1)).attend
      [(5, datagram)]).outcome = some (.ok Descriptor.marker) := rfl
  obtain ⟨_, _, _, replaced⟩ := writes hijack member 0 datagram _ learned
  refine ⟨gained, (gains _ _ _ _ _ _ _ gained).2 rfl, l, followed, hijack, member, ?_⟩
  have after := replaced running
  rw [unwritten] at after
  exact after

end Listener

end Anteroom
