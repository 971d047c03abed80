import Mathlib.Data.List.Find
import Anteroom.Proofs.Faults
import Anteroom.Proofs.Probing

/-!
# What a probe skips

The first datagram that a probe does not skip decides it, whatever has come
before and whatever comes after.  What is skipped is told by the leading byte
alone: a datagram that starts with the leading byte of another message is
skipped, however it goes on, and one that starts as a pong is not, however badly
it goes on.  A datagram without bytes has no leading byte to tell it by.  It is
not skipped but ends the probe, as an ill-formed pong does.
-/

namespace Anteroom

/-- Whether a datagram starts as a pong does. -/
def Bytes.isPong (datagram : Bytes) : Bool :=
  datagram.head? == some PacketId.unconnectedPong.byte

/-- Whether a datagram starts with the leading byte of another message than a pong. -/
def Bytes.isOther : Bytes → Bool
  | [] => false
  | leading :: _ => leading != PacketId.unconnectedPong.byte

theorem Bytes.not_isOther_iff {datagram : Bytes} :
    (!datagram.isOther) = true ↔ datagram = [] ∨ datagram.isPong = true := by
  cases datagram with
  | nil => simp [isOther]
  | cons leading body => simp [isOther, isPong]

namespace PongFraming

/-- What a datagram that a probe does not skip ends it with. -/
def verdict (framing : PongFraming) (datagram : Bytes) : Except PingError Bytes :=
  match Pong.decode framing datagram.received with
  | .ok pong => .ok pong.payload
  | .error e => .error (.malformed e)

theorem received_cons (leading : UInt8) (body : Bytes) :
    Bytes.received (leading :: body) = leading :: body.take 1499 :=
  rfl

theorem judge_of_isOther (framing : PongFraming) {datagram : Bytes}
    (other : datagram.isOther = true) : framing.judge datagram = none := by
  cases datagram with
  | nil => cases other
  | cons leading body =>
      have apart : leading ≠ PacketId.unconnectedPong.byte := by simpa [Bytes.isOther] using other
      rw [judge, received_cons, Pong.decode_of_ne apart]

/-- No failure of a datagram that is not skipped is taken for another message. -/
theorem judge_of_not_isOther (framing : PongFraming) {datagram : Bytes}
    (own : datagram.isOther = false) :
    (framing.judge datagram).map (·.mapError PingError.malformed) =
      some (framing.verdict datagram) := by
  cases datagram with
  | nil => rfl
  | cons leading body =>
      obtain rfl : leading = PacketId.unconnectedPong.byte := by simpa [Bytes.isOther] using own
      rw [judge, verdict, received_cons]
      cases decoded : Pong.decode framing (PacketId.unconnectedPong.byte :: body.take 1499) with
      | ok pong => rfl
      | error e => cases Pong.ofField_of_decode decoded <;> rfl

end PongFraming

namespace Probe

/-- The probe after datagrams have come, each at its time. -/
def attend (probe : Probe) (arrivals : List (Nat × Bytes)) : Probe :=
  arrivals.foldl (fun probe arrival => (probe.wake arrival.1).hear arrival.2) probe

/-- Before its time is up, waking changes nothing. -/
theorem wake_of_lt {probe : Probe} {now : Nat} (inTime : now < probe.deadline) :
    probe.wake now = probe := by
  rw [wake]
  split
  · rfl
  · exact if_neg (Nat.not_le.mpr inTime)

theorem outcome_wake (probe : Probe) (now : Nat) :
    (probe.wake now).outcome =
      match probe.outcome with
      | some outcome => some outcome
      | none =>
          if probe.deadline ≤ now then some (.error (.timeout probe.target probe.limit))
          else none := by
  rw [wake]
  cases waits : probe.outcome with
  | some outcome => exact waits
  | none =>
      simp only
      split
      · rfl
      · exact waits

@[simp]
theorem deadline_hear (probe : Probe) (datagram : Bytes) :
    (probe.hear datagram).deadline = probe.deadline := by
  rw [hear]
  split <;> rfl

/-- When the datagrams come does not matter, as long as they come in time. -/
theorem attend_eq_hearAll {probe : Probe} {arrivals : List (Nat × Bytes)}
    (inTime : ∀ arrival ∈ arrivals, arrival.1 < probe.deadline) :
    probe.attend arrivals = probe.hearAll (arrivals.map Prod.snd) := by
  induction arrivals generalizing probe with
  | nil => rfl
  | cons arrival arrivals ih =>
      have still := wake_of_lt (inTime arrival List.mem_cons_self)
      have later : ∀ other ∈ arrivals, other.1 < (probe.hear arrival.2).deadline := by
        intro other member
        rw [deadline_hear]
        exact inTime other (List.mem_cons_of_mem arrival member)
      rw [attend, List.foldl_cons, still, List.map_cons, hearAll, List.foldl_cons]
      exact ih later

theorem hear_of_isOther {probe : Probe} {datagram : Bytes} (other : datagram.isOther = true) :
    probe.hear datagram = probe := by
  rw [hear, probe.framing.judge_of_isOther other]
  split
  · rfl
  · rename_i waits
    rw [Option.map_none, ← waits]

theorem hear_of_not_isOther {probe : Probe} {datagram : Bytes} (waits : probe.outcome = none)
    (own : datagram.isOther = false) :
    probe.hear datagram = { probe with outcome := some (probe.framing.verdict datagram) } := by
  rw [hear, waits, ← probe.framing.judge_of_not_isOther own]

/-- What has come to a probe leaves it as it is up to the first datagram that is not skipped,
which decides it. -/
theorem hearAll_eq {probe : Probe} (waits : probe.outcome = none) (datagrams : List Bytes) :
    probe.hearAll datagrams = { probe with
      outcome := (datagrams.find? (!·.isOther)).map probe.framing.verdict } := by
  induction datagrams with
  | nil =>
      rw [List.find?_nil, Option.map_none, ← waits]
      rfl
  | cons datagram datagrams ih =>
      rw [hearAll, List.foldl_cons, List.find?_cons]
      cases own : datagram.isOther with
      | true =>
          rw [hear_of_isOther own]
          exact ih
      | false =>
          rw [hear_of_not_isOther waits own]
          exact hearAll_of_decided rfl datagrams

/-- How a probe stands at some time after datagrams have come, all of them before its time was up:
the first one that is not skipped has decided it, and without one it waits until its time is up.
A datagram without bytes is not skipped, and it ends the probe for want of a leading byte.  If no
such datagram has come, the first pong decides.  A pong that is refused is so on account of one of
its fields. -/
theorem first_unskipped_decides {link : Link} {started : Nat} {target : Address} {version : UInt8}
    {limit : Span} {arrivals : List (Nat × Bytes)} (reached : link.reaches target = true)
    (inTime : ∀ arrival ∈ arrivals, arrival.1 < started + limit.nanos) :
    (∀ later, (((start link started target version limit).attend arrivals).wake later).outcome =
      match (arrivals.map Prod.snd).find? (!·.isOther) with
      | some datagram => some ((PongFraming.ofProtocol version).verdict datagram)
      | none =>
          if started + limit.nanos ≤ later then some (.error (.timeout target limit)) else none) ∧
    (∀ datagram : Bytes, (!datagram.isOther) = true ↔ datagram = [] ∨ datagram.isPong = true) ∧
    ((∀ arrival ∈ arrivals, arrival.2 ≠ []) →
      (arrivals.map Prod.snd).find? (!·.isOther) = (arrivals.map Prod.snd).find? (·.isPong)) ∧
    (PongFraming.ofProtocol version).verdict [] =
      .error (.malformed (.truncated "packet id" 1 0)) ∧
    ∀ body e, (PongFraming.ofProtocol version).verdict (0x1c :: body) = .error e →
      ∃ fault, fault.OfField ∧ e = .malformed fault := by
  have waits : (start link started target version limit).outcome = none := if_pos reached
  refine ⟨?_, fun datagram => Bytes.not_isOther_iff, ?_, rfl, ?_⟩
  · intro later
    rw [attend_eq_hearAll inTime, hearAll_eq waits, outcome_wake]
    cases (arrivals.map Prod.snd).find? (!·.isOther) with
    | some datagram => rfl
    | none => rfl
  · intro filled
    apply List.find?_congr
    intro datagram member
    rcases List.mem_map.mp member with ⟨arrival, arrived, rfl⟩
    rw [Bool.eq_iff_iff, Bytes.not_isOther_iff]
    exact or_iff_right (filled arrival arrived)
  · intro body e refused
    rw [PongFraming.verdict, PongFraming.received_cons] at refused
    cases decoded : Pong.decode (.ofProtocol version) (0x1c :: body.take 1499) with
    | ok pong =>
        rw [decoded] at refused
        cases refused
    | error fault =>
        rw [decoded] at refused
        cases refused
        exact ⟨fault, Pong.ofField_of_decode decoded, rfl⟩

/-- A reply to a connection request is skipped, and the pong behind it gives its payload. -/
theorem first_unskipped_decides_of_reply :
    (((start Link.routed 0 (.v4 0xC0A80102 19132) 10 (Span.ofSeconds 1)).attend
      [(5, [0x06, 0x00]), (9, Pong.encode .lengthPrefixed
        { sendTimestamp := 11, serverGuid := -22, payload := [0x61] })]).wake 1000000000).outcome =
      some (.ok [0x61]) := by
  have inTime : ∀ arrival ∈ [(5, [0x06, 0x00]), (9, Pong.encode .lengthPrefixed
      { sendTimestamp := 11, serverGuid := -22, payload := [0x61] })],
      arrival.1 < 0 + (Span.ofSeconds 1).nanos := by
    decide
  have reached : Link.routed.reaches (.v4 0xC0A80102 19132) = true := rfl
  exact ((first_unskipped_decides reached inTime).1 1000000000).trans rfl

/-- A datagram without bytes ends a probe before the pong behind it has come, which would have
given its payload. -/
theorem empty_datagram_ends_probe :
    ∃ pong : Bytes, [[], pong].find? Bytes.isPong = some pong ∧
      PongFraming.lengthPrefixed.verdict pong = .ok [0x61] ∧
      (((start Link.routed 0 (.v4 0xC0A80102 19132) 10 (Span.ofSeconds 1)).attend
        [(5, []), (9, pong)]).wake 1000000000).outcome =
          some (.error (.malformed (.truncated "packet id" 1 0))) :=
  ⟨Pong.encode .lengthPrefixed { sendTimestamp := 11, serverGuid := -22, payload := [0x61] },
    rfl, rfl, rfl⟩

end Probe

end Anteroom
