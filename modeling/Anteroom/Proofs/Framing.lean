import Anteroom.Proofs.Grammar

/-!
# The framings of a pong

A raw payload runs to the end of the datagram, so it is read back whatever its
length.  A length in front of it has 16 bits, and a longer one wraps: such a
pong is still read, with that much less of its payload.  Read as raw, the two
bytes of the length are the beginning of the payload.
-/

namespace Anteroom

/-- Only the digits within the width are written. -/
theorem Bytes.ofNat_mod (width n : Nat) : ofNat width (n % weight width) = ofNat width n := by
  calc
    ofNat width (n % weight width) =
        ofNat width (n / weight width * weight width + n % weight width) :=
          (ofNat_mul_add width _ _).symm
    _ = ofNat width n := by rw [Nat.div_add_mod']

theorem Bytes.ofNat_two (n : Nat) : ofNat 2 n = [UInt8.ofNat (n / 256), UInt8.ofNat n] := by
  simp [ofNat, weight]

theorem Layout.reads_readId (id : UInt8) (d : Bytes) :
    (readId id).Reads d (d[0]? = some id) () (d.drop 1) := by
  intro done left
  rw [readId_eq_ok_iff]
  cases d with
  | nil => simp
  | cons first body => simp [eq_comm]

namespace Pong

open Reader

/-- What stands where in a pong with the length of its payload in front. -/
theorem reads_read (d : Bytes) :
    (read .lengthPrefixed).Reads d
      (35 ≤ d.length ∧ d[0]? = some 0x1c ∧ d.extract 17 33 = magic ∧
        35 + d.number 33 35 ≤ d.length)
      { sendTimestamp := d.signed 1, serverGuid := d.signed 9,
        payload := d.extract 35 (35 + d.number 33 35) }
      (d.drop (35 + d.number 33 35)) := by
  have payload := (@reads_nat "pong payload length" 2 Nat.two_pos d 33).bind
    (@reads_take_sub "pong payload" d 35 (d.number 33 35))
  refine Reads.congr ((Layout.reads_readId _ d).bind <| (reads_int64 d 1).bind <|
    (reads_int64 d 9).bind <| (reads_magic d 17).bind <| payload.map _) ?_
  constructor
  · rintro ⟨leading, -, -, marked, long, whole⟩
    exact ⟨long, leading, marked, by omega⟩
  · rintro ⟨long, leading, marked, whole⟩
    exact ⟨leading, by omega, by omega, marked, long, by omega⟩

/-- A pong with the length of its payload in front is read with as much of the payload as the
16 bits of the length tell. -/
theorem decode_lengthPrefixed_append (pong : Pong) (rest : Bytes) :
    decode .lengthPrefixed (pong.encode .lengthPrefixed ++ rest) =
      .ok { pong with payload := pong.payload.take (pong.payload.length % 65536) } := by
  have wrapped : Bytes.ofNat 2 pong.payload.length =
      Bytes.ofNat 2 (pong.payload.length % 65536) := (Bytes.ofNat_mod 2 _).symm
  have small : pong.payload.length % 65536 < 65536 := Nat.mod_lt _ (by decide)
  have short : pong.payload.length % 65536 ≤ pong.payload.length := Nat.mod_le _ _
  have enough : pong.payload.length % 65536 ≤ (pong.payload ++ rest).length := by
    rw [List.length_append]
    omega
  rw [encode_eq_header_append, PongFraming.encode, wrapped, List.append_assoc, List.append_assoc,
    decode_header_append, PongFraming.value_read_lengthPrefixed small, if_pos enough,
    List.take_append_of_le_length short]
  rfl

/-- A raw pong is read back whatever the length of its payload.  With its length in front, and
whatever behind it, a payload is read as far as 16 bits can tell its length, hence the pong is read
back exactly if it is shorter than 65536 bytes; read as raw, the length is taken for the first two
bytes of the payload.  A datagram is read as a pong with a length in front exactly if the header,
the magic in it and as many bytes as the length says are there, and these are what is read. -/
theorem framings_exact :
    (∀ pong : Pong, decode .raw (pong.encode .raw) = .ok pong) ∧
    (∀ (pong : Pong) (rest : Bytes),
      decode .lengthPrefixed (pong.encode .lengthPrefixed ++ rest) =
          .ok { pong with payload := pong.payload.take (pong.payload.length % 65536) } ∧
        (decode .lengthPrefixed (pong.encode .lengthPrefixed ++ rest) = .ok pong ↔
          pong.payload.length < 65536)) ∧
    (∀ pong : Pong, decode .raw (pong.encode .lengthPrefixed) =
      .ok { pong with payload := [UInt8.ofNat (pong.payload.length / 256),
        UInt8.ofNat pong.payload.length] ++ pong.payload }) ∧
    (∀ d : Bytes, (∃ pong, decode .lengthPrefixed d = .ok pong) ↔
      35 ≤ d.length ∧ d[0]? = some 0x1c ∧ d.extract 17 33 = magic ∧
        35 + d.number 33 35 ≤ d.length) ∧
    ∀ (d : Bytes) (pong : Pong), decode .lengthPrefixed d = .ok pong →
      pong.sendTimestamp = d.signed 1 ∧ pong.serverGuid = d.signed 9 ∧
        pong.payload = d.extract 35 (35 + d.number 33 35) := by
  refine ⟨?_, ?_, ?_, ?_, ?_⟩
  · intro pong
    rw [encode_eq_header_append, decode_header_append, PongFraming.encode,
      PongFraming.value_read_raw]
    rfl
  · intro pong rest
    refine ⟨pong.decode_lengthPrefixed_append rest, ?_⟩
    have cut : pong.payload.take (pong.payload.length % 65536) = pong.payload ↔
        pong.payload.length < 65536 := by
      constructor
      · intro whole
        have length := congrArg List.length whole
        rw [List.length_take] at length
        omega
      · intro small
        rw [Nat.mod_eq_of_lt small, List.take_length]
    rw [decode_lengthPrefixed_append, Except.ok.injEq, ← cut]
    constructor
    · exact congrArg Pong.payload
    · intro same
      rw [same]
  · intro pong
    rw [encode_eq_header_append, decode_header_append, PongFraming.encode, Bytes.ofNat_two,
      PongFraming.value_read_raw]
    rfl
  · intro d
    constructor
    · rintro ⟨pong, decoded⟩
      exact ((reads_read d).value_eq_ok_iff.mp decoded).1
    · intro fits
      exact ⟨_, (reads_read d).value_eq_ok_iff.mpr ⟨fits, rfl⟩⟩
  · intro d pong decoded
    obtain rfl := ((reads_read d).value_eq_ok_iff.mp decoded).2
    exact ⟨rfl, rfl, rfl⟩

/-- A payload of 65536 bytes is read as the empty one where its length is in front, and is read
back where it is raw. -/
theorem framings_exact_of_wrap :
    let pong : Pong := ⟨5, 7, List.replicate 65536 0⟩
    decode .raw (pong.encode .raw) = .ok pong ∧
      decode .lengthPrefixed (pong.encode .lengthPrefixed ++ [9]) =
        .ok { pong with payload := [] } ∧
      decode .lengthPrefixed (pong.encode .lengthPrefixed) ≠ .ok pong := by
  intro pong
  rcases framings_exact with ⟨raw, prefixed, -⟩
  have length : pong.payload.length = 65536 := List.length_replicate
  refine ⟨raw pong, ?_, ?_⟩
  · have whole := (prefixed pong [9]).1
    rw [length] at whole
    exact whole
  · intro same
    rw [← List.append_nil (pong.encode .lengthPrefixed)] at same
    have fits := (prefixed pong []).2.mp same
    rw [length] at fits
    exact Nat.lt_irrefl _ fits

end Pong

end Anteroom
