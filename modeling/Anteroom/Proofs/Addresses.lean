import Anteroom.Proofs.RoundTrip

/-!
# The address code

An address is read exactly from its wire form, with any two bytes in place of
the family of a version 6 one.  Since its reader stops at the end of that form,
whatever follows, the wire forms are a prefix code: none is the beginning of
another.  What is refused is told by the version and the length.
-/

namespace Anteroom

/-! ## Numbers of a fixed width -/

namespace Bytes

/-- Any bytes of a width are those of a number of this width. -/
theorem exists_ofNat {bytes : Bytes} {width count : Nat} (length : bytes.length = width + count) :
    ∃ (n : Nat) (rest : Bytes), n < weight width ∧ bytes = ofNat width n ++ rest ∧
      rest.length = count := by
  have cut : (bytes.take width).length = width := List.length_take_of_le (by omega)
  have fits := toNat_lt (bytes.take width)
  have written := ofNat_toNat (bytes.take width)
  rw [cut] at fits written
  refine ⟨toNat (bytes.take width), bytes.drop width, fits, ?_, ?_⟩
  · rw [written, List.take_append_drop]
  · rw [List.length_drop]
    omega

theorem exists_ofUInt16 {bytes : Bytes} (count : Nat) (length : bytes.length = 2 + count) :
    ∃ (n : UInt16) (rest : Bytes), bytes = ofUInt16 n ++ rest ∧ rest.length = count := by
  rcases exists_ofNat length with ⟨n, rest, fits, same, left⟩
  exact ⟨UInt16.ofNat n, rest, by rw [ofUInt16, UInt16.toNat_ofNat_of_lt' fits, same], left⟩

theorem exists_ofUInt32 {bytes : Bytes} (count : Nat) (length : bytes.length = 4 + count) :
    ∃ (n : UInt32) (rest : Bytes), bytes = ofUInt32 n ++ rest ∧ rest.length = count := by
  rcases exists_ofNat length with ⟨n, rest, fits, same, left⟩
  exact ⟨UInt32.ofNat n, rest, by rw [ofUInt32, UInt32.toNat_ofNat_of_lt' fits, same], left⟩

theorem exists_ofUInt64 {bytes : Bytes} (count : Nat) (length : bytes.length = 8 + count) :
    ∃ (n : UInt64) (rest : Bytes), bytes = ofUInt64 n ++ rest ∧ rest.length = count := by
  rcases exists_ofNat length with ⟨n, rest, fits, same, left⟩
  exact ⟨UInt64.ofNat n, rest, by rw [ofUInt64, UInt64.toNat_ofNat_of_lt' fits, same], left⟩

end Bytes

namespace Address

open Bytes

/-! ## What is read -/

/-- Any six bytes are those of an IPv4 address behind its version. -/
theorem exists_spelled_v4 {bytes : Bytes} (six : bytes.length = 6) :
    ∃ address : Address, ∀ family, 4 :: bytes = address.spelled family := by
  rcases exists_ofUInt32 2 six with ⟨inverted, _, rfl, two⟩
  rcases exists_ofUInt16 0 two with ⟨port, _, rfl, none⟩
  obtain rfl := List.eq_nil_of_length_eq_zero none
  refine ⟨v4 (~~~inverted) port, ?_⟩
  intro family
  rw [spelled, UInt32.not_not, List.append_nil]

/-- Any 28 bytes are those of an IPv6 address behind its version, the first two of them its
family. -/
theorem exists_spelled_v6 {bytes : Bytes} (long : bytes.length = 28) :
    ∃ (family : Bytes) (address : Address), family.length = 2 ∧
      6 :: bytes = address.spelled family := by
  have behindFamily : (bytes.drop 2).length = 26 := by rw [List.length_drop, long]
  rcases exists_ofUInt16 24 behindFamily with ⟨port, _, fields, behindPort⟩
  rcases exists_ofUInt32 20 behindPort with ⟨flow, _, rfl, behindFlow⟩
  rcases exists_ofUInt64 12 behindFlow with ⟨upper, _, rfl, behindUpper⟩
  rcases exists_ofUInt64 4 behindUpper with ⟨lower, _, rfl, behindLower⟩
  rcases exists_ofUInt32 0 behindLower with ⟨scope, _, rfl, none⟩
  obtain rfl := List.eq_nil_of_length_eq_zero none
  rw [List.append_nil] at fields
  refine ⟨bytes.take 2, v6 upper lower port flow scope, List.length_take_of_le (by omega), ?_⟩
  rw [spelled, ← fields, List.take_append_drop]

/-- What is read as some address begins with a wire form. -/
theorem exists_spelled_of_read {bytes rest : Bytes} {address : Address}
    (reads : read bytes = .ok address rest) :
    ∃ (family : Bytes) (other : Address), family.length = 2 ∧
      bytes = other.spelled family ++ rest := by
  rw [read, Reader.bind_eq_ok_iff] at reads
  rcases reads with ⟨version, behind, first, branch⟩
  rw [Reader.uint8_eq_ok_iff.mp first]
  split at branch
  · rename_i four
    rcases Reader.bind_eq_ok_iff.mp branch with ⟨taken, left, took, returned⟩
    rcases Reader.take_eq_ok_iff.mp took with ⟨six, rfl⟩
    rcases Reader.pure_eq_ok_iff.mp returned with ⟨-, rfl⟩
    rcases exists_spelled_v4 six with ⟨other, spelled⟩
    exact ⟨[0, 0], other, rfl, by rw [← spelled, four, List.cons_append]⟩
  · split at branch
    · rename_i six
      rcases Reader.bind_eq_ok_iff.mp branch with ⟨taken, left, took, returned⟩
      rcases Reader.take_eq_ok_iff.mp took with ⟨long, rfl⟩
      rcases Reader.pure_eq_ok_iff.mp returned with ⟨-, rfl⟩
      rcases exists_spelled_v6 long with ⟨family, other, two, spelled⟩
      exact ⟨family, other, two, by rw [← spelled, six, List.cons_append]⟩
    · cases branch

/-- What is read as an address is its wire form, with some family in it. -/
theorem read_eq_ok_iff {bytes rest : Bytes} {address : Address} :
    read bytes = .ok address rest ↔
      ∃ family : Bytes, family.length = 2 ∧ bytes = address.spelled family ++ rest := by
  constructor
  · intro reads
    rcases exists_spelled_of_read reads with ⟨family, other, two, rfl⟩
    -- The reader takes this wire form for the address it is of, so the two are the same.
    rw [other.takes_spelled two rest] at reads
    cases reads
    exact ⟨family, two, rfl⟩
  · rintro ⟨family, two, rfl⟩
    exact address.takes_spelled two rest

/-- No wire form is the beginning of another one. -/
theorem encode_isPrefix_iff {left right : Address} :
    left.encode <+: right.encode ↔ left = right := by
  constructor
  · rintro ⟨rest, same⟩
    have first := left.takes_read rest
    have second := right.takes_read []
    rw [List.append_nil, ← same, first] at second
    cases second
    rfl
  · rintro rfl
    exact List.prefix_refl _

/-! ## What is refused -/

/-- How an address is refused, and what is left behind. -/
inductive Refused : Bytes → DecodeError → Bytes → Prop
  | empty : Refused [] (.truncated "address version" 1 0) []
  | version {version : UInt8} {body : Bytes} (other : version ≠ 4 ∧ version ≠ 6) :
      Refused (version :: body) (.invalidAddressVersion version) body
  | v4 {body : Bytes} (short : body.length < 6) :
      Refused (4 :: body) (.truncated "ipv4 address" 6 body.length) body
  | v6 {body : Bytes} (short : body.length < 28) :
      Refused (6 :: body) (.truncated "ipv6 address" 28 body.length) body

/-- Behind its version, which is taken first, an address is read or refused as a whole. -/
theorem read_cons (version : UInt8) (body : Bytes) :
    read (version :: body) =
      if version = 4 then (do return ofBytes4 (← Reader.take "ipv4 address" 6)) body
      else if version = 6 then (do return ofBytes6 (← Reader.take "ipv6 address" 28)) body
      else .error (.invalidAddressVersion version) body := by
  rw [read, Reader.bind_of_ok (Reader.uint8_eq_ok_iff.mpr rfl)]
  split
  · rfl
  · split <;> rfl

/-- An address is refused for want of a version, for another one than 4 and 6, and for want of the
bytes behind it. -/
theorem read_eq_error_iff {bytes rest : Bytes} {e : DecodeError} :
    read bytes = .error e rest ↔ Refused bytes e rest := by
  constructor
  · intro failed
    cases bytes with
    | nil =>
        cases failed
        exact .empty
    | cons version body =>
        rw [read_cons] at failed
        split at failed
        · rename_i four
          rcases Reader.bind_eq_error_iff.mp failed with refused | ⟨_, _, _, returned⟩
          · rcases Reader.take_eq_error_iff.mp refused with ⟨short, rfl, rfl⟩
            rw [four]
            exact .v4 short
          · cases returned
        · rename_i not4
          split at failed
          · rename_i six
            rcases Reader.bind_eq_error_iff.mp failed with refused | ⟨_, _, _, returned⟩
            · rcases Reader.take_eq_error_iff.mp refused with ⟨short, rfl, rfl⟩
              rw [six]
              exact .v6 short
            · cases returned
          · rename_i not6
            cases failed
            exact .version ⟨not4, not6⟩
  · intro refused
    cases refused with
    | empty => rfl
    | version other => rw [read_cons, if_neg other.1, if_neg other.2]
    | v4 short =>
        rw [read_cons, if_pos rfl]
        exact Reader.bind_of_error (Reader.take_eq_error_iff.mpr ⟨short, rfl, rfl⟩)
    | v6 short =>
        rw [read_cons, if_neg (by decide), if_pos rfl]
        exact Reader.bind_of_error (Reader.take_eq_error_iff.mpr ⟨short, rfl, rfl⟩)

/-- The version and the length decide whether an address is refused. -/
theorem exists_refused_iff {bytes : Bytes} :
    (∃ e rest, Refused bytes e rest) ↔
      bytes = [] ∨ (∃ version, bytes[0]? = some version ∧ version ≠ 4 ∧ version ≠ 6) ∨
        bytes[0]? = some 4 ∧ bytes.length < 7 ∨ bytes[0]? = some 6 ∧ bytes.length < 29 := by
  constructor
  · rintro ⟨e, rest, refused⟩
    cases refused with
    | empty => exact .inl rfl
    | version other => exact .inr (.inl ⟨_, rfl, other⟩)
    | v4 short => exact .inr (.inr (.inl ⟨rfl, Nat.succ_lt_succ short⟩))
    | v6 short => exact .inr (.inr (.inr ⟨rfl, Nat.succ_lt_succ short⟩))
  · cases bytes with
    | nil => exact fun _ => ⟨_, _, .empty⟩
    | cons first body =>
        rintro (empty | ⟨version, same, other⟩ | ⟨same, short⟩ | ⟨same, short⟩)
        · cases empty
        · cases same
          exact ⟨_, _, .version other⟩
        · cases same
          exact ⟨_, _, .v4 (Nat.lt_of_succ_lt_succ short)⟩
        · cases same
          exact ⟨_, _, .v6 (Nat.lt_of_succ_lt_succ short)⟩

/-- An address is written behind what a buffer holds, in 7 bytes or 29, and read from these bytes
whatever follows them; the bytes of one address are no beginning of those of another, so no two
addresses share theirs.  What is read as an address is its wire form, but that any two bytes may
stand for the family.  All else is refused, for its version or its length. -/
theorem wire_code :
    (∀ (address : Address) (buffer rest : Bytes),
      address.write buffer = buffer ++ address.encode ∧
      address.encode.length = address.wireLength ∧
      read (address.encode ++ rest) = .ok address rest) ∧
    (∀ host port, (v4 host port).wireLength = 7) ∧
    (∀ upper lower port flow scope, (v6 upper lower port flow scope).wireLength = 29) ∧
    (∀ left right : Address, left.encode <+: right.encode ↔ left = right) ∧
    (∀ (bytes rest : Bytes) (address : Address), read bytes = .ok address rest ↔
      ∃ family : Bytes, family.length = 2 ∧ bytes = address.spelled family ++ rest) ∧
    (∀ address : Address, address.encode = address.spelled [0x17, 0x00]) ∧
    (∀ (bytes rest : Bytes) (e : DecodeError),
      read bytes = .error e rest ↔ Refused bytes e rest) ∧
    ∀ bytes : Bytes, (∃ e rest, read bytes = .error e rest) ↔
      bytes = [] ∨ (∃ version, bytes[0]? = some version ∧ version ≠ 4 ∧ version ≠ 6) ∨
        bytes[0]? = some 4 ∧ bytes.length < 7 ∨ bytes[0]? = some 6 ∧ bytes.length < 29 := by
  refine ⟨?_, fun _ _ => rfl, fun _ _ _ _ _ => rfl, fun _ _ => encode_isPrefix_iff,
    fun _ _ _ => read_eq_ok_iff, encode_eq_spelled, fun _ _ _ => read_eq_error_iff, ?_⟩
  · intro address buffer rest
    exact ⟨address.write_eq buffer, address.length_encode, address.takes_read rest⟩
  · intro bytes
    rw [← exists_refused_iff]
    exact exists_congr fun e => exists_congr fun rest => read_eq_error_iff

/-- A scoped IPv6 address is written behind a byte and read with another family, one of the same
port is not its beginning, and without its last byte it is refused. -/
theorem wire_code_of_scoped :
    let address := v6 1 2 19132 3 4
    address.write [9] = 9 :: address.encode ∧
      read (address.spelled [0, 10] ++ [9]) = .ok address [9] ∧
      ¬ (v4 2 19132).encode <+: address.encode ∧
      ∃ e rest, read (address.encode.take 28) = .error e rest := by
  intro address
  rcases wire_code with ⟨writes, -, -, apart, reads, -, -, refused⟩
  refine ⟨(writes address [9] []).1, (reads _ _ _).mpr ⟨[0, 10], rfl, rfl⟩, ?_, ?_⟩
  · intro begins
    have same : v4 2 19132 = v6 1 2 19132 3 4 := (apart _ _).mp begins
    cases same
  · exact (refused _).mpr (.inr (.inr (.inr ⟨by decide, by decide⟩)))

end Address

end Anteroom
