import Anteroom.Proofs.Addresses

/-!
# Writing again what was read

A message can be read from many datagrams but has one of its own.  Writing it
again keeps every byte that counts: of a flag only whether it is 0, of the
family of an IPv6 address nothing, of padding nothing but its length.  What
follows the message is dropped, so its own datagram is no longer, and it is read
from that again.
-/

namespace Anteroom

/-- What a byte of a datagram is to the message that is read from it. -/
inductive Slot
  /-- The byte counts as it is. -/
  | kept
  /-- It counts whether the byte is 0. -/
  | flag
  /-- The byte belongs to the family of an IPv6 address, which is always written the same. -/
  | family (byte : UInt8)
  /-- It counts that there is a byte. -/
  | padding
  deriving DecidableEq, Repr

/-- The byte that is written in a slot where `b` was read. -/
def Slot.settle : Slot → (b : UInt8) → UInt8
  | kept, b => b
  | flag, b => if b = 0 then 0 else 1
  | family byte, _ => byte
  | padding, _ => 0

/-- The slots of a field whose bytes all count. -/
def Slot.whole (width : Nat) : List Slot :=
  List.replicate width kept

/-- The slots of an address on the wire. -/
def Address.slots : Address → List Slot
  | v4 .. => Slot.whole 7
  | v6 .. => Slot.whole 1 ++ [.family 0x17, .family 0x00] ++ Slot.whole 26

/-- The slots of the datagram of a message, field by field, its leading byte included. -/
def Message.slots : Message → List Slot
  | unconnectedPing .. => Slot.whole 1 ++ Slot.whole 8 ++ Slot.whole 16 ++ Slot.whole 8
  | openConnectionRequest1 _ mtu =>
      Slot.whole 1 ++ Slot.whole 16 ++ Slot.whole 1 ++
        List.replicate (Mtu.room mtu - request1Size) .padding
  | openConnectionReply1 .. =>
      Slot.whole 1 ++ Slot.whole 16 ++ Slot.whole 8 ++ [.flag] ++ Slot.whole 2
  | incompatibleProtocolVersion .. =>
      Slot.whole 1 ++ Slot.whole 1 ++ Slot.whole 16 ++ Slot.whole 8
  | openConnectionRequest2 serverAddress _ _ =>
      Slot.whole 1 ++ Slot.whole 16 ++ serverAddress.slots ++ Slot.whole 2 ++ Slot.whole 8
  | openConnectionReply2 _ clientAddress _ _ =>
      Slot.whole 1 ++ Slot.whole 16 ++ Slot.whole 8 ++ clientAddress.slots ++ Slot.whole 2 ++
        [.flag]

/-! ## Bytes in their slots -/

/-- One byte was found for each slot, and these bytes are written again as others. -/
def Settles (slots : List Slot) (found written : Bytes) : Prop :=
  found.length = slots.length ∧ written = List.zipWith Slot.settle slots found

namespace Settles

variable {slots others : List Slot} {found written behind after : Bytes}

theorem append (first : Settles slots found written) (second : Settles others behind after) :
    Settles (slots ++ others) (found ++ behind) (written ++ after) := by
  rcases first with ⟨length, rfl⟩
  rcases second with ⟨more, rfl⟩
  constructor
  · rw [List.length_append, List.length_append, length, more]
  · rw [List.zipWith_append length.symm]

/-- As many bytes are written as there are slots. -/
theorem length_written (settles : Settles slots found written) :
    written.length = slots.length := by
  rcases settles with ⟨length, rfl⟩
  rw [List.length_zipWith, length, Nat.min_self]

/-- What stands behind the slots is dropped. -/
theorem zipWith_append (settles : Settles slots found written) (rest : Bytes) :
    written = List.zipWith Slot.settle slots (found ++ rest) := by
  rcases settles with ⟨length, rfl⟩
  have split : List.zipWith Slot.settle (slots ++ []) (found ++ rest) =
      List.zipWith Slot.settle slots found ++ List.zipWith Slot.settle [] rest :=
    List.zipWith_append length.symm
  rw [List.append_nil, List.zipWith_nil_left, List.append_nil] at split
  exact split.symm

end Settles

theorem settles_whole {width : Nat} {bytes : Bytes} (length : bytes.length = width) :
    Settles (Slot.whole width) bytes bytes := by
  subst length
  refine ⟨List.length_replicate.symm, ?_⟩
  rw [Slot.whole]
  induction bytes with
  | nil => rfl
  | cons b bytes ih =>
      rw [List.length_cons, List.replicate_succ, List.zipWith_cons_cons, ← ih, Slot.settle]

theorem settles_byte (b : UInt8) : Settles (Slot.whole 1) [b] [b] :=
  settles_whole rfl

theorem settles_uint16 (n : UInt16) :
    Settles (Slot.whole 2) (Bytes.ofUInt16 n) (Bytes.ofUInt16 n) :=
  settles_whole (Bytes.length_ofUInt16 n)

theorem settles_int64 (n : Int64) : Settles (Slot.whole 8) (Bytes.ofInt64 n) (Bytes.ofInt64 n) :=
  settles_whole (Bytes.length_ofUInt64 n.toUInt64)

theorem settles_magic : Settles (Slot.whole 16) magic magic :=
  settles_whole rfl

theorem settles_flag (b : UInt8) : Settles [.flag] [b] (Bytes.ofFlag (b != 0)) := by
  refine ⟨rfl, ?_⟩
  by_cases zero : b = 0 <;> simp [Bytes.ofFlag, Slot.settle, zero]

theorem settles_padding {count : Nat} {bytes : Bytes} (length : bytes.length = count) :
    Settles (List.replicate count .padding) bytes (List.replicate count 0) := by
  subst length
  refine ⟨List.length_replicate.symm, ?_⟩
  induction bytes with
  | nil => rfl
  | cons b bytes ih =>
      rw [List.length_cons, List.replicate_succ, List.replicate_succ, List.zipWith_cons_cons, ← ih,
        Slot.settle]

/-- Of an address that is read, only the family may be another when it is written again. -/
theorem Address.settles_spelled {family : Bytes} (two : family.length = 2) (address : Address) :
    Settles address.slots (address.spelled family) address.encode := by
  cases address with
  | v4 host port =>
      have length : (v4 host port).encode.length = 7 := length_encode _
      exact settles_whole length
  | v6 upper lower port flow scope =>
      let fields : Bytes := Bytes.ofUInt16 port ++ (Bytes.ofUInt32 flow ++
        (Bytes.ofUInt64 upper ++ (Bytes.ofUInt64 lower ++ Bytes.ofUInt32 scope)))
      have length : fields.length = 26 := by
        simp [fields, Bytes.length_ofUInt16, Bytes.length_ofUInt32, Bytes.length_ofUInt64]
      have ofFamily : Settles [.family 0x17, .family 0x00] family [0x17, 0x00] := by
        match family, two with
        | [_, _], _ => exact ⟨rfl, rfl⟩
      rw [encode_eq_spelled]
      exact ((settles_byte 6).append ofFamily).append (settles_whole length)

/-! ## Messages -/

theorem Reader.flag_eq_ok_iff {field : String} {flag : Bool} {bytes rest : Bytes} :
    Reader.flag field bytes = .ok flag rest ↔ ∃ b, bytes = b :: rest ∧ (b != 0) = flag := by
  rw [Reader.flag, Reader.bind_eq_ok_iff]
  simp only [Reader.uint8_eq_ok_iff, Reader.pure_eq_ok_iff]
  constructor
  · rintro ⟨b, _, rfl, same, rfl⟩
    exact ⟨b, rfl, same⟩
  · rintro ⟨b, rfl, same⟩
    exact ⟨b, rest, rfl, same, rfl⟩

namespace Layout

open Reader

/-- What a message is read from is written again as its own datagram. -/
theorem settles_of_readBody {layout : Layout} {body rest : Bytes} {message : Message}
    (reads : layout.readBody body = .ok message rest) :
    ∃ found behind, body = found ++ behind ∧
      Settles message.slots (layout.id :: found) message.encode := by
  have leading := settles_byte layout.id
  cases layout with
  | unconnectedPing =>
      rcases readBody_unconnectedPing_eq_ok_iff.mp reads with ⟨sendTimestamp, clientGuid, rfl, rfl⟩
      exact ⟨_, rest, rfl, ((leading.append (settles_int64 sendTimestamp)).append
        settles_magic).append (settles_int64 clientGuid)⟩
  | openConnectionRequest1 =>
      rcases readBody_openConnectionRequest1_eq_ok_iff.mp reads with
        ⟨protocolVersion, padding, rfl, rfl, rfl⟩
      -- As much of the padding is written again as the MTU has room for.
      let room := Mtu.room (Mtu.ofSize (request1Size + padding.length)) - request1Size
      have room_le : room ≤ padding.length := by
        simp only [room, Mtu.room, Mtu.toNat_ofSize, headerOverhead, request1Size]
        omega
      have padded := settles_padding (List.length_take_of_le room_le)
      exact ⟨magic ++ [protocolVersion] ++ padding.take room, padding.drop room, by simp,
        ((leading.append settles_magic).append (settles_byte protocolVersion)).append padded⟩
  | openConnectionReply1 =>
      simp only [readBody, bind_eq_ok_iff, magic_eq_ok_iff, int64_eq_ok_iff, flag_eq_ok_iff,
        uint16_eq_ok_iff, pure_eq_ok_iff] at reads
      rcases reads with ⟨_, _, rfl, serverGuid, _, rfl, _, _, ⟨b, rfl, rfl⟩, mtu, behind, rfl, rfl,
        rfl⟩
      exact ⟨magic ++ Bytes.ofInt64 serverGuid ++ [b] ++ Bytes.ofUInt16 mtu, behind, by simp,
        (((leading.append settles_magic).append (settles_int64 serverGuid)).append
          (settles_flag b)).append (settles_uint16 mtu)⟩
  | incompatibleProtocolVersion =>
      simp only [readBody, bind_eq_ok_iff, magic_eq_ok_iff, int64_eq_ok_iff, uint8_eq_ok_iff,
        pure_eq_ok_iff] at reads
      rcases reads with ⟨protocolVersion, _, rfl, _, _, rfl, serverGuid, behind, rfl, rfl, rfl⟩
      exact ⟨[protocolVersion] ++ magic ++ Bytes.ofInt64 serverGuid, behind, by simp,
        ((leading.append (settles_byte protocolVersion)).append settles_magic).append
          (settles_int64 serverGuid)⟩
  | openConnectionRequest2 =>
      simp only [readBody, bind_eq_ok_iff, magic_eq_ok_iff, Address.read_eq_ok_iff, int64_eq_ok_iff,
        uint16_eq_ok_iff, pure_eq_ok_iff] at reads
      rcases reads with ⟨_, _, rfl, address, _, ⟨family, two, rfl⟩, mtu, _, rfl, clientGuid, behind,
        rfl, rfl, rfl⟩
      exact ⟨magic ++ address.spelled family ++ Bytes.ofUInt16 mtu ++ Bytes.ofInt64 clientGuid,
        behind, by simp,
        (((leading.append settles_magic).append (address.settles_spelled two)).append
          (settles_uint16 mtu)).append (settles_int64 clientGuid)⟩
  | openConnectionReply2 =>
      simp only [readBody, bind_eq_ok_iff, magic_eq_ok_iff, Address.read_eq_ok_iff, int64_eq_ok_iff,
        uint16_eq_ok_iff, flag_eq_ok_iff, pure_eq_ok_iff] at reads
      rcases reads with ⟨_, _, rfl, serverGuid, _, rfl, address, _, ⟨family, two, rfl⟩, mtu, _, rfl,
        _, behind, ⟨b, rfl, rfl⟩, rfl, rfl⟩
      exact ⟨magic ++ Bytes.ofInt64 serverGuid ++ address.spelled family ++ Bytes.ofUInt16 mtu ++
        [b], behind, by simp,
        ((((leading.append settles_magic).append (settles_int64 serverGuid)).append
          (address.settles_spelled two)).append (settles_uint16 mtu)).append (settles_flag b)⟩

/-- A datagram is read as a message exactly if the fields are read behind the leading byte. -/
theorem decode_eq_ok_iff {layout : Layout} {d : Bytes} {message : Message} :
    layout.decode d = .ok message ↔
      ∃ body rest, d = layout.id :: body ∧ layout.readBody body = .ok message rest := by
  rw [decode, value_eq_ok_iff]
  simp only [bind_eq_ok_iff, readId_eq_ok_iff]
  constructor
  · rintro ⟨rest, _, body, leading, reads⟩
    exact ⟨body, rest, leading, reads⟩
  · rintro ⟨body, rest, leading, reads⟩
    exact ⟨rest, (), body, leading, reads⟩

/-- The padding that is written for a measured MTU measures the same. -/
theorem ofSize_room (size : Nat) :
    Mtu.ofSize (request1Size + (Mtu.room (Mtu.ofSize (request1Size + size)) - request1Size)) =
      Mtu.ofSize (request1Size + size) := by
  rw [← UInt16.toNat_inj, Mtu.toNat_ofSize, Mtu.room, Mtu.toNat_ofSize]
  simp only [request1Size, headerOverhead]
  omega

/-- What was read is read again from its own datagram. -/
theorem decode_encode_of_readBody {layout : Layout} {body rest : Bytes} {message : Message}
    (reads : layout.readBody body = .ok message rest) :
    layout.decode message.encode = .ok message := by
  obtain rfl := layout_of_readBody reads
  by_cases bare : message.layout = .openConnectionRequest1
  · rw [bare] at reads
    rcases readBody_openConnectionRequest1_eq_ok_iff.mp reads with
      ⟨protocolVersion, padding, -, rfl, -⟩
    have again := readBody_openConnectionRequest1 protocolVersion
      (List.replicate (Mtu.room (Mtu.ofSize (request1Size + padding.length)) - request1Size) 0)
    rw [List.length_replicate, ofSize_room, ← List.append_assoc] at again
    exact decode_id_cons again
  · exact Message.decode_encode message bare

end Layout

namespace Message

/-- A message that was read from a datagram is read again from its own one, which is no longer.
Each byte of its own datagram is that of the other one in its place, but that a flag is written as
0 or 1, the family of an IPv6 address as `17 00` and padding as 0.  A first connection request whose
MTU is below 46 is read from no datagram, and so not from its own. -/
theorem reencoding_settles :
    (∀ (layout : Layout) (d : Bytes) (message : Message), layout.decode d = .ok message →
      layout.decode message.encode = .ok message ∧
      message.encode.length ≤ d.length ∧
      message.slots.length = message.encode.length ∧
      message.encode = List.zipWith Slot.settle message.slots d) ∧
    ∀ (protocolVersion : UInt8) (mtu : UInt16), mtu.toNat < 46 → ∀ d : Bytes,
      Layout.decode .openConnectionRequest1 d ≠
        .ok (.openConnectionRequest1 protocolVersion mtu) := by
  refine ⟨?_, ?_⟩
  · intro layout d message decoded
    rcases Layout.decode_eq_ok_iff.mp decoded with ⟨body, rest, rfl, reads⟩
    rcases Layout.settles_of_readBody reads with ⟨found, behind, rfl, settles⟩
    have length : message.encode.length = (layout.id :: found).length :=
      settles.length_written.trans settles.1.symm
    refine ⟨Layout.decode_encode_of_readBody reads, ?_, settles.length_written.symm,
      settles.zipWith_append behind⟩
    rw [length, ← List.cons_append, List.length_append]
    exact Nat.le_add_right _ _
  · intro protocolVersion mtu small d decoded
    rcases Layout.decode_eq_ok_iff.mp decoded with ⟨body, rest, -, reads⟩
    rcases Layout.readBody_openConnectionRequest1_eq_ok_iff.mp reads with
      ⟨version, padding, -, same, -⟩
    cases same
    rw [Mtu.toNat_ofSize, request1Size] at small
    omega

open Reader in
/-- A second reply with another family and a flag of 7, and a byte behind it. -/
theorem reencoding_settles_of_reply2 :
    let address : Address := .v6 1 2 19132 3 4
    let d : Bytes := 8 :: (magic ++ (Bytes.ofInt64 7 ++ (address.spelled [0, 10] ++
      (Bytes.ofUInt16 1400 ++ [7]))) ++ [9])
    let message := openConnectionReply2 7 address 1400 true
    Layout.decode .openConnectionReply2 d = .ok message ∧
      Layout.decode .openConnectionReply2 message.encode = .ok message ∧
      message.encode = List.zipWith Slot.settle message.slots d ∧ message.encode ≠ d.take 57 := by
  intro address d message
  have flag : (flag "encryption enabled").Takes [7] true :=
    (takes_uint8 "encryption enabled" 7).map (· != 0)
  have reads : (Layout.readBody .openConnectionReply2).Takes (magic ++ (Bytes.ofInt64 7 ++
      (address.spelled [0, 10] ++ (Bytes.ofUInt16 1400 ++ [7])))) message :=
    takes_magic.bind <| (takes_int64 _ 7).bind <| (address.takes_spelled rfl).bind <|
      (takes_uint16 _ 1400).bind <| flag.map _
  have decoded : Layout.decode .openConnectionReply2 d = .ok message :=
    Layout.decode_id_cons (reads [9])
  rcases reencoding_settles.1 _ _ _ decoded with ⟨again, -, -, settled⟩
  exact ⟨decoded, again, settled, by decide⟩

end Message

end Anteroom
