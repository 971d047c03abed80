import Anteroom.Wire.Pong

/-!
# Reading what was written

A reader succeeds exactly on the byte strings that start with what is written
for its value, and leaves the bytes after that.  So a message is read from its
bytes whatever follows them, and from no others.
-/

namespace Anteroom

namespace Reader

variable {α β : Type}

theorem bind_of_ok {first : Reader α} {next : α → Reader β} {bytes rest : Bytes} {a : α}
    (read : first bytes = .ok a rest) : (first >>= next) bytes = next a rest := by
  simp only [Bind.bind, EStateM.bind, read]

theorem bind_of_error {first : Reader α} {next : α → Reader β} {bytes rest : Bytes}
    {e : DecodeError} (failed : first bytes = .error e rest) :
    (first >>= next) bytes = .error e rest := by
  simp only [Bind.bind, EStateM.bind, failed]

theorem bind_eq_ok_iff {first : Reader α} {next : α → Reader β} {bytes last : Bytes} {b : β} :
    (first >>= next) bytes = .ok b last ↔
      ∃ a rest, first bytes = .ok a rest ∧ next a rest = .ok b last := by
  simp only [Bind.bind, EStateM.bind]
  cases first bytes with
  | error e left => simp
  | ok a left =>
      constructor
      · intro goes
        exact ⟨a, left, rfl, goes⟩
      · rintro ⟨_, _, read, goes⟩
        cases read
        exact goes

theorem bind_eq_error_iff {first : Reader α} {next : α → Reader β} {bytes last : Bytes}
    {e : DecodeError} :
    (first >>= next) bytes = .error e last ↔
      first bytes = .error e last ∨
        ∃ a rest, first bytes = .ok a rest ∧ next a rest = .error e last := by
  simp only [Bind.bind, EStateM.bind]
  cases first bytes with
  | error fault left => simp
  | ok a left =>
      constructor
      · intro fails
        exact .inr ⟨a, left, rfl, fails⟩
      · rintro (failed | ⟨_, _, read, fails⟩)
        · cases failed
        · cases read
          exact fails

theorem pure_eq_ok_iff {a b : α} {bytes rest : Bytes} :
    (pure a : Reader α) bytes = .ok b rest ↔ a = b ∧ bytes = rest := by
  simp [Pure.pure, EStateM.pure]

theorem value_eq_ok_iff {reader : Reader α} {bytes : Bytes} {a : α} :
    reader.value bytes = .ok a ↔ ∃ rest, reader bytes = .ok a rest := by
  rw [value]
  cases reader bytes <;> simp

theorem value_eq_error_iff {reader : Reader α} {bytes : Bytes} {e : DecodeError} :
    reader.value bytes = .error e ↔ ∃ rest, reader bytes = .error e rest := by
  rw [value]
  cases reader bytes <;> simp

/-! ## Fields -/

theorem take_eq_ok_iff {field : String} {count : Nat} {bytes taken rest : Bytes} :
    take field count bytes = .ok taken rest ↔ taken.length = count ∧ bytes = taken ++ rest := by
  rw [take]
  constructor
  · intro read
    split at read
    · rename_i enough
      cases read
      exact ⟨List.length_take_of_le enough, (List.take_append_drop count bytes).symm⟩
    · cases read
  · rintro ⟨rfl, rfl⟩
    rw [if_pos (by simp), List.take_left, List.drop_left]

/-- A field that needs more bytes than are left takes none of them. -/
theorem take_eq_error_iff {field : String} {count : Nat} {bytes rest : Bytes} {e : DecodeError} :
    take field count bytes = .error e rest ↔
      bytes.length < count ∧ e = .truncated field count bytes.length ∧ rest = bytes := by
  rw [take]
  by_cases enough : count ≤ bytes.length
  · rw [if_pos enough]
    simp [Nat.not_lt.mpr enough]
  · rw [if_neg enough, EStateM.Result.error.injEq, and_iff_right (Nat.lt_of_not_le enough), eq_comm,
      eq_comm (a := rest)]

theorem nat_eq_ok_iff {field : String} {width n : Nat} {bytes rest : Bytes} :
    nat field width bytes = .ok n rest ↔
      n < Bytes.weight width ∧ bytes = Bytes.ofNat width n ++ rest := by
  rw [nat, bind_eq_ok_iff]
  constructor
  · rintro ⟨taken, left, read, returned⟩
    rcases take_eq_ok_iff.mp read with ⟨rfl, rfl⟩
    rcases pure_eq_ok_iff.mp returned with ⟨rfl, rfl⟩
    exact ⟨taken.toNat_lt, by rw [Bytes.ofNat_toNat]⟩
  · rintro ⟨fits, written⟩
    have read : take field width bytes = .ok (Bytes.ofNat width n) rest :=
      take_eq_ok_iff.mpr ⟨Bytes.length_ofNat width n, written⟩
    refine ⟨Bytes.ofNat width n, rest, read, ?_⟩
    rw [pure_eq_ok_iff, Bytes.toNat_ofNat, Nat.mod_eq_of_lt fits]
    exact ⟨rfl, rfl⟩

/-- A number of a fixed width that is returned as something else without losing any. -/
theorem bind_nat_eq_ok_iff (convert : Nat → α) {number : α → Nat} {field : String} {width : Nat}
    (fits : ∀ a, number a < Bytes.weight width) (back : ∀ a, convert (number a) = a)
    (forth : ∀ n < Bytes.weight width, number (convert n) = n) {a : α} {bytes rest : Bytes} :
    (nat field width >>= fun n => pure (convert n)) bytes = .ok a rest ↔
      bytes = Bytes.ofNat width (number a) ++ rest := by
  rw [bind_eq_ok_iff]
  constructor
  · rintro ⟨n, left, read, returned⟩
    rcases nat_eq_ok_iff.mp read with ⟨small, rfl⟩
    rcases pure_eq_ok_iff.mp returned with ⟨rfl, rfl⟩
    rw [forth n small]
  · rintro rfl
    exact ⟨number a, rest, nat_eq_ok_iff.mpr ⟨fits a, rfl⟩, pure_eq_ok_iff.mpr ⟨back a, rfl⟩⟩

theorem uint8_eq_ok_iff {field : String} {b : UInt8} {bytes rest : Bytes} :
    uint8 field bytes = .ok b rest ↔ bytes = b :: rest := by
  have written : Bytes.ofNat 1 b.toNat = [b] := by simp [Bytes.ofNat, Bytes.weight]
  have forth (m : Nat) (small : m < Bytes.weight 1) : (UInt8.ofNat m).toNat = m :=
    UInt8.toNat_ofNat_of_lt' small
  rw [uint8, bind_nat_eq_ok_iff UInt8.ofNat UInt8.toNat_lt (fun _ => UInt8.ofNat_toNat) forth,
    written]
  rfl

theorem uint16_eq_ok_iff {field : String} {n : UInt16} {bytes rest : Bytes} :
    uint16 field bytes = .ok n rest ↔ bytes = Bytes.ofUInt16 n ++ rest := by
  have forth (m : Nat) (small : m < Bytes.weight 2) : (UInt16.ofNat m).toNat = m :=
    UInt16.toNat_ofNat_of_lt' small
  exact bind_nat_eq_ok_iff UInt16.ofNat UInt16.toNat_lt (fun _ => UInt16.ofNat_toNat) forth

theorem int64_eq_ok_iff {field : String} {n : Int64} {bytes rest : Bytes} :
    int64 field bytes = .ok n rest ↔ bytes = Bytes.ofInt64 n ++ rest := by
  have fits (k : Int64) : k.toUInt64.toNat < Bytes.weight 8 := k.toUInt64.toNat_lt
  have back (k : Int64) : (UInt64.ofNat k.toUInt64.toNat).toInt64 = k := by
    rw [UInt64.ofNat_toNat, k.toInt64_toUInt64]
  have forth (m : Nat) (small : m < Bytes.weight 8) :
      (UInt64.ofNat m).toInt64.toUInt64.toNat = m := by
    rw [UInt64.toUInt64_toInt64, UInt64.toNat_ofNat_of_lt' small]
  exact bind_nat_eq_ok_iff (fun m => (UInt64.ofNat m).toInt64) fits back forth

theorem magic_eq_ok_iff {done : Unit} {bytes rest : Bytes} :
    Reader.magic bytes = .ok done rest ↔ bytes = Anteroom.magic ++ rest := by
  rw [magic]
  cases read : take "magic" 16 bytes with
  | error e left =>
      simp only [reduceCtorEq, false_iff]
      rintro rfl
      have taken : take "magic" 16 (Anteroom.magic ++ rest) = .ok Anteroom.magic rest :=
        take_eq_ok_iff.mpr ⟨rfl, rfl⟩
      rw [read] at taken
      cases taken
  | ok found left =>
      rcases take_eq_ok_iff.mp read with ⟨length, rfl⟩
      simp only
      split
      · rename_i same
        rw [same]
        simp
      · rename_i other
        simp only [reduceCtorEq, false_iff]
        intro same
        exact other (List.append_inj same length).1

end Reader

theorem Layout.readId_eq_ok_iff {id : UInt8} {done : Unit} {bytes rest : Bytes} :
    readId id bytes = .ok done rest ↔ bytes = id :: rest := by
  rw [readId, Reader.bind_eq_ok_iff]
  constructor
  · rintro ⟨found, left, read, checked⟩
    split at checked
    · rename_i same
      cases checked
      rw [← same]
      exact Reader.uint8_eq_ok_iff.mp read
    · cases checked
  · rintro rfl
    exact ⟨id, rest, Reader.uint8_eq_ok_iff.mpr rfl, by rw [if_pos rfl]; rfl⟩

theorem Layout.readId_of_ne {expected leading : UInt8} (other : leading ≠ expected)
    (body : Bytes) :
    readId expected (leading :: body) = .error (.unexpectedPacket expected leading) body := by
  rw [readId, Reader.bind_of_ok (Reader.uint8_eq_ok_iff.mpr rfl), if_neg other]
  rfl

/-! ## Pings -/

theorem Layout.readBody_unconnectedPing_eq_ok_iff {bytes rest : Bytes} {message : Message} :
    readBody .unconnectedPing bytes = .ok message rest ↔
      ∃ sendTimestamp clientGuid, message = .unconnectedPing sendTimestamp clientGuid ∧
        bytes = message.body ++ rest := by
  simp only [readBody, Reader.bind_eq_ok_iff, Reader.int64_eq_ok_iff, Reader.magic_eq_ok_iff,
    Reader.pure_eq_ok_iff]
  constructor
  · rintro ⟨sendTimestamp, _, rfl, _, _, rfl, clientGuid, _, rfl, rfl, rfl⟩
    exact ⟨sendTimestamp, clientGuid, rfl, by simp [Message.body]⟩
  · rintro ⟨sendTimestamp, clientGuid, rfl, rfl⟩
    refine ⟨sendTimestamp, magic ++ (Bytes.ofInt64 clientGuid ++ rest), ?_, (), _, rfl,
      clientGuid, rest, rfl, rfl, rfl⟩
    simp [Message.body]

/-- What is read in a layout has this layout. -/
theorem Layout.layout_of_readBody {layout : Layout} {bytes rest : Bytes} {message : Message}
    (read : layout.readBody bytes = .ok message rest) : message.layout = layout := by
  cases layout with
  | unconnectedPing =>
      rcases readBody_unconnectedPing_eq_ok_iff.mp read with ⟨_, _, rfl, _⟩
      rfl
  | openConnectionRequest1 =>
      simp only [readBody, Reader.bind_eq_ok_iff, Reader.pure_eq_ok_iff] at read
      rcases read with ⟨_, _, _, _, _, _, _, _, _, rfl, _⟩
      rfl
  | openConnectionReply1 =>
      simp only [readBody, Reader.bind_eq_ok_iff, Reader.pure_eq_ok_iff] at read
      rcases read with ⟨_, _, _, _, _, _, _, _, _, _, _, _, rfl, _⟩
      rfl
  | incompatibleProtocolVersion =>
      simp only [readBody, Reader.bind_eq_ok_iff, Reader.pure_eq_ok_iff] at read
      rcases read with ⟨_, _, _, _, _, _, _, _, _, rfl, _⟩
      rfl
  | openConnectionRequest2 =>
      simp only [readBody, Reader.bind_eq_ok_iff, Reader.pure_eq_ok_iff] at read
      rcases read with ⟨_, _, _, _, _, _, _, _, _, _, _, _, rfl, _⟩
      rfl
  | openConnectionReply2 =>
      simp only [readBody, Reader.bind_eq_ok_iff, Reader.pure_eq_ok_iff] at read
      rcases read with ⟨_, _, _, _, _, _, _, _, _, _, _, _, _, _, _, rfl, _⟩
      rfl

theorem Layout.inbound?_eq_unconnectedPing_iff {id : UInt8} :
    inbound? id = some .unconnectedPing ↔ id = 1 ∨ id = 2 := by
  constructor
  · intro inbound
    rw [inbound?] at inbound
    split at inbound
    · assumption
    · split at inbound
      · cases inbound
      · split at inbound <;> cases inbound
  · intro isPing
    exact if_pos isPing

/-- The datagrams that are read as a ping: the leading byte is that of one of the two pings, the
fields follow, and then any bytes. -/
theorem Message.decodeInbound_eq_ping_iff {datagram : Bytes} {sendTimestamp clientGuid : Int64} :
    decodeInbound datagram = .ok (.unconnectedPing sendTimestamp clientGuid) ↔
      ∃ id rest, (id = 1 ∨ id = 2) ∧
        datagram = id :: ((unconnectedPing sendTimestamp clientGuid).body ++ rest) := by
  cases datagram with
  | nil => simp [decodeInbound]
  | cons id body =>
      constructor
      · intro decoded
        rw [decodeInbound] at decoded
        split at decoded
        · rename_i layout inbound
          rcases Reader.value_eq_ok_iff.mp decoded with ⟨rest, read⟩
          obtain rfl : Layout.unconnectedPing = layout := Layout.layout_of_readBody read
          rcases Layout.readBody_unconnectedPing_eq_ok_iff.mp read with ⟨_, _, same, rfl⟩
          cases same
          exact ⟨id, rest, Layout.inbound?_eq_unconnectedPing_iff.mp inbound, rfl⟩
        · cases decoded
      · rintro ⟨leading, rest, isPing, same⟩
        cases same
        rw [decodeInbound, Layout.inbound?_eq_unconnectedPing_iff.mpr isPing]
        exact Reader.value_eq_ok_iff.mpr
          ⟨rest, Layout.readBody_unconnectedPing_eq_ok_iff.mpr ⟨_, _, rfl, rfl⟩⟩

/-! ## Pongs -/

namespace PongFraming

theorem value_read_raw (rest : Bytes) : raw.read.value rest = .ok rest :=
  rfl

theorem value_read_lengthPrefixed {length : Nat} (fits : length < 65536) (rest : Bytes) :
    lengthPrefixed.read.value (Bytes.ofNat 2 length ++ rest) =
      if length ≤ rest.length then .ok (rest.take length)
      else .error (.truncated "pong payload" length rest.length) := by
  have read : Reader.nat "pong payload length" 2 (Bytes.ofNat 2 length ++ rest) =
      .ok length rest := Reader.nat_eq_ok_iff.mpr ⟨fits, rfl⟩
  rw [Reader.value, PongFraming.read, Reader.bind_of_ok read, Reader.take]
  by_cases enough : length ≤ rest.length
  · rw [if_pos enough, if_pos enough]
  · rw [if_neg enough, if_neg enough]

/-- The payload is read back, however it is framed, if its length does not wrap. -/
theorem value_read_encode (framing : PongFraming) {payload : Bytes}
    (fits : payload.length < 65536) :
    framing.read.value (framing.encode payload) = .ok payload := by
  cases framing with
  | raw => exact value_read_raw payload
  | lengthPrefixed =>
      rw [encode, value_read_lengthPrefixed fits, if_pos (Nat.le_refl _), List.take_length]

end PongFraming

namespace Pong

/-- A pong up to its payload. -/
def header (sendTimestamp serverGuid : Int64) : Bytes :=
  PacketId.unconnectedPong.byte ::
    (Bytes.ofInt64 sendTimestamp ++ Bytes.ofInt64 serverGuid ++ magic)

theorem length_header (sendTimestamp serverGuid : Int64) :
    (header sendTimestamp serverGuid).length = 33 := by
  simp [header, Bytes.ofInt64, Bytes.ofUInt64, magic]

theorem encode_eq_header_append (framing : PongFraming) (pong : Pong) :
    encode framing pong =
      header pong.sendTimestamp pong.serverGuid ++ framing.encode pong.payload := by
  simp [encode, header]

/-- What follows the header of a pong decides how its payload is read. -/
theorem decode_header_append (framing : PongFraming) (sendTimestamp serverGuid : Int64)
    (rest : Bytes) :
    decode framing (header sendTimestamp serverGuid ++ rest) =
      (framing.read.value rest).map fun payload => { sendTimestamp, serverGuid, payload } := by
  have split : header sendTimestamp serverGuid ++ rest =
      PacketId.unconnectedPong.byte ::
        (Bytes.ofInt64 sendTimestamp ++ (Bytes.ofInt64 serverGuid ++ (magic ++ rest))) := by
    simp [header]
  rw [decode, Reader.value, read, split,
    Reader.bind_of_ok (a := ()) (Layout.readId_eq_ok_iff.mpr rfl),
    Reader.bind_of_ok (Reader.int64_eq_ok_iff.mpr rfl),
    Reader.bind_of_ok (Reader.int64_eq_ok_iff.mpr rfl),
    Reader.bind_of_ok (a := ()) (Reader.magic_eq_ok_iff.mpr rfl), Reader.value]
  simp only [Bind.bind, EStateM.bind]
  cases framing.read rest <;> rfl

/-- A pong is read back if the length of its payload does not wrap. -/
theorem decode_encode (framing : PongFraming) {pong : Pong} (fits : pong.payload.length < 65536) :
    decode framing (encode framing pong) = .ok pong := by
  rw [encode_eq_header_append, decode_header_append, framing.value_read_encode fits]
  rfl

end Pong

end Anteroom
