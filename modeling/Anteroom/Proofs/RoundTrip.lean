import Anteroom.Proofs.Codec

/-!
# Round trips of offline messages

A reader takes a byte string for a value if it reads the value from these bytes
and leaves whatever follows them.  This is put together as readers are, so a
layout takes the body of a message because each of its fields takes its own
bytes.

The first connection request is the exception: its padding runs to the end of
the datagram, so bytes that follow it count as padding and raise the MTU.
-/

namespace Anteroom

namespace Reader

variable {α β : Type}

/-- The reader takes these bytes for this value, and leaves what follows them. -/
def Takes (reader : Reader α) (bytes : Bytes) (a : α) : Prop :=
  ∀ rest, reader (bytes ++ rest) = .ok a rest

theorem Takes.bind {first : Reader α} {next : α → Reader β} {head tail : Bytes} {a : α} {b : β}
    (begins : first.Takes head a) (goes : (next a).Takes tail b) :
    Takes (first >>= next) (head ++ tail) b := by
  intro rest
  rw [List.append_assoc, bind_of_ok (begins (tail ++ rest))]
  exact goes rest

theorem Takes.map {reader : Reader α} {bytes : Bytes} {a : α} (f : α → β)
    (takes : reader.Takes bytes a) : Takes (do return f (← reader)) bytes (f a) := by
  intro rest
  rw [bind_of_ok (takes rest)]
  rfl

theorem takes_take (field : String) {count : Nat} {bytes : Bytes} (length : bytes.length = count) :
    (take field count).Takes bytes bytes :=
  fun _ => take_eq_ok_iff.mpr ⟨length, rfl⟩

theorem takes_uint8 (field : String) (b : UInt8) : (uint8 field).Takes [b] b :=
  fun _ => uint8_eq_ok_iff.mpr rfl

theorem takes_uint16 (field : String) (n : UInt16) : (uint16 field).Takes (Bytes.ofUInt16 n) n :=
  fun _ => uint16_eq_ok_iff.mpr rfl

theorem takes_int64 (field : String) (n : Int64) : (int64 field).Takes (Bytes.ofInt64 n) n :=
  fun _ => int64_eq_ok_iff.mpr rfl

theorem takes_flag (field : String) (b : Bool) : (flag field).Takes (Bytes.ofFlag b) b := by
  have reads := (takes_uint8 field (if b then 1 else 0)).map (· != 0)
  cases b with
  | true => exact reads
  | false => exact reads

theorem takes_magic : Takes Reader.magic Anteroom.magic () :=
  fun _ => magic_eq_ok_iff.mpr rfl

end Reader

/-! ## Addresses -/

namespace Bytes

theorem toNat_ofUInt16 (n : UInt16) : toNat (ofUInt16 n) = n.toNat := by
  rw [ofUInt16, toNat_ofNat]
  exact Nat.mod_eq_of_lt n.toNat_lt

theorem toNat_ofUInt32 (n : UInt32) : toNat (ofUInt32 n) = n.toNat := by
  rw [ofUInt32, toNat_ofNat]
  exact Nat.mod_eq_of_lt n.toNat_lt

theorem toNat_ofUInt64 (n : UInt64) : toNat (ofUInt64 n) = n.toNat := by
  rw [ofUInt64, toNat_ofNat]
  exact Nat.mod_eq_of_lt n.toNat_lt

theorem length_ofUInt16 (n : UInt16) : (ofUInt16 n).length = 2 :=
  length_ofNat 2 n.toNat

theorem length_ofUInt32 (n : UInt32) : (ofUInt32 n).length = 4 :=
  length_ofNat 4 n.toNat

theorem length_ofUInt64 (n : UInt64) : (ofUInt64 n).length = 8 :=
  length_ofNat 8 n.toNat

end Bytes

namespace Address

open Bytes

/-- The bytes of the host are inverted twice. -/
theorem ofBytes4_append (host : UInt32) (port : UInt16) :
    ofBytes4 (ofUInt32 (~~~host) ++ ofUInt16 port) = v4 host port := by
  rw [ofBytes4, List.take_left' (length_ofUInt32 _), List.drop_left' (length_ofUInt32 _),
    toNat_ofUInt32, toNat_ofUInt16, UInt32.ofNat_toNat, UInt16.ofNat_toNat, UInt32.not_not]

/-- Whatever the two bytes of the family are, they are skipped. -/
theorem ofBytes6_append {family : Bytes} (two : family.length = 2) (upper lower : UInt64)
    (port : UInt16) (flow scope : UInt32) :
    ofBytes6 (family ++ (ofUInt16 port ++ (ofUInt32 flow ++ (ofUInt64 upper ++
      (ofUInt64 lower ++ ofUInt32 scope))))) = v6 upper lower port flow scope := by
  simp only [ofBytes6, List.drop_append, List.take_append, two, length_ofUInt16,
    length_ofUInt32, length_ofUInt64]
  simp [toNat_ofUInt16, toNat_ofUInt32, toNat_ofUInt64, two, length_ofUInt16, length_ofUInt32,
    length_ofUInt64, List.drop_eq_nil_of_le, List.take_of_length_le]

/-- The wire form of an address with these bytes in place of the family. -/
def spelled (family : Bytes) : Address → Bytes
  | v4 host port => 4 :: (ofUInt32 (~~~host) ++ ofUInt16 port)
  | v6 upper lower port flow scope =>
      6 :: (family ++ (ofUInt16 port ++ (ofUInt32 flow ++ (ofUInt64 upper ++
        (ofUInt64 lower ++ ofUInt32 scope)))))

theorem encode_eq_spelled (address : Address) : address.encode = address.spelled [0x17, 0x00] := by
  cases address <;> simp [encode, spelled]

/-- An address is read from its wire form, whatever its family. -/
theorem takes_spelled {family : Bytes} (two : family.length = 2) (address : Address) :
    Reader.Takes read (address.spelled family) address := by
  cases address with
  | v4 host port =>
      have length : (ofUInt32 (~~~host) ++ ofUInt16 port).length = 6 := by
        simp [length_ofUInt32, length_ofUInt16]
      have fields := (Reader.takes_take "ipv4 address" length).map ofBytes4
      rw [ofBytes4_append] at fields
      exact (Reader.takes_uint8 "address version" 4).bind fields
  | v6 upper lower port flow scope =>
      have length : (family ++ (ofUInt16 port ++ (ofUInt32 flow ++ (ofUInt64 upper ++
          (ofUInt64 lower ++ ofUInt32 scope))))).length = 28 := by
        simp [two, length_ofUInt16, length_ofUInt32, length_ofUInt64]
      have fields := (Reader.takes_take "ipv6 address" length).map ofBytes6
      rw [ofBytes6_append two] at fields
      exact (Reader.takes_uint8 "address version" 6).bind fields

/-- An address is read from its wire form. -/
theorem takes_read (address : Address) : Reader.Takes read address.encode address := by
  rw [encode_eq_spelled]
  exact address.takes_spelled rfl

end Address

/-! ## Messages -/

namespace Layout

open Reader

theorem id_injective {layout other : Layout} (same : layout.id = other.id) : layout = other := by
  cases layout <;> cases other <;> first | rfl | cases same

/-- Apart from the first connection request, a message is read from its fields. -/
theorem takes_readBody (message : Message) (bare : message.layout ≠ .openConnectionRequest1) :
    message.layout.readBody.Takes message.body message := by
  cases message with
  | unconnectedPing sendTimestamp clientGuid =>
      simp only [Message.body, List.append_assoc]
      exact (takes_int64 _ sendTimestamp).bind <| takes_magic.bind <|
        (takes_int64 _ clientGuid).map _
  | openConnectionRequest1 protocolVersion mtu => exact absurd rfl bare
  | openConnectionReply1 serverGuid useSecurity mtu =>
      simp only [Message.body, List.append_assoc]
      exact takes_magic.bind <| (takes_int64 _ serverGuid).bind <|
        (takes_flag _ useSecurity).bind <| (takes_uint16 _ mtu).map _
  | incompatibleProtocolVersion protocolVersion serverGuid =>
      simp only [Message.body, List.append_assoc]
      exact (takes_uint8 _ protocolVersion).bind <| takes_magic.bind <|
        (takes_int64 _ serverGuid).map _
  | openConnectionRequest2 serverAddress mtu clientGuid =>
      simp only [Message.body, List.append_assoc]
      exact takes_magic.bind <| serverAddress.takes_read.bind <| (takes_uint16 _ mtu).bind <|
        (takes_int64 _ clientGuid).map _
  | openConnectionReply2 serverGuid clientAddress mtu encryptionEnabled =>
      simp only [Message.body, List.append_assoc]
      exact takes_magic.bind <| (takes_int64 _ serverGuid).bind <|
        clientAddress.takes_read.bind <| (takes_uint16 _ mtu).bind <|
        (takes_flag _ encryptionEnabled).map _

/-- Everything after the version of a first connection request is padding. -/
theorem readBody_openConnectionRequest1 (protocolVersion : UInt8) (padding : Bytes) :
    readBody .openConnectionRequest1 (magic ++ ([protocolVersion] ++ padding)) =
      .ok (.openConnectionRequest1 protocolVersion (Mtu.ofSize (request1Size + padding.length)))
        [] := by
  rw [readBody, bind_of_ok (takes_magic _), bind_of_ok (takes_uint8 _ _ _)]
  rfl

/-- A first connection request is read from the magic and a version, with whatever follows. -/
theorem readBody_openConnectionRequest1_eq_ok_iff {bytes rest : Bytes} {message : Message} :
    readBody .openConnectionRequest1 bytes = .ok message rest ↔
      ∃ protocolVersion padding, bytes = magic ++ ([protocolVersion] ++ padding) ∧
        message = .openConnectionRequest1 protocolVersion
          (Mtu.ofSize (request1Size + padding.length)) ∧ rest = [] := by
  constructor
  · intro reads
    have begins := reads
    simp only [readBody, bind_eq_ok_iff, magic_eq_ok_iff, uint8_eq_ok_iff] at begins
    rcases begins with ⟨_, _, rfl, protocolVersion, padding, rfl, -⟩
    rw [← List.singleton_append, readBody_openConnectionRequest1] at reads
    cases reads
    exact ⟨protocolVersion, padding, rfl, rfl, rfl⟩
  · rintro ⟨protocolVersion, padding, rfl, rfl, rfl⟩
    exact readBody_openConnectionRequest1 protocolVersion padding

/-- A datagram is read as a message whose fields are read after the leading byte. -/
theorem decode_id_cons {layout : Layout} {message : Message} {bytes rest : Bytes}
    (reads : layout.readBody bytes = .ok message rest) :
    layout.decode (layout.id :: bytes) = .ok message := by
  rw [decode, value_eq_ok_iff]
  exact ⟨rest, by rw [bind_of_ok (a := ()) (readId_eq_ok_iff.mpr rfl), reads]⟩

/-- The leading byte of another layout is refused before any field is read. -/
theorem decode_id_cons_of_ne {layout other : Layout} (differ : other ≠ layout) (bytes : Bytes) :
    layout.decode (other.id :: bytes) = .error (.unexpectedPacket layout.id other.id) := by
  have refused : other.id ≠ layout.id := fun same => differ (id_injective same)
  rw [decode, value, bind_of_error (readId_of_ne refused bytes)]

end Layout

namespace Message

/-- Apart from the first connection request, a message is read back from its datagram. -/
theorem decode_encode (message : Message) (bare : message.layout ≠ .openConnectionRequest1) :
    message.layout.decode message.encode = .ok message := by
  have reads := Layout.takes_readBody message bare []
  rw [List.append_nil] at reads
  exact Layout.decode_id_cons reads

/-- A first connection request is as long as its MTU allows, but never shorter than its fields. -/
theorem length_encode_openConnectionRequest1 (protocolVersion : UInt8) (mtu : UInt16) :
    (openConnectionRequest1 protocolVersion mtu).encode.length = max 18 (mtu.toNat - 28) := by
  simp only [encode, body, List.length_cons, List.length_append, List.length_replicate,
    List.length_nil, Mtu.room, headerOverhead, request1Size, magic]
  omega

/-- Bytes that follow a first connection request raise the MTU that is read from it. -/
theorem decode_encode_openConnectionRequest1 (protocolVersion : UInt8) (mtu : UInt16)
    (rest : Bytes) :
    ∃ measured : UInt16, measured.toNat = min 65535 (max 46 mtu.toNat + rest.length) ∧
      Layout.decode .openConnectionRequest1
          ((openConnectionRequest1 protocolVersion mtu).encode ++ rest) =
        .ok (.openConnectionRequest1 protocolVersion measured) := by
  -- The reader cannot tell the padding from what follows it.
  let padding := List.replicate (Mtu.room mtu - request1Size) (0 : UInt8) ++ rest
  refine ⟨Mtu.ofSize (request1Size + padding.length), ?_, ?_⟩
  · rw [Mtu.toNat_ofSize]
    simp only [padding, List.length_append, List.length_replicate, Mtu.room, headerOverhead,
      request1Size]
    omega
  · have wire : (openConnectionRequest1 protocolVersion mtu).encode ++ rest =
        Layout.id .openConnectionRequest1 :: (magic ++ ([protocolVersion] ++ padding)) := by
      simp [encode, layout, body, padding]
    rw [wire]
    exact Layout.decode_id_cons (Layout.readBody_openConnectionRequest1 protocolVersion padding)

/-- Every offline message is read back from its datagram, whatever bytes follow it, and the
reader of its fields leaves exactly these bytes.  The exception is the first connection request:
its datagram is as long as the MTU allows, what follows it raises the MTU that is read, and it
is read back itself exactly if its MTU leaves room for its fields.  No datagram of a message is
read in another layout. -/
theorem round_trip (message : Message) :
    (message.layout ≠ .openConnectionRequest1 → ∀ rest,
      message.layout.decode (message.encode ++ rest) = .ok message ∧
        message.layout.readBody (message.body ++ rest) = .ok message rest) ∧
    (∀ protocolVersion mtu, message = .openConnectionRequest1 protocolVersion mtu →
      message.encode.length = max 18 (mtu.toNat - 28) ∧
      (∀ rest, ∃ measured : UInt16,
        measured.toNat = min 65535 (max 46 mtu.toNat + rest.length) ∧
        message.layout.decode (message.encode ++ rest) =
          .ok (.openConnectionRequest1 protocolVersion measured)) ∧
      (message.layout.decode message.encode = .ok message ↔ 46 ≤ mtu.toNat)) ∧
    ∀ layout, layout ≠ message.layout → ∀ rest,
      layout.decode (message.encode ++ rest) =
        .error (.unexpectedPacket layout.id message.layout.id) := by
  refine ⟨?_, ?_, ?_⟩
  · intro bare rest
    have reads := Layout.takes_readBody message bare rest
    exact ⟨Layout.decode_id_cons reads, reads⟩
  · rintro protocolVersion mtu rfl
    refine ⟨length_encode_openConnectionRequest1 protocolVersion mtu,
      decode_encode_openConnectionRequest1 protocolVersion mtu, ?_⟩
    obtain ⟨measured, size, decoded⟩ :=
      decode_encode_openConnectionRequest1 protocolVersion mtu []
    rw [List.append_nil] at decoded
    rw [List.length_nil, Nat.add_zero] at size
    have small := mtu.toNat_lt
    rw [layout, decoded, Except.ok.injEq, openConnectionRequest1.injEq, and_iff_right rfl,
      ← UInt16.toNat_inj, size]
    omega
  · intro layout differ rest
    exact Layout.decode_id_cons_of_ne differ.symm (message.body ++ rest)

/-- A second reply to an IPv6 peer is read back, a first connection request with an MTU of 40 is
not, and neither is read as the other. -/
theorem round_trip_openConnectionReply2 :
    let reply := openConnectionReply2 7 (.v6 1 2 19132 3 4) 1400 false
    let request := openConnectionRequest1 10 40
    Layout.decode .openConnectionReply2 (reply.encode ++ [9]) = .ok reply ∧
      Layout.decode .openConnectionRequest1 request.encode ≠ .ok request ∧
      Layout.decode .openConnectionRequest1 (reply.encode ++ []) =
        .error (.unexpectedPacket 5 8) := by
  intro reply request
  refine ⟨((round_trip reply).1 (by decide) [9]).1, ?_,
    (round_trip reply).2.2 .openConnectionRequest1 (by decide) []⟩
  intro same
  have room := ((round_trip request).2.1 10 40 rfl).2.2.mp same
  exact absurd room (by decide)

end Message

end Anteroom
