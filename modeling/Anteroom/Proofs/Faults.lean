import Anteroom.Proofs.Codec

/-!
# How reading fails

A reader that has begun to read fields fails only on account of one of them:
more bytes are needed than are left, or the bytes are not allowed there.  What
the datagram is as a whole was settled before, by its leading byte.  So the
reason why a datagram is not read tells whether it is an ill-formed message of
the kind asked for, or another message: the two are never mixed up.
-/

namespace Anteroom

/-- A failure on account of a field. -/
inductive DecodeError.OfField : DecodeError → Prop
  | truncated {field : String} {needed remaining : Nat} (short : remaining < needed) :
      OfField (.truncated field needed remaining)
  | invalidMagic : OfField .invalidMagic
  | invalidAddressVersion {version : UInt8} (other : version ≠ 4 ∧ version ≠ 6) :
      OfField (.invalidAddressVersion version)

namespace Reader

variable {α β : Type}

/-- The reader fails only on account of a field. -/
def Fieldwise (reader : Reader α) : Prop :=
  ∀ bytes e rest, reader bytes = .error e rest → e.OfField

theorem fieldwise_pure (a : α) : Fieldwise (pure a) := by
  intro bytes e rest failed
  cases failed

theorem Fieldwise.bind {first : Reader α} {next : α → Reader β} (begins : first.Fieldwise)
    (follows : ∀ a, (next a).Fieldwise) : Fieldwise (first >>= next) := by
  intro bytes e rest failed
  cases read : first bytes with
  | ok a left =>
      rw [bind_of_ok read] at failed
      exact follows a left e rest failed
  | error fault left =>
      rw [bind_of_error read] at failed
      cases failed
      exact begins bytes e rest read

theorem Fieldwise.of_value {reader : Reader α} (fieldwise : reader.Fieldwise) {bytes : Bytes}
    {e : DecodeError} (failed : reader.value bytes = .error e) : e.OfField := by
  rw [value] at failed
  cases read : reader bytes with
  | ok a left =>
      rw [read] at failed
      cases failed
  | error fault left =>
      rw [read] at failed
      cases failed
      exact fieldwise bytes e left read

/-! ## Fields -/

theorem fieldwise_take (field : String) (count : Nat) : (take field count).Fieldwise := by
  intro bytes e rest failed
  rw [take] at failed
  split at failed
  · cases failed
  · rename_i short
    cases failed
    exact .truncated (Nat.lt_of_not_le short)

theorem fieldwise_rest : Fieldwise rest := by
  intro bytes e left failed
  cases failed

theorem fieldwise_nat (field : String) (width : Nat) : (nat field width).Fieldwise :=
  (fieldwise_take field width).bind fun _ => fieldwise_pure _

theorem fieldwise_uint8 (field : String) : (uint8 field).Fieldwise :=
  (fieldwise_nat field 1).bind fun _ => fieldwise_pure _

theorem fieldwise_uint16 (field : String) : (uint16 field).Fieldwise :=
  (fieldwise_nat field 2).bind fun _ => fieldwise_pure _

theorem fieldwise_int64 (field : String) : (int64 field).Fieldwise :=
  (fieldwise_nat field 8).bind fun _ => fieldwise_pure _

theorem fieldwise_flag (field : String) : (flag field).Fieldwise :=
  (fieldwise_uint8 field).bind fun _ => fieldwise_pure _

theorem fieldwise_magic : Fieldwise Reader.magic := by
  intro bytes e rest failed
  rw [magic] at failed
  cases taken : take "magic" 16 bytes with
  | ok found left =>
      rw [taken] at failed
      simp only at failed
      split at failed
      · cases failed
      · cases failed
        exact .invalidMagic
  | error fault left =>
      rw [taken] at failed
      cases failed
      exact fieldwise_take "magic" 16 bytes e rest taken

end Reader

theorem Address.fieldwise_read : Reader.Fieldwise Address.read := by
  refine (Reader.fieldwise_uint8 _).bind ?_
  intro version
  split
  · exact (Reader.fieldwise_take _ 6).bind fun _ => Reader.fieldwise_pure _
  · rename_i not4
    split
    · exact (Reader.fieldwise_take _ 28).bind fun _ => Reader.fieldwise_pure _
    · rename_i not6
      intro bytes e rest failed
      cases failed
      exact .invalidAddressVersion ⟨not4, not6⟩

/-! ## Messages of clients -/

open Reader in
/-- Behind its leading byte, a message is refused only on account of a field. -/
theorem Layout.fieldwise_readBody (layout : Layout) : layout.readBody.Fieldwise := by
  cases layout with
  | unconnectedPing =>
      exact (fieldwise_int64 _).bind fun _ => fieldwise_magic.bind fun _ =>
        (fieldwise_int64 _).bind fun _ => fieldwise_pure _
  | openConnectionRequest1 =>
      exact fieldwise_magic.bind fun _ => (fieldwise_uint8 _).bind fun _ =>
        fieldwise_rest.bind fun _ => fieldwise_pure _
  | openConnectionReply1 =>
      exact fieldwise_magic.bind fun _ => (fieldwise_int64 _).bind fun _ =>
        (fieldwise_flag _).bind fun _ => (fieldwise_uint16 _).bind fun _ => fieldwise_pure _
  | incompatibleProtocolVersion =>
      exact (fieldwise_uint8 _).bind fun _ => fieldwise_magic.bind fun _ =>
        (fieldwise_int64 _).bind fun _ => fieldwise_pure _
  | openConnectionRequest2 =>
      exact fieldwise_magic.bind fun _ => Address.fieldwise_read.bind fun _ =>
        (fieldwise_uint16 _).bind fun _ => (fieldwise_int64 _).bind fun _ => fieldwise_pure _
  | openConnectionReply2 =>
      exact fieldwise_magic.bind fun _ => (fieldwise_int64 _).bind fun _ =>
        Address.fieldwise_read.bind fun _ => (fieldwise_uint16 _).bind fun _ =>
          (fieldwise_flag _).bind fun _ => fieldwise_pure _

/-- Behind the leading byte of a client's message, a datagram is refused only on account of a
field. -/
theorem Message.ofField_of_decodeInbound {leading : UInt8} {body : Bytes} {layout : Layout}
    {e : DecodeError} (inbound : Layout.inbound? leading = some layout)
    (refused : decodeInbound (leading :: body) = .error e) : e.OfField := by
  rw [decodeInbound, inbound] at refused
  exact layout.fieldwise_readBody.of_value refused

/-- A datagram is refused for its leading byte exactly if that is not the one of a client's
message. -/
theorem Message.decodeInbound_eq_unknownPacket_iff {datagram : Bytes} {leading : UInt8} :
    decodeInbound datagram = .error (.unknownPacket leading) ↔
      datagram.head? = some leading ∧ Layout.inbound? leading = none := by
  constructor
  · intro refused
    cases datagram with
    | nil => cases refused
    | cons first body =>
        cases inbound : Layout.inbound? first with
        | none =>
            rw [decodeInbound, inbound] at refused
            cases refused
            exact ⟨rfl, inbound⟩
        | some layout => cases ofField_of_decodeInbound inbound refused
  · rintro ⟨found, foreign⟩
    cases datagram with
    | nil => cases found
    | cons first body =>
        cases found
        rw [decodeInbound, foreign]

/-! ## Pongs -/

theorem PongFraming.fieldwise_read (framing : PongFraming) : framing.read.Fieldwise := by
  cases framing with
  | lengthPrefixed => exact (Reader.fieldwise_nat _ 2).bind fun _ => Reader.fieldwise_take _ _
  | raw => exact Reader.fieldwise_rest

namespace Pong

open Reader in
/-- Behind its leading byte, a pong is refused only on account of a field. -/
theorem ofField_of_decode {framing : PongFraming} {body : Bytes} {e : DecodeError}
    (failed : decode framing (PacketId.unconnectedPong.byte :: body) = .error e) : e.OfField := by
  have begins : Layout.readId PacketId.unconnectedPong.byte
      (PacketId.unconnectedPong.byte :: body) = .ok () body := Layout.readId_eq_ok_iff.mpr rfl
  rw [decode, read, value, bind_of_ok begins] at failed
  refine Fieldwise.of_value ?_ failed
  exact (fieldwise_int64 _).bind fun _ => (fieldwise_int64 _).bind fun _ =>
    fieldwise_magic.bind fun _ => framing.fieldwise_read.bind fun _ => fieldwise_pure _

/-- A datagram with another leading byte is another message, whatever follows. -/
theorem decode_of_ne {framing : PongFraming} {leading : UInt8}
    (other : leading ≠ PacketId.unconnectedPong.byte) (body : Bytes) :
    decode framing (leading :: body) =
      .error (.unexpectedPacket PacketId.unconnectedPong.byte leading) := by
  rw [decode, read, Reader.value, Reader.bind_of_error (Layout.readId_of_ne other body)]

end Pong

end Anteroom
