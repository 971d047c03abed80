import Anteroom.Pong.Descriptor
import Anteroom.Proofs.Numerals
import Anteroom.Text.Utf8

/-!
# Relayed descriptors

Nothing that a relayed descriptor is put together from has a separator in it,
so it has exactly these fields: six of the descriptor that is relayed, and the
identity of the listener.  Only the last listener of a chain of relays leaves
its identity.
-/

namespace Anteroom.Descriptor

/-- The field of a payload at a place, empty if it has fewer. -/
def field (payload : Bytes) (place : Nat) : Bytes :=
  (payload.splitOn separator).getD place []

/-! ## What a relayed descriptor is put together from -/

theorem firstFields_eq (count : Nat) (given : List Bytes) :
    firstFields count given = (List.range count).map fun place => given.getD place [] := by
  apply List.ext_getElem?
  intro place
  rw [firstFields, List.getElem?_take, List.getElem?_map]
  by_cases within : place < count
  · rw [if_pos within, List.getElem?_range within, Option.map_some, List.getElem?_append,
      List.getD_eq_getElem?_getD]
    by_cases inside : place < given.length
    · rw [if_pos inside, List.getElem?_eq_getElem inside]
      rfl
    · rw [if_neg inside, List.getElem?_replicate, if_pos (by omega),
        List.getElem?_eq_none (Nat.le_of_not_lt inside)]
      rfl
  · rw [if_neg within, List.getElem?_eq_none (by simpa using within), Option.map_none]

/-- The first fields of a payload, by their places. -/
theorem firstFields_fields (payload : Bytes) (count : Nat) :
    firstFields count (fields payload) = (List.range count).map (field payload) := by
  rw [firstFields_eq, fields, Fields.split_eq_splitOn]
  rfl

theorem separator_not_mem_field (payload : Bytes) (place : Nat) :
    separator ∉ field payload place := by
  rw [field, ← Fields.split_eq_splitOn, List.getD_eq_getElem?_getD]
  cases found : (Fields.split separator payload)[place]? with
  | none => exact List.not_mem_nil
  | some given => exact Fields.not_mem_of_mem_split (List.mem_of_getElem? found)

/-- The id of a listener is written as its decimal text. -/
theorem idBytes_eq (id : Int64) : idBytes id = (toString id.toInt).toUTF8.toList := by
  have ascii : ∀ c ∈ Decimal.ofInt id.toInt, c.toNat < 128 := fun c member =>
    Nat.lt_trans (Decimal.toNat_lt_of_mem_ofInt member) (by decide)
  rw [Utf8.toList_toUTF8, ← Decimal.ofInt_eq_toList, Utf8.encode_of_ascii ascii]
  rfl

theorem separator_not_mem_idBytes (id : Int64) : separator ∉ idBytes id := by
  intro member
  rcases List.mem_map.mp member with ⟨c, among, same⟩
  have small := Decimal.toNat_lt_of_mem_ofInt among
  have value : c.toNat % 256 = 59 := by
    rw [← UInt8.toNat_ofNat', same]
    rfl
  omega

theorem marker_eq : marker = "MCPE".toUTF8.toList := by
  rw [Utf8.toList_toUTF8]
  decide

theorem label_eq : label = "Proxy".toUTF8.toList := by
  rw [Utf8.toList_toUTF8]
  decide

/-- Whether a payload is a descriptor is seen from its first field. -/
theorem isDescriptor_iff (payload : Bytes) :
    isDescriptor payload = true ↔ marker <+: field payload 0 := by
  rw [isDescriptor, List.isPrefixOf_iff_prefix,
    Fields.isPrefix_iff (by decide : separator ∉ marker), Fields.split_eq_splitOn]
  rfl

/-! ## The fields of a relayed descriptor -/

theorem relay_of_not_isDescriptor {payload : Bytes} (other : isDescriptor payload = false)
    (id : Int64) : relay payload id = payload := by
  rw [relay, other]
  rfl

theorem relay_of_isDescriptor {payload : Bytes} (descriptor : isDescriptor payload = true)
    (id : Int64) :
    relay payload id =
      Fields.join separator ((List.range 6).map (field payload) ++ [idBytes id, label, []]) := by
  rw [relay, if_pos descriptor, firstFields_fields]
  rfl

/-- A relayed descriptor has the fields that it is put together from. -/
theorem splitOn_relay {payload : Bytes} (descriptor : isDescriptor payload = true) (id : Int64) :
    (relay payload id).splitOn separator =
      (List.range 6).map (field payload) ++ [idBytes id, label, []] := by
  rw [relay_of_isDescriptor descriptor, ← Fields.split_eq_splitOn]
  apply Fields.split_join
  · simp
  · intro given member
    rcases List.mem_append.mp member with kept | own
    · rcases List.mem_map.mp kept with ⟨place, _, rfl⟩
      exact separator_not_mem_field payload place
    · simp only [List.mem_cons, List.not_mem_nil, or_false] at own
      rcases own with rfl | rfl | rfl
      · exact separator_not_mem_idBytes id
      · decide
      · decide

theorem field_relay {payload : Bytes} (descriptor : isDescriptor payload = true) (id : Int64)
    {place : Nat} (kept : place < 6) : field (relay payload id) place = field payload place := by
  have within : place < ((List.range 6).map (field payload)).length := by simpa using kept
  rw [field, splitOn_relay descriptor, List.getD_eq_getElem?_getD,
    List.getElem?_append_left within, List.getElem?_map, List.getElem?_range kept]
  rfl

/-- What is relayed of a descriptor are its first six fields. -/
theorem relay_congr {payload other : Bytes} (descriptor : isDescriptor payload = true)
    (same : ∀ place < 6, field other place = field payload place) (id : Int64) :
    relay other id = relay payload id := by
  have also : isDescriptor other = true := by
    rw [isDescriptor_iff, same 0 (by decide)]
    exact (isDescriptor_iff payload).mp descriptor
  have kept : (List.range 6).map (field other) = (List.range 6).map (field payload) :=
    List.map_congr_left fun place member => same place (List.mem_range.mp member)
  rw [relay_of_isDescriptor also, relay_of_isDescriptor descriptor, kept]

/-- A relayed descriptor is one. -/
theorem isDescriptor_relay {payload : Bytes} (descriptor : isDescriptor payload = true)
    (id : Int64) : isDescriptor (relay payload id) = true := by
  rw [isDescriptor_iff, field_relay descriptor id (by decide)]
  exact (isDescriptor_iff payload).mp descriptor

/-- Relaying a payload again leaves the last identity alone. -/
theorem relay_relay (payload : Bytes) (id later : Int64) :
    relay (relay payload id) later = relay payload later := by
  cases descriptor : isDescriptor payload with
  | false => rw [relay_of_not_isDescriptor descriptor]
  | true => exact relay_congr descriptor (fun _ kept => field_relay descriptor id kept) later

/-- A payload that does not start with `MCPE` is relayed as it is.  A descriptor is relayed with
nine fields: its own first six, empty ones in place of those it lacks, then the decimal text of the
listener's id, `Proxy`, and an empty one; nothing else of it matters.  Of a chain of relays only the
last one leaves its identity. -/
theorem relay_keeps_six_fields (payload : Bytes) (id : Int64) :
    (¬ "MCPE".toUTF8.toList <+: payload → relay payload id = payload) ∧
    ("MCPE".toUTF8.toList <+: payload →
      "MCPE".toUTF8.toList <+: relay payload id ∧
      (relay payload id).splitOn ';'.toUInt8 =
        [field payload 0, field payload 1, field payload 2, field payload 3, field payload 4,
          field payload 5, (toString id.toInt).toUTF8.toList, "Proxy".toUTF8.toList, []] ∧
      ∀ other, (∀ place < 6, field other place = field payload place) →
        relay other id = relay payload id) ∧
    ∀ later, relay (relay payload id) later = relay payload later := by
  simp only [← marker_eq, ← List.isPrefixOf_iff_prefix]
  refine ⟨?_, ?_, relay_relay payload id⟩
  · intro plain
    exact relay_of_not_isDescriptor (Bool.eq_false_iff.mpr plain) id
  · intro descriptor
    refine ⟨isDescriptor_relay descriptor id, ?_, fun other same => relay_congr descriptor same id⟩
    rw [← idBytes_eq, ← label_eq]
    exact splitOn_relay descriptor id

/-- A descriptor of three fields gets empty ones up to the sixth, and a negative id its sign. -/
theorem relay_keeps_six_fields_of_short :
    "MCPE".toUTF8.toList <+: "MCPE;A;1".toUTF8.toList ∧
      (relay "MCPE;A;1".toUTF8.toList (-7)).splitOn ';'.toUInt8 =
        ["MCPE", "A", "1", "", "", "", "-7", "Proxy", ""].map fun text => text.toUTF8.toList := by
  have descriptor : "MCPE".toUTF8.toList <+: "MCPE;A;1".toUTF8.toList := by
    simp only [Utf8.toList_toUTF8]
    decide
  refine ⟨descriptor, ((relay_keeps_six_fields _ (-7)).2.1 descriptor).2.1.trans ?_⟩
  simp only [Utf8.toList_toUTF8]
  decide +kernel

end Anteroom.Descriptor
