import Mathlib.Data.List.Nodup
import Anteroom.Session.Registry

/-!
# The table as a map

A table with at most one entry for each address is a map from addresses to
session numbers: its entries are what is found in it, erasing an address makes
nothing found there, and inserting makes the new number found there; all other
addresses keep what they have.  The registered numbers are what is found in it.
-/

namespace Anteroom.Table

/-- No address has two entries. -/
def Unique (table : Table) : Prop :=
  (List.map Prod.fst table).Nodup

theorem unique_nil : Unique [] :=
  List.nodup_nil

theorem mem_of_find? {table : Table} {address : Address} {number : Nat}
    (found : table.find? address = some number) : (address, number) ∈ table := by
  rcases List.lookup_eq_some_iff.mp found with ⟨front, back, rfl, _⟩
  simp

theorem find?_cons (table : Table) (key address : Address) (number : Nat) :
    find? ((key, number) :: table) address =
      if address = key then some number else table.find? address := by
  rw [find?, List.lookup_cons]
  by_cases same : address = key
  · rw [same, beq_self_eq_true, if_pos rfl]
  · rw [beq_false_of_ne same, if_neg same, find?]

/-- What is found in a table is what it has an entry for. -/
theorem find?_eq_some_iff {table : Table} (unique : table.Unique) {address : Address}
    {number : Nat} : table.find? address = some number ↔ (address, number) ∈ table := by
  constructor
  · exact mem_of_find?
  · intro member
    induction table with
    | nil => cases member
    | cons entry others ih =>
        rcases entry with ⟨key, other⟩
        have apart := List.nodup_cons.mp unique
        rw [find?_cons]
        rcases List.mem_cons.mp member with same | member
        · cases same
          exact if_pos rfl
        · rw [if_neg, ih apart.2 member]
          have listed : address ∈ List.map Prod.fst others := List.mem_map_of_mem member
          intro same
          exact apart.1 (same ▸ listed)

theorem mem_numbers_iff {table : Table} (unique : table.Unique) {number : Nat} :
    number ∈ table.numbers ↔ ∃ address, table.find? address = some number := by
  constructor
  · intro member
    rcases List.mem_map.mp member with ⟨⟨address, _⟩, entry, rfl⟩
    exact ⟨address, (find?_eq_some_iff unique).mpr entry⟩
  · rintro ⟨address, found⟩
    exact List.mem_map.mpr ⟨_, mem_of_find? found, rfl⟩

/-- No number is registered twice if none is found under two addresses. -/
theorem nodup_numbers {table : Table} (unique : table.Unique)
    (apart : ∀ {address other : Address} {number : Nat}, table.find? address = some number →
      table.find? other = some number → address = other) : table.numbers.Nodup := by
  have entries : table.Nodup := List.Nodup.of_map _ unique
  apply (List.nodup_map_iff_inj_on entries).mpr
  rintro ⟨address, number⟩ member ⟨other, same⟩ member' rfl
  have found := (find?_eq_some_iff unique).mpr member
  have found' := (find?_eq_some_iff unique).mpr member'
  rw [apart found found']

theorem find?_erase (table : Table) (address other : Address) :
    (table.erase address).find? other = if other = address then none else table.find? other := by
  induction table with
  | nil => simp [erase, find?]
  | cons entry others ih =>
      rcases entry with ⟨key, number⟩
      rw [find?_cons]
      by_cases kept : key = address
      · have erased : erase ((key, number) :: others) address = erase others address := by
          simp [erase, kept]
        rw [erased, ih]
        by_cases same : other = address
        · rw [if_pos same, if_pos same]
        · rw [if_neg same, if_neg same, if_neg (kept ▸ same)]
      · have kept' : erase ((key, number) :: others) address =
            (key, number) :: erase others address := by
          simp [erase, kept]
        rw [kept', find?_cons, ih]
        by_cases same : other = key
        · rw [if_pos same, if_pos same, if_neg (same ▸ kept)]
        · rw [if_neg same, if_neg same]

theorem find?_insert (table : Table) (address other : Address) (number : Nat) :
    (table.insert address number).find? other =
      if other = address then some number else table.find? other := by
  have kept := find?_erase table address other
  have added := find?_cons [] address other number
  rw [find?] at kept added
  rw [insert, find?, List.lookup_append, kept, added]
  by_cases same : other = address
  · rw [if_pos same, if_pos same, if_pos same]
    rfl
  · rw [if_neg same, if_neg same, if_neg same]
    exact Option.or_none

theorem Unique.erase {table : Table} (unique : table.Unique) (address : Address) :
    (table.erase address).Unique :=
  List.Nodup.sublist (List.filter_sublist.map Prod.fst) unique

theorem Unique.insert {table : Table} (unique : table.Unique) (address : Address)
    (number : Nat) : (table.insert address number).Unique := by
  have erased : (List.map Prod.fst (table.erase address)).Nodup := unique.erase address
  have absent : address ∉ List.map Prod.fst (table.erase address) := by
    simp [Table.erase]
  rw [Unique, Table.insert, List.map_append]
  exact List.nodup_append.mpr
    ⟨erased, by simp, fun key member other single same =>
      absent (by
        obtain rfl : other = address := by simpa using single
        exact same ▸ member)⟩

end Anteroom.Table
