/-!
# Fields

A list with separators in it falls into fields: the stretches before, between
and after the separators.  There is one field more than there are separators,
so a field may be empty.  Joining the fields with separators gives the list
back, and fields without a separator in them are those of the list that they
are joined to.
-/

namespace Anteroom.Fields

variable {α : Type} [DecidableEq α]

/-- The stretches of a list between separators. -/
def split (separator : α) : List α → List (List α)
  | [] => [[]]
  | a :: rest =>
      if a = separator then
        [] :: split separator rest
      else
        match split separator rest with
        | field :: others => (a :: field) :: others
        | [] => [[a]]

omit [DecidableEq α] in
/-- Puts fields together, with a separator between neighbours. -/
def join (separator : α) : List (List α) → List α
  | [] => []
  | [field] => field
  | field :: others => field ++ separator :: join separator others

/-- A list always has a field, though it may be empty. -/
theorem split_ne_nil (separator : α) (list : List α) : split separator list ≠ [] := by
  cases list with
  | nil => simp [split]
  | cons a rest =>
      simp only [split]
      split
      · simp
      · split <;> simp

theorem split_cons_self (separator : α) (rest : List α) :
    split separator (separator :: rest) = [] :: split separator rest :=
  if_pos rfl

/-- What is no separator comes first in the first field. -/
theorem split_cons_of_ne {separator a : α} (other : a ≠ separator) (rest : List α) :
    ∃ field others, split separator rest = field :: others ∧
      split separator (a :: rest) = (a :: field) :: others := by
  cases fields : split separator rest with
  | nil => exact absurd fields (split_ne_nil separator rest)
  | cons field others =>
      refine ⟨field, others, rfl, ?_⟩
      rw [split, if_neg other, fields]

/-- The fields of a list are those the library splits it into. -/
theorem split_eq_splitOn (separator : α) (list : List α) :
    split separator list = list.splitOn separator := by
  induction list with
  | nil => rfl
  | cons a rest ih =>
      rw [List.splitOn_cons_eq_if_modifyHead, ← ih]
      by_cases same : a = separator
      · rw [same, split_cons_self, if_pos (beq_self_eq_true separator)]
      · rcases split_cons_of_ne same rest with ⟨field, others, fields, extended⟩
        rw [extended, fields, if_neg (mt beq_iff_eq.mp same)]
        rfl

omit [DecidableEq α] in
theorem join_eq_intercalate (separator : α) (fields : List (List α)) :
    join separator fields = [separator].intercalate fields := by
  fun_induction join separator fields with
  | case1 => rfl
  | case2 field => exact List.intercalate_singleton.symm
  | case3 field others some_field ih =>
      cases others with
      | nil => exact absurd rfl some_field
      | cons next others =>
          rw [ih, List.intercalate_cons_cons, List.append_assoc, List.singleton_append]

omit [DecidableEq α] in
/-- Joined fields have one separator fewer than there are fields. -/
theorem length_join (separator : α) {fields : List (List α)} (some_field : fields ≠ []) :
    (join separator fields).length + 1 = fields.flatten.length + fields.length := by
  fun_induction join separator fields with
  | case1 => exact absurd rfl some_field
  | case2 field => simp
  | case3 field others others_nonempty ih =>
      have behind := ih others_nonempty
      simp only [List.flatten_cons, List.length_append, List.length_cons] at behind ⊢
      omega

/-- Joining the fields of a list gives it back. -/
@[simp]
theorem join_split (separator : α) (list : List α) :
    join separator (split separator list) = list := by
  rw [split_eq_splitOn, join_eq_intercalate, List.intercalate_splitOn]

/-- Fields without a separator in them are those of the list that they are joined to. -/
theorem split_join {separator : α} {fields : List (List α)} (some_field : fields ≠ [])
    (plain : ∀ field ∈ fields, separator ∉ field) :
    split separator (join separator fields) = fields := by
  rw [split_eq_splitOn, join_eq_intercalate, List.splitOn_intercalate separator plain some_field]

/-- No field has a separator in it. -/
theorem not_mem_of_mem_split {separator : α} {list field : List α}
    (member : field ∈ split separator list) : separator ∉ field := by
  induction list generalizing field with
  | nil =>
      rw [List.mem_singleton.mp member]
      exact List.not_mem_nil
  | cons a rest ih =>
      by_cases same : a = separator
      · rw [same, split_cons_self] at member
        rcases List.mem_cons.mp member with rfl | among
        · exact List.not_mem_nil
        · exact ih among
      · rcases split_cons_of_ne same rest with ⟨first, others, fields, extended⟩
        rw [extended] at member
        rw [fields] at ih
        rcases List.mem_cons.mp member with rfl | among
        · rw [List.mem_cons, not_or]
          exact ⟨Ne.symm same, ih List.mem_cons_self⟩
        · exact ih (List.mem_cons_of_mem first among)

/-- What has no separator in it stands in front of a list if it stands in front of its first
field. -/
theorem isPrefix_iff {separator : α} {front : List α} (plain : separator ∉ front)
    (list : List α) : front <+: list ↔ front <+: (split separator list).getD 0 [] := by
  induction front generalizing list with
  | nil => simp
  | cons a front ih =>
      rw [List.mem_cons, not_or] at plain
      cases list with
      | nil => simp [split]
      | cons b rest =>
          by_cases same : b = separator
          · rw [same, split_cons_self]
            simp [Ne.symm plain.1]
          · rcases split_cons_of_ne same rest with ⟨field, others, fields, extended⟩
            rw [extended, List.cons_prefix_cons, ih plain.2, fields]
            simp [List.cons_prefix_cons]

end Anteroom.Fields
