import Anteroom.Text.Decimal

/-!
# Decimal numerals

The digits of a number are read as that number, and they have no zero in front
unless they are that zero alone.  They are the digits that the library writes,
after a minus sign for a negative number.
-/

namespace Anteroom.Decimal

/-- The number of a digit's character. -/
theorem digit?_digit : ∀ d < 10, digit? (digit d) = some d := by
  decide

/-- Numbers from 10 on have a last digit and those before it. -/
theorem digits_of_le {n : Nat} (large : 10 ≤ n) :
    digits n = digits (n / 10) ++ [digit (n % 10)] := by
  rw [digits, if_neg (Nat.not_lt.mpr large)]

theorem digits_of_lt {n : Nat} (small : n < 10) : digits n = [digit n] := by
  rw [digits, if_pos small]

/-- All digits of a number are digits. -/
theorem isSome_digit?_of_mem {n : Nat} {c : Char} (member : c ∈ digits n) :
    (digit? c).isSome = true := by
  induction n using Nat.strongRecOn with
  | ind n ih =>
      rcases Nat.lt_or_ge n 10 with small | large
      · rw [digits_of_lt small, List.mem_singleton] at member
        rw [member, digit?_digit n small]
        rfl
      · rw [digits_of_le large, List.mem_append, List.mem_singleton] at member
        rcases member with before | last
        · exact ih (n / 10) (by omega) before
        · rw [last, digit?_digit _ (Nat.mod_lt n (by decide))]
          rfl

/-- The digits of a number are read as this number. -/
@[simp]
theorem value?_digits (n : Nat) : value? (digits n) = some n := by
  induction n using Nat.strongRecOn with
  | ind n ih =>
      rcases Nat.lt_or_ge n 10 with small | large
      · rw [digits_of_lt small]
        simp [value?, digit?_digit n small]
      · have before := ih (n / 10) (by omega)
        rw [value?] at before
        rw [digits_of_le large, value?, List.foldlM_append, before]
        simp only [Option.bind_eq_bind, Option.bind_some, List.foldlM_cons, List.foldlM_nil,
          digit?_digit _ (Nat.mod_lt n (by decide : 0 < 10)), Option.map_some, Option.pure_def,
          Nat.div_add_mod']

/-- A number has a first digit, which is not zero unless the number is. -/
theorem exists_digits_eq_cons (n : Nat) :
    ∃ first others, digits n = first :: others ∧ (digit? first).isSome = true ∧
      (first = '0' → n = 0) := by
  have digit_eq : ∀ d < 10, digit d = '0' → d = 0 := by decide
  induction n using Nat.strongRecOn with
  | ind n ih =>
      rcases Nat.lt_or_ge n 10 with small | large
      · refine ⟨digit n, [], digits_of_lt small, ?_, digit_eq n small⟩
        rw [digit?_digit n small]
        rfl
      · rcases ih (n / 10) (by omega) with ⟨first, others, run, isDigit, nonzero⟩
        refine ⟨first, others ++ [digit (n % 10)], ?_, isDigit, ?_⟩
        · rw [digits_of_le large, run, List.cons_append]
        · intro zero
          have := nonzero zero
          omega

/-! ## Decimal texts -/

theorem digit_eq_digitChar : ∀ d < 10, digit d = d.digitChar := by
  decide

/-- The digits of a number are those of its library text. -/
theorem digits_eq_toDigits (n : Nat) : digits n = Nat.toDigits 10 n := by
  induction n using Nat.strongRecOn with
  | ind n ih =>
      rcases Nat.lt_or_ge n 10 with small | large
      · rw [digits_of_lt small, Nat.toDigits_of_lt_base small, digit_eq_digitChar n small]
      · have last : n % 10 < 10 := Nat.mod_lt n (by decide)
        rw [digits_of_le large, Nat.toDigits_of_base_le (by decide) large, ih (n / 10) (by omega),
          digit_eq_digitChar _ last]

/-- The decimal text of an integer is its library text. -/
theorem ofInt_eq_toList (n : Int) : ofInt n = (toString n).toList := by
  cases n with
  | ofNat n =>
      rw [ofInt, digits_eq_toDigits]
      exact String.toList_ofList.symm
  | negSucc n =>
      have text : toString (Int.negSucc n) = "-" ++ String.ofList (Nat.toDigits 10 (n + 1)) := rfl
      have minus : "-".toList = ['-'] := rfl
      rw [ofInt, digits_eq_toDigits, text, String.toList_append, minus, String.toList_ofList,
        List.singleton_append]

/-- The decimal text of an integer is made of a minus sign and digits, which come before the
semicolon. -/
theorem toNat_lt_of_mem_ofInt {n : Int} {c : Char} (member : c ∈ ofInt n) : c.toNat < 58 := by
  have digit_lt : ∀ m, c ∈ digits m → c.toNat < 58 := by
    intro m among
    rw [digits_eq_toDigits] at among
    have isDigit := Nat.isDigit_of_mem_toDigits (by decide) (by decide) among
    simp only [Char.isDigit, Bool.and_eq_true, decide_eq_true_eq] at isDigit
    exact Nat.lt_succ_of_le isDigit.2
  cases n with
  | ofNat n => exact digit_lt n member
  | negSucc n =>
      rcases List.mem_cons.mp member with rfl | among
      · decide
      · exact digit_lt (n + 1) among

end Anteroom.Decimal
