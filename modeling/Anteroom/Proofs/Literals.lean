import Anteroom.Json.Grammar
import Anteroom.Proofs.Numerals
import Mathlib.Data.List.Induction

/-!
# Reading strings and numbers

The parser takes a string up to its closing quote and knows what it stands for,
and it takes a number up to where it can end, both exactly as the grammar has
them.
-/

namespace Anteroom.Json

open Utf8 (Letter)

/-! ## Escapes -/

theorem isHex_lt {c : Char} {n : Nat} (hex : IsHex c n) : n < 16 := by
  rcases hex with lower | upper
  · exact (List.getElem?_eq_some_iff.mp lower).1
  · exact (List.getElem?_eq_some_iff.mp upper).1

/-- The hexadecimal digits are those of the grammar. -/
theorem hexDigit?_eq_some_iff {c : Char} {n : Nat} : Hex.digit? c = some n ↔ IsHex c n := by
  constructor
  · have lower : ∀ k < 16, "0123456789abcdef".toList[k]? = some (Hex.digit k) := by decide
    have upper : ∀ k < 6, "0123456789ABCDEF".toList[10 + k]? = some (Char.ofNat (65 + k)) := by
      decide
    have same := c.ofNat_toNat
    intro digit
    unfold Hex.digit? at digit
    split at digit
    · rename_i range
      have range : 48 ≤ c.toNat ∧ c.toNat ≤ 57 := range
      cases digit
      refine .inl ((lower _ (by omega)).trans ?_)
      rw [Hex.digit, if_pos (by omega), Nat.add_sub_cancel' range.1, same]
    · split at digit
      · rename_i range
        have range : 97 ≤ c.toNat ∧ c.toNat ≤ 102 := range
        cases digit
        refine .inl ((lower _ (by omega)).trans ?_)
        rw [Hex.digit, if_neg (by omega), Nat.add_sub_cancel' (by omega), same]
      · split at digit
        · rename_i range
          have range : 65 ≤ c.toNat ∧ c.toNat ≤ 70 := range
          cases digit
          have letter := upper (c.toNat - 65) (by omega)
          have place : 10 + (c.toNat - 65) = c.toNat - 55 := by omega
          rw [Nat.add_sub_cancel' range.1, same, place] at letter
          exact .inr letter
        · cases digit
  · have lower : ∀ k < 16, "0123456789abcdef".toList[k]?.bind Hex.digit? = some k := by decide
    have upper : ∀ k < 16, "0123456789ABCDEF".toList[k]?.bind Hex.digit? = some k := by decide
    intro hex
    have small := isHex_lt hex
    rcases hex with letter | letter
    · have value := lower n small
      rwa [letter] at value
    · have value := upper n small
      rwa [letter] at value

/-- The short escapes are those of the grammar. -/
theorem escape?_eq_some_iff {e c : Char} : escape? (some e) = some c ↔ (e, c) ∈ shortEscapes := by
  constructor
  · intro escapes
    unfold escape? at escapes
    split at escapes
    case h_9 => cases escapes
    all_goals
      rename_i same
      cases same
      cases escapes
      decide
  · intro names
    simp only [shortEscapes, List.mem_cons, Prod.mk.injEq, List.not_mem_nil, or_false] at names
    rcases names with ⟨rfl, rfl⟩ | ⟨rfl, rfl⟩ | ⟨rfl, rfl⟩ | ⟨rfl, rfl⟩ | ⟨rfl, rfl⟩ |
      ⟨rfl, rfl⟩ | ⟨rfl, rfl⟩ | ⟨rfl, rfl⟩ <;> rfl

/-- The code unit of four digits is that of the grammar. -/
theorem codeUnit?_eq_some_iff {a b c d : Char} {u : Nat} :
    codeUnit? (some a) (some b) (some c) (some d) = some u ↔
      ∃ k l m n, IsHex a k ∧ IsHex b l ∧ IsHex c m ∧ IsHex d n ∧
        ((k * 16 + l) * 16 + m) * 16 + n = u := by
  simp only [codeUnit?, Option.bind_eq_bind, Option.bind_some, Option.bind_eq_some_iff,
    hexDigit?_eq_some_iff, Option.pure_def, Option.some.injEq, exists_and_left]

/-! ## String literals -/

theorem isControl_eq_false_iff {c : Char} : isControl (some c) = false ↔ 0x20 ≤ c.toNat := by
  simp [isControl]

/-- A literal is read up to its closing quote. -/
theorem Spelt.string?_eq {spelled : List Char} {pieces : List Piece}
    (spelt : Spelt spelled pieces) (rest : List Letter) :
    string? (spelled.map some ++ some '"' :: rest) = some (pieces, rest) := by
  induction spelt with
  | nil => rfl
  | plain unquoted unescaped uncontrolled _ ih =>
      have shows := isControl_eq_false_iff.mpr uncontrolled
      simp [string?, ih, unquoted, unescaped, shows]
  | @short e c text pieces names _ ih =>
      have other : e ≠ 'u' := by
        rintro rfl
        exact absurd names (by simp [shortEscapes])
      have named := escape?_eq_some_iff.mpr names
      simp [string?, ih, other, named]
  | unit first second third fourth _ ih =>
      have unit := codeUnit?_eq_some_iff.mpr ⟨_, _, _, _, first, second, third, fourth, rfl⟩
      simp [string?, ih, unit]

/-- What is read as a literal is one. -/
theorem exists_spelt {text : List Char} {pieces : List Piece} {rest : List Letter}
    (read : string? (text.map some) = some (pieces, rest)) :
    ∃ spelled after, text = spelled ++ '"' :: after ∧ rest = after.map some ∧
      Spelt spelled pieces := by
  generalize whole : text.map some = letters at read
  fun_induction string? letters generalizing text pieces with
  | case1 => cases read
  | case2 =>
      obtain ⟨c, after, rfl, quote, others⟩ := List.map_eq_cons_iff.mp whole
      cases quote
      cases read
      exact ⟨[], after, rfl, others.symm, .nil⟩
  | case3 a b c d others ih =>
      simp only [List.map_eq_cons_iff, Option.some.injEq] at whole
      obtain ⟨_, _, rfl, rfl, _, _, rfl, rfl, a, _, rfl, rfl, b, _, rfl, rfl, c, _, rfl, rfl, d,
        text, rfl, rfl, whole⟩ := whole
      simp only [Option.bind_eq_bind, Option.bind_eq_some_iff, Option.pure_def, Option.some.injEq,
        Prod.mk.injEq] at read
      obtain ⟨u, unit, ⟨pieces, _⟩, read, rfl, rfl⟩ := read
      obtain ⟨k, l, m, n, first, second, third, fourth, rfl⟩ := codeUnit?_eq_some_iff.mp unit
      obtain ⟨spelled, after, rfl, rest, spelt⟩ := ih whole read
      exact ⟨_, after, rfl, rest, .unit first second third fourth spelt⟩
  | case4 e others _ ih =>
      simp only [List.map_eq_cons_iff, Option.some.injEq] at whole
      obtain ⟨_, _, rfl, rfl, e, text, rfl, rfl, whole⟩ := whole
      simp only [Option.bind_eq_bind, Option.bind_eq_some_iff, Option.pure_def, Option.some.injEq,
        Prod.mk.injEq] at read
      obtain ⟨c, names, ⟨pieces, _⟩, read, rfl, rfl⟩ := read
      obtain ⟨spelled, after, rfl, rest, spelt⟩ := ih whole read
      exact ⟨_, after, rfl, rest, .short (escape?_eq_some_iff.mp names) spelt⟩
  | case5 => cases read
  | case6 letter others unquoted _ unescaped shows ih =>
      obtain ⟨c, text, rfl, same, others_eq⟩ := List.map_eq_cons_iff.mp whole
      cases same
      simp only [Option.bind_eq_bind, Option.bind_eq_some_iff, Option.pure_def, Option.some.injEq,
        Prod.mk.injEq] at read
      obtain ⟨⟨pieces, _⟩, read, rfl, rfl⟩ := read
      obtain ⟨spelled, after, rfl, rest, spelt⟩ := ih others_eq read
      have other : c ≠ '\\' := by
        rintro rfl
        cases others with
        | nil => cases read
        | cons e more => exact unescaped e more rfl rfl
      have uncontrolled := isControl_eq_false_iff.mp (Bool.eq_false_iff.mpr shows)
      exact ⟨_, after, rfl, rest, .plain (fun quote => unquoted (quote ▸ rfl)) other uncontrolled
        spelt⟩

/-! ## What a literal stands for -/

/-- The code units of a literal are below 2 ^ 16. -/
theorem Spelt.unit_lt {spelled : List Char} {pieces : List Piece} (spelt : Spelt spelled pieces)
    {u : Nat} (member : .unit u ∈ pieces) : u < 0x10000 := by
  induction spelt with
  | nil => cases member
  | plain _ _ _ _ ih => exact ih (by simpa using member)
  | short _ _ ih => exact ih (by simpa using member)
  | unit first second third fourth _ ih =>
      rcases List.mem_cons.mp member with same | others
      · cases same
        have := isHex_lt first
        have := isHex_lt second
        have := isHex_lt third
        have := isHex_lt fourth
        omega
      · exact ih others

theorem toNat_ofNat {n : Nat} (valid : n.isValidChar) : (Char.ofNat n).toNat = n := by
  rw [Char.ofNat, dif_pos valid]
  rfl

theorem textOf_letter (c : Char) (pieces : List Piece) :
    textOf (.letter (some c) :: pieces) = (textOf pieces).bind fun text => some (c :: text) :=
  rfl

theorem textOf_unit {u : Nat} (unpaired : u < 0xd800 ∨ 0xe000 ≤ u) (pieces : List Piece) :
    textOf (.unit u :: pieces) = (textOf pieces).map (Char.ofNat u :: ·) := by
  have leading : isLeading u = false := by
    rw [isLeading, Bool.and_eq_false_iff, decide_eq_false_iff_not, decide_eq_false_iff_not]
    omega
  have trailing : isTrailing u = false := by
    rw [isTrailing, Bool.and_eq_false_iff, decide_eq_false_iff_not, decide_eq_false_iff_not]
    omega
  rw [textOf.eq_def]
  simp [leading, trailing]

theorem textOf_pair {high low : Nat} (highBits : high < 0x400) (lowBits : low < 0x400)
    (pieces : List Piece) :
    textOf (.unit (0xd800 + high) :: .unit (0xdc00 + low) :: pieces) =
      (textOf pieces).map (Char.ofNat (0x10000 + high * 0x400 + low) :: ·) := by
  have leading : isLeading (0xd800 + high) = true := by
    rw [isLeading, Bool.and_eq_true, decide_eq_true_eq, decide_eq_true_eq]
    omega
  have trailing : isTrailing (0xdc00 + low) = true := by
    rw [isTrailing, Bool.and_eq_true, decide_eq_true_eq, decide_eq_true_eq]
    omega
  have step (a b : Nat) : textOf (.unit a :: .unit b :: pieces) =
      if isLeading a then if isTrailing b then (textOf pieces).map (pairChar a b :: ·) else none
      else if isTrailing a then none
      else (textOf (.unit b :: pieces)).map (Char.ofNat a :: ·) :=
    rfl
  rw [step, if_pos leading, if_pos trailing, pairChar, Nat.add_sub_cancel_left,
    Nat.add_sub_cancel_left]

/-- The parser finds the text that a literal stands for. -/
theorem StandsFor.textOf_eq {pieces : List Piece} {text : List Char}
    (stands : StandsFor pieces text) : textOf pieces = some text := by
  induction stands with
  | nil => rfl
  | letter _ ih =>
      rw [textOf_letter, ih]
      rfl
  | @unit c pieces text _ ih =>
      have valid : c.toNat.isValidChar := c.valid
      rw [textOf_unit (by omega), ih, c.ofNat_toNat]
      rfl
  | @pair c high low pieces text highBits lowBits code _ ih =>
      rw [textOf_pair highBits lowBits, ih, ← code, c.ofNat_toNat]
      rfl

/-- The parser finds no other text. -/
theorem standsFor_of_textOf {pieces : List Piece} {text : List Char}
    (units : ∀ u, .unit u ∈ pieces → u < 0x10000) (means : textOf pieces = some text) :
    StandsFor pieces text := by
  fun_induction textOf pieces generalizing text with
  | case1 =>
      cases means
      exact .nil
  | case2 letter pieces ih =>
      simp only [Option.bind_eq_bind, Option.bind_eq_some_iff, Option.pure_def,
        Option.some.injEq] at means
      obtain ⟨c, rfl, text, means, rfl⟩ := means
      exact .letter (ih (fun u member => units u (List.mem_cons_of_mem _ member)) means)
  | case3 u leading v pieces trailing ih =>
      obtain ⟨text, read, rfl⟩ := Option.map_eq_some_iff.mp means
      have rest := ih (fun u member => units u (by simp [member])) read
      rw [isLeading, Bool.and_eq_true, decide_eq_true_eq, decide_eq_true_eq] at leading
      rw [isTrailing, Bool.and_eq_true, decide_eq_true_eq, decide_eq_true_eq] at trailing
      obtain ⟨high, rfl⟩ := Nat.exists_eq_add_of_le leading.1
      obtain ⟨low, rfl⟩ := Nat.exists_eq_add_of_le trailing.1
      refine .pair (by omega) (by omega) ?_ rest
      rw [pairChar, toNat_ofNat]
      · omega
      · right; omega
  | case4 | case5 | case6 => cases means
  | case7 u pieces leading trailing ih =>
      obtain ⟨text, read, rfl⟩ := Option.map_eq_some_iff.mp means
      have rest := ih (fun u member => units u (List.mem_cons_of_mem _ member)) read
      have small := units u List.mem_cons_self
      have valid : u.isValidChar := by
        simp only [isLeading, isTrailing, Bool.and_eq_true, decide_eq_true_eq] at leading trailing
        rw [Nat.isValidChar]
        omega
      have unit := StandsFor.unit rest (c := Char.ofNat u)
      rwa [toNat_ofNat valid] at unit

/-- What a literal stands for is the text of its pieces, if they have one. -/
theorem Spelt.isString_iff {spelled : List Char} {pieces : List Piece}
    (spelt : Spelt spelled pieces) {meaning : Option (List Char)} :
    IsString spelled meaning ↔ meaning = textOf pieces := by
  have stands (text : List Char) : textOf pieces = some text ↔ StandsFor pieces text :=
    ⟨standsFor_of_textOf fun _ => spelt.unit_lt, StandsFor.textOf_eq⟩
  constructor
  · rintro ⟨others, again, means⟩
    have same := again.string?_eq []
    rw [spelt.string?_eq] at same
    cases same
    refine Option.ext fun text => ?_
    rw [means, stands]
  · rintro rfl
    exact ⟨pieces, spelt, stands⟩

/-! ## Numbers -/

/-- Whether a letter may follow a number. -/
def endsNumber (letter : Letter) : Bool :=
  !isDigit letter && letter != some '.' && letter != some 'e' && letter != some 'E'

/-- Whether a number may stand in front of a text. -/
def Ends (rest : List Letter) : Prop :=
  ∀ letter ∈ rest.head?, endsNumber letter = true

theorem ends_cons {letter : Letter} (ends : endsNumber letter = true) (rest : List Letter) :
    Ends (letter :: rest) := by
  intro first member
  cases member
  exact ends

theorem isDigit_iff {c : Char} : isDigit (some c) = true ↔ '0' ≤ c ∧ c ≤ '9' := by
  simp [isDigit, Decimal.digit?, Option.any]

/-- The digits of a number are a run without leading zeros. -/
theorem isWhole_digits (n : Nat) : IsWhole (Decimal.digits n) := by
  rcases Decimal.exists_digits_eq_cons n with ⟨first, others, run, _, nonzero⟩
  refine ⟨⟨run ▸ List.cons_ne_nil _ _, ?_⟩, ?_⟩
  · intro c member
    exact isDigit_iff.mp (Decimal.isSome_digit?_of_mem member)
  · intro zero
    rw [run] at zero
    cases zero
    rw [nonzero rfl]
    exact Decimal.digits_of_lt (by decide)

/-- A run without leading zeros is a number in decimal. -/
theorem IsWhole.exists_eq_digits {digits : List Char} (whole : IsWhole digits) :
    ∃ n, digits = Decimal.digits n := by
  -- The digits of a number are those of its tenth and one more, hence the induction from the end.
  induction digits using List.reverseRecOn with
  | nil => exact absurd rfl whole.1.1
  | append_singleton init c ih =>
      obtain ⟨⟨_, all⟩, nonzero⟩ := whole
      have range : 48 ≤ c.toNat ∧ c.toNat ≤ 57 := all c (by simp)
      have last : c = Decimal.digit (c.toNat - 48) := by
        rw [Decimal.digit, Nat.add_sub_cancel' range.1, c.ofNat_toNat]
      cases init with
      | nil =>
          refine ⟨c.toNat - 48, ?_⟩
          rw [Decimal.digits_of_lt (by omega), ← last]
          rfl
      | cons first others =>
          have positive : first ≠ '0' := by
            rintro rfl
            cases others <;> cases nonzero rfl
          obtain ⟨n, before⟩ := ih ⟨⟨List.cons_ne_nil _ _, fun d member =>
            all d (List.mem_append_left _ member)⟩,
            fun zero => absurd (Option.some.inj zero) positive⟩
          have large : 0 < n := by
            by_contra none
            rw [Nat.eq_zero_of_not_pos none, Decimal.digits_of_lt (by decide)] at before
            cases before
            exact positive rfl
          refine ⟨n * 10 + (c.toNat - 48), ?_⟩
          have front : (n * 10 + (c.toNat - 48)) / 10 = n := by omega
          have back : (n * 10 + (c.toNat - 48)) % 10 = c.toNat - 48 := by omega
          rw [Decimal.digits_of_le (by omega), before, front, back, ← last]

/-- What follows does not go on a run of digits. -/
def Stops (rest : List Letter) : Prop :=
  ∀ letter ∈ rest.head?, isDigit letter = false

theorem Ends.stops {rest : List Letter} (ends : Ends rest) : Stops rest := by
  intro letter member
  have follows := ends letter member
  simp only [endsNumber, Bool.and_eq_true, Bool.not_eq_true'] at follows
  exact follows.1.1.1

/-- A run of digits is read to its end. -/
theorem IsRun.digits?_eq {digits : List Char} (run : IsRun digits) {rest : List Letter}
    (stops : Stops rest) : digits? (digits.map some ++ rest) = some (digits, rest) := by
  have digit : ∀ letter ∈ digits.map some, isDigit letter = true := by
    intro letter member
    obtain ⟨c, among, rfl⟩ := List.mem_map.mp member
    exact isDigit_iff.mpr (run.2 c among)
  have stop : rest.takeWhile isDigit = [] ∧ rest.dropWhile isDigit = rest := by
    cases rest with
    | nil => exact ⟨rfl, rfl⟩
    | cons letter others => simp [stops letter rfl]
  rw [digits?, List.takeWhile_append_of_pos digit, List.dropWhile_append_of_pos digit, stop.1,
    stop.2, List.append_nil, List.filterMap_map, Function.id_comp, List.filterMap_some]
  cases digits with
  | nil => exact absurd rfl run.1
  | cons first others => rfl

theorem exists_run {text digits : List Char} {rest : List Letter}
    (read : digits? (text.map some) = some (digits, rest)) :
    ∃ after, text = digits ++ after ∧ rest = after.map some ∧ IsRun digits := by
  rw [digits?, List.takeWhile_map, List.dropWhile_map, List.filterMap_map, Function.id_comp,
    List.filterMap_some] at read
  split at read
  · cases read
  · rename_i some_digit
    cases read
    refine ⟨_, List.takeWhile_append_dropWhile.symm, rfl, some_digit, ?_⟩
    intro c member
    exact isDigit_iff.mp (List.all_eq_true.mp List.all_takeWhile c member)

theorem IsWhole.wholePart?_eq {digits : List Char} (whole : IsWhole digits) {rest : List Letter}
    (stops : Stops rest) : wholePart? (digits.map some ++ rest) = some (digits, rest) := by
  have run := whole.1.digits?_eq stops
  unfold wholePart?
  split
  · rename_i others same
    cases digits with
    | nil => exact absurd rfl whole.1.1
    | cons first more =>
        cases same
        cases whole.2 rfl
        rfl
  · exact run

theorem exists_whole {text digits : List Char} {rest : List Letter}
    (read : wholePart? (text.map some) = some (digits, rest)) :
    ∃ after, text = digits ++ after ∧ rest = after.map some ∧ IsWhole digits := by
  unfold wholePart? at read
  split at read
  · rename_i others same
    obtain ⟨c, after, rfl, zero, rfl⟩ := List.map_eq_cons_iff.mp same
    cases zero
    cases read
    exact ⟨after, rfl, rfl, ⟨List.cons_ne_nil _ _, by simp⟩, fun _ => rfl⟩
  · rename_i nonzero
    obtain ⟨after, rfl, rfl, run⟩ := exists_run read
    refine ⟨after, rfl, rfl, run, fun zero => ?_⟩
    obtain ⟨others, rfl⟩ := List.head?_eq_some_iff.mp zero
    exact absurd rfl (nonzero _)

/-- A fraction is read to its end. -/
theorem IsFraction.fraction?_eq {fraction : List Char} (isFraction : IsFraction fraction)
    {rest : List Letter} (stops : Stops rest) (ends : rest.head? ≠ some (some '.')) :
    fraction? (fraction.map some ++ rest) = some (!fraction.isEmpty, rest) := by
  cases isFraction with
  | absent =>
      unfold fraction?
      split
      · rename_i same
        exact absurd (congrArg List.head? same) ends
      · rfl
  | given run => simp [fraction?, run.digits?_eq stops]

theorem exists_fraction {text : List Char} {given : Bool} {rest : List Letter}
    (read : fraction? (text.map some) = some (given, rest)) :
    ∃ fraction after, text = fraction ++ after ∧ rest = after.map some ∧ IsFraction fraction ∧
      given = !fraction.isEmpty := by
  unfold fraction? at read
  split at read
  · rename_i others same
    obtain ⟨c, after, rfl, point, rfl⟩ := List.map_eq_cons_iff.mp same
    cases point
    obtain ⟨⟨digits, _⟩, read, done⟩ := Option.map_eq_some_iff.mp read
    cases done
    obtain ⟨after, rfl, rfl, run⟩ := exists_run read
    exact ⟨'.' :: digits, after, rfl, rfl, .given run, rfl⟩
  · cases read
    exact ⟨[], text, rfl, rfl, .absent, rfl⟩

theorem IsExponent.exponent?_eq {exponent : List Char} (isExponent : IsExponent exponent)
    {rest : List Letter} (ends : Ends rest) :
    exponent? (exponent.map some ++ rest) = some (!exponent.isEmpty, rest) := by
  cases isExponent with
  | absent =>
      unfold exponent?
      split
      · rename_i same
        exact absurd (ends _ (congrArg List.head? same)) (by decide)
      · rename_i same
        exact absurd (ends _ (congrArg List.head? same)) (by decide)
      · rfl
  | @given e sign digits letter signed run =>
      have after : afterSign ((sign ++ digits).map some ++ rest) = digits.map some ++ rest := by
        cases digits with
        | nil => exact absurd rfl run.1
        | cons first others =>
            have range := run.2 first List.mem_cons_self
            simp only [List.mem_cons, List.not_mem_nil, or_false] at signed
            rcases signed with rfl | rfl | rfl
            · unfold afterSign
              split
              · rename_i same
                cases same
                exact absurd range (by decide)
              · rename_i same
                cases same
                exact absurd range (by decide)
              · rfl
            · rfl
            · rfl
      have read := run.digits?_eq ends.stops
      simp only [List.mem_cons, List.not_mem_nil, or_false] at letter
      rcases letter with rfl | rfl
      · simp only [List.map_cons, List.cons_append, exponent?, after, read]
        rfl
      · simp only [List.map_cons, List.cons_append, exponent?, after, read]
        rfl

theorem exists_exponent {text : List Char} {given : Bool} {rest : List Letter}
    (read : exponent? (text.map some) = some (given, rest)) :
    ∃ exponent after, text = exponent ++ after ∧ rest = after.map some ∧ IsExponent exponent ∧
      given = !exponent.isEmpty := by
  have signed (others : List Char) : ∃ sign ∈ [[], ['+'], ['-']], ∃ more,
      others = sign ++ more ∧ afterSign (others.map some) = more.map some := by
    unfold afterSign
    split
    · rename_i same
      obtain ⟨c, more, rfl, plus, rfl⟩ := List.map_eq_cons_iff.mp same
      cases plus
      exact ⟨['+'], by simp, more, rfl, rfl⟩
    · rename_i same
      obtain ⟨c, more, rfl, minus, rfl⟩ := List.map_eq_cons_iff.mp same
      cases minus
      exact ⟨['-'], by simp, more, rfl, rfl⟩
    · exact ⟨[], by simp, others, rfl, rfl⟩
  have given_of {e : Char} (letter : e ∈ ['e', 'E']) {others : List Char}
      (read : (digits? (afterSign (others.map some))).map (fun run => (true, run.2)) =
        some (given, rest)) :
      ∃ exponent after, e :: others = exponent ++ after ∧ rest = after.map some ∧
        IsExponent exponent ∧ given = !exponent.isEmpty := by
    obtain ⟨sign, among, more, rfl, after_sign⟩ := signed others
    rw [after_sign] at read
    obtain ⟨⟨digits, _⟩, readDigits, done⟩ := Option.map_eq_some_iff.mp read
    cases done
    obtain ⟨after, rfl, rfl, run⟩ := exists_run readDigits
    exact ⟨e :: (sign ++ digits), after, by simp, rfl, .given letter among run, rfl⟩
  unfold exponent? at read
  split at read
  · rename_i others same
    obtain ⟨c, after, rfl, e, rfl⟩ := List.map_eq_cons_iff.mp same
    cases e
    exact given_of (by simp) read
  · rename_i others same
    obtain ⟨c, after, rfl, e, rfl⟩ := List.map_eq_cons_iff.mp same
    cases e
    exact given_of (by simp) read
  · cases read
    exact ⟨[], text, rfl, rfl, .absent, rfl⟩

/-- What may follow the whole part of a number does not go on its digits. -/
theorem IsExponent.stops {exponent : List Char} (isExponent : IsExponent exponent)
    {rest : List Letter} (ends : Ends rest) :
    Stops (exponent.map some ++ rest) ∧ (exponent.map some ++ rest).head? ≠ some (some '.') := by
  cases isExponent with
  | absent =>
      refine ⟨ends.stops, fun point => ?_⟩
      exact absurd (ends _ point) (by decide)
  | @given e sign digits letter signed run =>
      simp only [List.mem_cons, List.not_mem_nil, or_false] at letter
      constructor
      · intro first member
        cases member
        rcases letter with rfl | rfl <;> decide
      · intro point
        cases point
        exact absurd letter (by decide)

theorem IsFraction.stops {fraction : List Char} (isFraction : IsFraction fraction)
    {rest : List Letter} (stops : Stops rest) : Stops (fraction.map some ++ rest) := by
  cases isFraction with
  | absent => exact stops
  | given =>
      intro first member
      cases member
      decide

theorem number?_parts {sign digits fraction exponent : List Char} (signed : sign ∈ [[], ['-']])
    (whole : IsWhole digits) (hasFraction : IsFraction fraction)
    (hasExponent : IsExponent exponent) {rest : List Letter} (ends : Ends rest) :
    number? ((sign ++ (digits ++ (fraction ++ exponent))).map some ++ rest) =
      some (if sign ≠ [] ∨ fraction ≠ [] ∨ exponent ≠ [] then none else Decimal.value? digits,
        rest) := by
  obtain ⟨stops, point⟩ := hasExponent.stops ends
  have readWhole := whole.wholePart?_eq (hasFraction.stops stops)
  have readFraction := hasFraction.fraction?_eq stops point
  have readExponent := hasExponent.exponent?_eq ends
  simp only [List.mem_cons, List.not_mem_nil, or_false] at signed
  simp only [List.map_append, List.append_assoc]
  rcases signed with rfl | rfl
  · have unsigned : (digits.map some ++ (fraction.map some ++ (exponent.map some ++ rest))).head? ≠
        some (some '-') := by
      cases digits with
      | nil => exact absurd rfl whole.1.1
      | cons first others =>
          intro minus
          cases minus
          exact absurd (whole.1.2 '-' List.mem_cons_self) (by decide)
    simp only [number?, List.map_nil, List.nil_append, unsigned, decide_false, if_false, readWhole,
      readFraction, readExponent, Option.bind_eq_bind, Option.bind_some, Option.pure_def]
    simp
  · simp [number?, readWhole, readFraction, readExponent]

/-- A number is read up to where it can end. -/
theorem IsNumber.number?_eq {text : List Char} {whole : Option Nat} (number : IsNumber text whole)
    {rest : List Letter} (ends : Ends rest) :
    number? (text.map some ++ rest) = some (whole, rest) := by
  cases number with
  | whole n =>
      have read :=
        number?_parts (by simp : [] ∈ [[], ['-']]) (isWhole_digits n) .absent .absent ends
      simpa using read
  | other signed whole hasFraction hasExponent more =>
      rw [number?_parts signed whole hasFraction hasExponent ends, if_pos more]

/-- What is read as a number is one. -/
theorem exists_number {text : List Char} {whole : Option Nat} {rest : List Letter}
    (read : number? (text.map some) = some (whole, rest)) :
    ∃ number after, text = number ++ after ∧ rest = after.map some ∧ IsNumber number whole := by
  have signed : ∃ sign ∈ [[], ['-']], ∃ others, text = sign ++ others ∧
      decide ((text.map some).head? = some (some '-')) = !sign.isEmpty ∧
      (if (text.map some).head? = some (some '-') then (text.map some).tail else text.map some) =
        others.map some := by
    cases text with
    | nil => exact ⟨[], by simp, [], rfl, by simp, by simp⟩
    | cons c others =>
        by_cases minus : c = '-'
        · exact ⟨['-'], by simp, others, by simp [minus], by simp [minus], by simp [minus]⟩
        · exact ⟨[], by simp, c :: others, rfl, by simp [minus], by simp [minus]⟩
  obtain ⟨sign, among, others, rfl, negative, unsigned⟩ := signed
  simp only [number?, unsigned, negative, Option.bind_eq_bind, Option.bind_eq_some_iff,
    Option.pure_def, Option.some.injEq, Prod.mk.injEq] at read
  obtain ⟨⟨digits, _⟩, readWhole, ⟨_, _⟩, readFraction, ⟨_, _⟩, readExponent, rfl, rfl⟩ := read
  obtain ⟨_, rfl, rfl, isWhole⟩ := exists_whole readWhole
  obtain ⟨fraction, _, rfl, rfl, isFraction, rfl⟩ := exists_fraction readFraction
  obtain ⟨exponent, after, rfl, rfl, isExponent, rfl⟩ := exists_exponent readExponent
  refine ⟨sign ++ (digits ++ (fraction ++ exponent)), after, by simp, rfl, ?_⟩
  split
  · rename_i more
    exact .other among isWhole isFraction isExponent (by simpa [or_assoc] using more)
  · rename_i plain
    simp only [Bool.or_eq_true, Bool.not_eq_true', List.isEmpty_eq_false_iff, not_or,
      not_not] at plain
    obtain ⟨⟨rfl, rfl⟩, rfl⟩ := plain
    obtain ⟨n, rfl⟩ := isWhole.exists_eq_digits
    simpa using IsNumber.whole n

end Anteroom.Json
