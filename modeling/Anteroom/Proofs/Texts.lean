import Anteroom.Proofs.Literals
import Mathlib.Data.List.DropRight

/-!
# Reading JSON texts

The parser reads a text as a value exactly if the grammar has it written for
that value.  A text that is written for a value is taken from the front of
whatever the parser is given, as long as what follows cannot go on a number;
and what the parser has taken is written for the value it gives.
-/

namespace Anteroom.Json

open Utf8 (Letter)

/-! ## Blanks -/

theorem isBlank_iff {c : Char} : isBlank (some c) = true ↔ c ∈ [' ', '\t', '\n', '\r'] := by
  simp [isBlank, or_assoc]

theorem skipBlanks_append {blanks : List Char} (blank : Blank blanks) (rest : List Letter) :
    skipBlanks (blanks.map some ++ rest) = skipBlanks rest := by
  apply List.dropWhile_append_of_pos
  intro letter member
  obtain ⟨c, among, rfl⟩ := List.mem_map.mp member
  exact isBlank_iff.mpr (blank c among)

theorem skipBlanks_cons {letter : Letter} (shows : isBlank letter = false) (rest : List Letter) :
    skipBlanks (letter :: rest) = letter :: rest :=
  List.dropWhile_cons_of_neg (Bool.not_eq_true _ ▸ shows)

@[simp]
theorem skipBlanks_skipBlanks (s : List Letter) : skipBlanks (skipBlanks s) = skipBlanks s :=
  List.dropWhile_idempotent isBlank s

/-- What the parser skips are blanks. -/
theorem exists_blanks (text : List Char) :
    ∃ before body, text = before ++ body ∧ Blank before ∧
      skipBlanks (text.map some) = body.map some := by
  refine ⟨text.takeWhile fun c => isBlank (some c), text.dropWhile fun c => isBlank (some c),
    List.takeWhile_append_dropWhile.symm, ?_, ?_⟩
  · intro c member
    exact isBlank_iff.mp (List.all_eq_true.mp List.all_takeWhile c member)
  · exact List.dropWhile_map

/-- Blanks do not go on a number. -/
theorem ends_append {blanks : List Char} (blank : Blank blanks) {rest : List Letter}
    (ends : Ends rest) : Ends (blanks.map some ++ rest) := by
  cases blanks with
  | nil => exact ends
  | cons c others =>
      have follow : [' ', '\t', '\n', '\r'].all (fun c => endsNumber (some c)) = true := by decide
      have follows := List.all_eq_true.mp follow c (blank c List.mem_cons_self)
      exact ends_cons follows _

/-! ## Steps of the parser -/

/-- Blanks in front do not matter. -/
theorem value?_skipBlanks (fuel : Nat) (s : List Letter) :
    value? fuel (skipBlanks s) = value? fuel s := by
  cases fuel with
  | zero => rfl
  | succ fuel =>
      -- Both sides look at what follows the blanks of their letters, so one step settles it.
      conv_lhs => whnf
      rw [skipBlanks_skipBlanks]
      rfl

/-- How a list goes on after one of its items: it is closed, or there are more after a comma. -/
def GoesOn {α : Type} (close : Char) (items? : List Letter → Option (List α × List Letter))
    (s : List Letter) (item : α) (items : List α) (rest : List Letter) : Prop :=
  (skipBlanks s = some close :: rest ∧ items = [item]) ∨
    ∃ more others, skipBlanks s = some ',' :: more ∧ items? more = some (others, rest) ∧
      items = item :: others

section

variable {α : Type} {close : Char} {items? : List Letter → Option (List α × List Letter)}
  {s more rest : List Letter} {item : α} {items : List α}

theorem goesOn_of_close (apart : close ≠ ',') (closes : skipBlanks s = some close :: more) :
    some ([item], more) = some (items, rest) ↔ GoesOn close items? s item items rest := by
  simp [GoesOn, closes, apart, and_comm, eq_comm]

theorem goesOn_of_comma (apart : ',' ≠ close) (goes : skipBlanks s = some ',' :: more) :
    ((items? more).bind fun read => some (item :: read.1, read.2)) = some (items, rest) ↔
      GoesOn close items? s item items rest := by
  simp only [GoesOn, goes, Option.bind_eq_some_iff, Prod.exists, Option.some.injEq, Prod.mk.injEq,
    List.cons.injEq, apart, false_and, false_or]
  constructor
  · rintro ⟨others, _, read, rfl, rfl⟩
    exact ⟨more, others, ⟨trivial, rfl⟩, read, rfl⟩
  · rintro ⟨_, others, ⟨-, rfl⟩, read, rfl⟩
    exact ⟨others, rest, read, rfl, rfl⟩

theorem not_goesOn (closes : ∀ more, skipBlanks s ≠ some close :: more)
    (goes : ∀ more, skipBlanks s ≠ some ',' :: more) :
    none = some (items, rest) ↔ GoesOn close items? s item items rest := by
  refine iff_of_false (Option.some_ne_none _).symm ?_
  rintro (⟨closed, _⟩ | ⟨more, _, gone, _⟩)
  · exact closes rest closed
  · exact goes more gone

end

/-- The elements of an array are a value and what goes on after it. -/
theorem elements?_eq_some_iff {fuel : Nat} {s rest : List Letter} {values : List Value} :
    elements? (fuel + 1) s = some (values, rest) ↔ ∃ value after,
      value? fuel s = some (value, after) ∧
        GoesOn ']' (elements? fuel) after value values rest := by
  simp only [elements?, Option.bind_eq_bind, Option.bind_eq_some_iff, Prod.exists]
  refine exists₂_congr fun value after => and_congr_right fun _ => ?_
  split
  · rename_i closes
    exact goesOn_of_close (by decide) closes
  · rename_i goes
    exact goesOn_of_comma (by decide) goes
  · rename_i closes goes
    exact not_goesOn closes goes

/-- The members of an object are a name, a colon, a value and what goes on after it. -/
theorem members?_eq_some_iff {fuel : Nat} {s rest : List Letter}
    {members : List (Option (List Char) × Value)} :
    members? (fuel + 1) s = some (members, rest) ↔ ∃ quoted pieces named valued value after,
      skipBlanks s = some '"' :: quoted ∧ string? quoted = some (pieces, named) ∧
        skipBlanks named = some ':' :: valued ∧ value? fuel valued = some (value, after) ∧
        GoesOn '}' (members? fuel) after (textOf pieces, value) members rest := by
  constructor
  · intro read
    simp only [members?] at read
    split at read
    case h_2 => cases read
    rename_i quoted opens
    simp only [Option.bind_eq_bind, Option.bind_eq_some_iff, Prod.exists] at read
    obtain ⟨pieces, named, readName, read⟩ := read
    split at read
    case h_2 => cases read
    rename_i valued separates
    simp only [Option.bind_eq_some_iff, Prod.exists] at read
    obtain ⟨value, after, readValue, read⟩ := read
    refine ⟨quoted, pieces, named, valued, value, after, opens, readName, separates, readValue, ?_⟩
    split at read
    · rename_i closes
      exact (goesOn_of_close (by decide) closes).mp read
    · rename_i goes
      exact (goesOn_of_comma (by decide) goes).mp read
    · cases read
  · rintro ⟨quoted, pieces, named, valued, value, after, opens, readName, separates, readValue,
      goesOn⟩
    simp only [members?, opens, readName, separates, readValue, Option.bind_eq_bind,
      Option.bind_some]
    split
    · rename_i closes
      exact (goesOn_of_close (by decide) closes).mpr goesOn
    · rename_i goes
      exact (goesOn_of_comma (by decide) goes).mpr goesOn
    · rename_i closes goes
      exact (not_goesOn closes goes).mpr goesOn

theorem elements?_skipBlanks (fuel : Nat) (s : List Letter) :
    elements? fuel (skipBlanks s) = elements? fuel s := by
  cases fuel with
  | zero => rfl
  | succ fuel =>
      refine Option.ext fun ⟨values, rest⟩ => ?_
      rw [elements?_eq_some_iff, elements?_eq_some_iff, value?_skipBlanks]

theorem members?_skipBlanks (fuel : Nat) (s : List Letter) :
    members? fuel (skipBlanks s) = members? fuel s := by
  cases fuel with
  | zero => rfl
  | succ fuel =>
      refine Option.ext fun ⟨members, rest⟩ => ?_
      rw [members?_eq_some_iff, members?_eq_some_iff, skipBlanks_skipBlanks]

section

variable (fuel : Nat) (rest : List Letter)

theorem value?_quote :
    value? (fuel + 1) (some '"' :: rest) =
      (string? rest).map fun (pieces, rest) => (.string (textOf pieces), rest) :=
  rfl

theorem value?_null :
    value? (fuel + 1) (some 'n' :: rest) = (word? ['u', 'l', 'l'] rest).map (.null, ·) :=
  rfl

theorem value?_true :
    value? (fuel + 1) (some 't' :: rest) = (word? ['r', 'u', 'e'] rest).map (.bool true, ·) :=
  rfl

theorem value?_false :
    value? (fuel + 1) (some 'f' :: rest) =
      (word? ['a', 'l', 's', 'e'] rest).map (.bool false, ·) :=
  rfl

theorem value?_bracket :
    value? (fuel + 1) (some '[' :: rest) =
      if (skipBlanks rest).head? = some (some ']') then some (.array [], (skipBlanks rest).tail)
      else (elements? fuel rest).map fun (elements, rest) => (.array elements, rest) := by
  conv_lhs => whnf
  split
  · rename_i same
    rw [same]
    rfl
  · rename_i others
    rw [if_neg, elements?_skipBlanks]
    intro closes
    obtain ⟨more, same⟩ := List.head?_eq_some_iff.mp closes
    exact others more same

theorem value?_brace :
    value? (fuel + 1) (some '{' :: rest) =
      if (skipBlanks rest).head? = some (some '}') then some (.object [], (skipBlanks rest).tail)
      else (members? fuel rest).map fun (members, rest) => (.object members, rest) := by
  conv_lhs => whnf
  split
  · rename_i same
    rw [same]
    rfl
  · rename_i others
    rw [if_neg, members?_skipBlanks]
    intro closes
    obtain ⟨more, same⟩ := List.head?_eq_some_iff.mp closes
    exact others more same

/-- What starts with no other token is read as a number. -/
theorem value?_number {letter : Letter} (shows : isBlank letter = false)
    (other : ∀ c ∈ ['{', '[', '"', 'n', 't', 'f'], letter ≠ some c) :
    value? (fuel + 1) (letter :: rest) =
      (number? (letter :: rest)).map fun (whole, rest) => (.number whole, rest) := by
  rw [value?, skipBlanks_cons shows]
  split
  case h_7 => rfl
  all_goals
    rename_i same
    cases same
    exact absurd rfl (other _ (by simp))

/-- Nothing that closes an array is a value. -/
theorem elements?_close {s : List Letter} (closes : (skipBlanks s).head? = some (some ']')) :
    elements? fuel s = none := by
  obtain ⟨rest, same⟩ := List.head?_eq_some_iff.mp closes
  cases fuel with
  | zero => rfl
  | succ fuel =>
      refine Option.eq_none_iff_forall_ne_some.mpr fun ⟨values, after⟩ read => ?_
      obtain ⟨value, after, readValue, _⟩ := elements?_eq_some_iff.mp read
      rw [← value?_skipBlanks, same] at readValue
      cases fuel with
      | zero => cases readValue
      | succ fuel =>
          rw [value?_number _ _ (by decide) (by simp)] at readValue
          cases readValue

/-- Nothing that closes an object is a member. -/
theorem members?_close {s : List Letter} (closes : (skipBlanks s).head? = some (some '}')) :
    members? fuel s = none := by
  obtain ⟨rest, same⟩ := List.head?_eq_some_iff.mp closes
  cases fuel with
  | zero => rfl
  | succ fuel =>
      refine Option.eq_none_iff_forall_ne_some.mpr fun ⟨members, after⟩ read => ?_
      obtain ⟨quoted, _, _, _, _, _, opens, _⟩ := members?_eq_some_iff.mp read
      cases same.symm.trans opens

end

/-! ## Words -/

theorem word?_append (word : List Char) (rest : List Letter) :
    word? word (word.map some ++ rest) = some rest := by
  have among : (word.map some).isPrefixOf (word.map some ++ rest) = true :=
    List.isPrefixOf_iff_prefix.mpr (List.prefix_append _ _)
  rw [word?, if_pos among, List.drop_left' (List.length_map some)]

theorem exists_word {word text : List Char} {rest : List Letter}
    (read : word? word (text.map some) = some rest) :
    ∃ after, text = word ++ after ∧ rest = after.map some := by
  rw [word?, Option.ite_none_right_eq_some] at read
  obtain ⟨among, dropped⟩ := read
  obtain ⟨others, whole⟩ := List.isPrefixOf_iff_prefix.mp among
  obtain ⟨front, after, rfl, same, rfl⟩ := List.map_eq_append_iff.mp whole.symm
  obtain rfl := List.map_injective_iff.mpr (fun _ _ => Option.some.inj) same
  cases dropped
  refine ⟨after, rfl, ?_⟩
  rw [← whole, List.drop_left' (List.length_map some)]

/-! ## What is written is read -/

/-- The text reads as the value, whatever follows that cannot go on a number. -/
def Reads (text : List Char) (value : Value) : Prop :=
  ∀ (fuel : Nat) (rest : List Letter), 2 * text.length < fuel → Ends rest →
    value? fuel (text.map some ++ rest) = some (value, rest)

theorem intercalate_cons {α : Type} (print : α → List Char) (first next : α) (more : List α) :
    [','].intercalate ((first :: next :: more).map print) =
      print first ++ ',' :: [','].intercalate ((next :: more).map print) := by
  simp only [List.map_cons, List.intercalate_cons_cons, List.append_assoc, List.singleton_append]

/-- A value with blanks around it is read up to the token after it. -/
theorem Element.value?_eq {element : Element} (blank : Blank element.before ∧ Blank element.after)
    (reads : Reads element.text element.value) {token : Char} (follows : token ∈ [',', ']', '}'])
    {fuel : Nat} (enough : 2 * element.printed.length < fuel) (rest : List Letter) :
    ∃ others, value? fuel (element.printed.map some ++ some token :: rest) =
        some (element.value, others) ∧
      skipBlanks others = some token :: rest := by
  have shows : endsNumber (some token) = true ∧ isBlank (some token) = false := by
    simp only [List.mem_cons, List.not_mem_nil, or_false] at follows
    rcases follows with rfl | rfl | rfl <;> decide
  refine ⟨element.after.map some ++ some token :: rest, ?_, ?_⟩
  · have ends := ends_append blank.2 (ends_cons shows.1 rest)
    have read := reads fuel (element.after.map some ++ some token :: rest) (by
      simp only [printed, List.length_append] at enough
      omega) ends
    rw [← value?_skipBlanks] at read ⊢
    rw [printed, List.map_append, List.map_append, List.append_assoc, skipBlanks_append blank.1,
      List.append_assoc, read]
  · rw [skipBlanks_append blank.2, skipBlanks_cons shows.2]

/-- The elements of an array are read up to its closing bracket. -/
theorem elements?_printed {elements : List Element} (nonempty : elements ≠ [])
    (blank : ∀ element ∈ elements, Blank element.before ∧ Blank element.after)
    (reads : ∀ element ∈ elements, Reads element.text element.value) {fuel : Nat}
    (enough : 2 * ([','].intercalate (elements.map Element.printed)).length + 1 < fuel)
    (rest : List Letter) :
    elements? fuel (([','].intercalate (elements.map Element.printed)).map some ++
      some ']' :: rest) = some (elements.map Element.value, rest) := by
  induction elements generalizing fuel with
  | nil => exact absurd rfl nonempty
  | cons element others ih =>
      have around := blank element List.mem_cons_self
      have readsFirst := reads element List.mem_cons_self
      cases fuel with
      | zero => exact absurd enough (Nat.not_lt_zero _)
      | succ fuel =>
          cases others with
          | nil =>
              rw [List.map_singleton, List.intercalate_singleton] at enough ⊢
              have room : 2 * element.printed.length < fuel := by omega
              obtain ⟨after, read, token⟩ := element.value?_eq around readsFirst
                (by simp : ']' ∈ [',', ']', '}']) room rest
              exact elements?_eq_some_iff.mpr ⟨_, after, read, .inl ⟨token, rfl⟩⟩
          | cons next more =>
              rw [intercalate_cons, List.length_append, List.length_cons] at enough
              have room : 2 * element.printed.length < fuel ∧
                  2 * ([','].intercalate ((next :: more).map Element.printed)).length + 1 <
                    fuel := by
                omega
              have following := ih (List.cons_ne_nil _ _)
                (fun later among => blank later (List.mem_cons_of_mem _ among))
                (fun later among => reads later (List.mem_cons_of_mem _ among)) room.2
              obtain ⟨after, read, token⟩ := element.value?_eq around readsFirst
                (by simp : ',' ∈ [',', ']', '}']) room.1
                (([','].intercalate ((next :: more).map Element.printed)).map some ++
                  some ']' :: rest)
              rw [intercalate_cons, List.map_append, List.append_assoc, List.map_cons,
                List.cons_append]
              exact elements?_eq_some_iff.mpr
                ⟨_, after, read, .inr ⟨_, _, token, following, rfl⟩⟩

/-- A name and a value are read up to the token after them. -/
theorem Property.members?_eq {property : Property}
    (blank : (Blank property.before ∧ Blank property.after) ∧
      Blank property.element.before ∧ Blank property.element.after)
    (named : IsString property.spelled property.name)
    (reads : Reads property.element.text property.element.value) {fuel : Nat}
    (enough : 2 * property.printed.length < fuel) {token : Char}
    (follows : token ∈ [',', ']', '}']) {s rest : List Letter}
    {members : List (Option (List Char) × Value)}
    (goes : ∀ after, skipBlanks after = some token :: s →
      GoesOn '}' (members? fuel) after property.member members rest) :
    members? (fuel + 1) (property.printed.map some ++ some token :: s) = some (members, rest) := by
  have ⟨pieces, spelt, _⟩ := named
  have name : property.name = textOf pieces := spelt.isString_iff.mp named
  have room : 2 * property.element.printed.length < fuel := by
    simp only [printed, List.length_append, List.length_cons] at enough
    omega
  obtain ⟨after, read, ends⟩ := property.element.value?_eq blank.2 reads follows room s
  have opens : skipBlanks (property.printed.map some ++ some token :: s) =
      some '"' :: (property.spelled.map some ++ some '"' :: (property.after.map some ++
        some ':' :: (property.element.printed.map some ++ some token :: s))) := by
    have text : property.printed.map some ++ some token :: s =
        property.before.map some ++ some '"' :: (property.spelled.map some ++ some '"' ::
          (property.after.map some ++
            some ':' :: (property.element.printed.map some ++ some token :: s))) := by
      simp [printed]
    rw [text, skipBlanks_append blank.1.1, skipBlanks_cons (by decide)]
  have separates : skipBlanks (property.after.map some ++
        some ':' :: (property.element.printed.map some ++ some token :: s)) =
      some ':' :: (property.element.printed.map some ++ some token :: s) := by
    rw [skipBlanks_append blank.1.2, skipBlanks_cons (by decide)]
  have goes := goes after ends
  rw [member, name] at goes
  exact members?_eq_some_iff.mpr
    ⟨_, pieces, _, _, _, after, opens, spelt.string?_eq _, separates, read, goes⟩

/-- The members of an object are read up to its closing brace. -/
theorem members?_printed {properties : List Property} (nonempty : properties ≠ [])
    (blank : ∀ property ∈ properties, (Blank property.before ∧ Blank property.after) ∧
      Blank property.element.before ∧ Blank property.element.after)
    (named : ∀ property ∈ properties, IsString property.spelled property.name)
    (reads : ∀ property ∈ properties, Reads property.element.text property.element.value)
    {fuel : Nat}
    (enough : 2 * ([','].intercalate (properties.map Property.printed)).length + 1 < fuel)
    (rest : List Letter) :
    members? fuel (([','].intercalate (properties.map Property.printed)).map some ++
      some '}' :: rest) = some (properties.map Property.member, rest) := by
  induction properties generalizing fuel with
  | nil => exact absurd rfl nonempty
  | cons property others ih =>
      have around := blank property List.mem_cons_self
      have namedFirst := named property List.mem_cons_self
      have readsFirst := reads property List.mem_cons_self
      cases fuel with
      | zero => exact absurd enough (Nat.not_lt_zero _)
      | succ fuel =>
          cases others with
          | nil =>
              rw [List.map_singleton, List.intercalate_singleton] at enough ⊢
              exact property.members?_eq around namedFirst readsFirst (by omega)
                (by simp : '}' ∈ [',', ']', '}']) fun after token => .inl ⟨token, rfl⟩
          | cons next more =>
              rw [intercalate_cons, List.length_append, List.length_cons] at enough
              have room : 2 * property.printed.length < fuel ∧
                  2 * ([','].intercalate ((next :: more).map Property.printed)).length + 1 <
                    fuel := by
                omega
              have following := ih (List.cons_ne_nil _ _)
                (fun later among => blank later (List.mem_cons_of_mem _ among))
                (fun later among => named later (List.mem_cons_of_mem _ among))
                (fun later among => reads later (List.mem_cons_of_mem _ among)) room.2
              rw [intercalate_cons, List.map_append, List.append_assoc, List.map_cons,
                List.cons_append]
              exact property.members?_eq around namedFirst readsFirst room.1
                (by simp : ',' ∈ [',', ']', '}'])
                fun after token => .inr ⟨_, _, token, following, rfl⟩

/-- A number starts like no other value. -/
theorem IsNumber.exists_cons {text : List Char} {whole : Option Nat}
    (number : IsNumber text whole) :
    ∃ c others, text = c :: others ∧ isBlank (some c) = false ∧
      ∀ d ∈ ['{', '[', '"', 'n', 't', 'f'], some c ≠ some d := by
  have starts (c : Char) (starts : c = '-' ∨ '0' ≤ c ∧ c ≤ '9') : isBlank (some c) = false ∧
      ∀ d ∈ ['{', '[', '"', 'n', 't', 'f'], some c ≠ some d := by
    constructor
    · rw [Bool.eq_false_iff]
      intro blank
      have blank := isBlank_iff.mp blank
      simp only [List.mem_cons, List.not_mem_nil, or_false] at blank
      rcases blank with rfl | rfl | rfl | rfl <;> exact absurd starts (by decide)
    · rintro d special same
      cases same
      simp only [List.mem_cons, List.not_mem_nil, or_false] at special
      rcases special with rfl | rfl | rfl | rfl | rfl | rfl <;> exact absurd starts (by decide)
  have run {digits : List Char} (run : IsRun digits) (more : List Char) :
      ∃ c others, digits ++ more = c :: others ∧ isBlank (some c) = false ∧
        ∀ d ∈ ['{', '[', '"', 'n', 't', 'f'], some c ≠ some d := by
    obtain ⟨first, others, rfl⟩ := List.exists_cons_of_ne_nil run.1
    exact ⟨first, others ++ more, rfl, starts first (.inr (run.2 first List.mem_cons_self))⟩
  cases number with
  | whole n =>
      have first := run (isWhole_digits n).1 []
      rwa [List.append_nil] at first
  | other signed whole =>
      simp only [List.mem_cons, List.not_mem_nil, or_false] at signed
      rcases signed with rfl | rfl
      · exact run whole.1 _
      · exact ⟨'-', _, rfl, starts '-' (.inl rfl)⟩

theorem reads_of_succ {text : List Char} {value : Value}
    (reads : ∀ (fuel : Nat) (rest : List Letter), 2 * text.length ≤ fuel → Ends rest →
      value? (fuel + 1) (text.map some ++ rest) = some (value, rest)) : Reads text value := by
  intro fuel rest enough ends
  cases fuel with
  | zero => exact absurd enough (Nat.not_lt_zero _)
  | succ fuel => exact reads fuel rest (Nat.le_of_lt_succ enough) ends

theorem IsNumber.reads {text : List Char} {whole : Option Nat} (number : IsNumber text whole) :
    Reads text (.number whole) := by
  refine reads_of_succ fun fuel rest _ ends => ?_
  have read := number.number?_eq ends
  obtain ⟨c, others, rfl, shows, other⟩ := number.exists_cons
  rw [List.map_cons, List.cons_append] at read ⊢
  rw [value?_number _ _ shows other, read]
  rfl

theorem IsString.reads {spelled : List Char} {meaning : Option (List Char)}
    (string : IsString spelled meaning) : Reads ('"' :: (spelled ++ ['"'])) (.string meaning) := by
  refine reads_of_succ fun fuel rest _ _ => ?_
  have ⟨pieces, spelt, _⟩ := string
  have text : ('"' :: (spelled ++ ['"'])).map some ++ rest =
      some '"' :: (spelled.map some ++ some '"' :: rest) := by
    simp
  rw [text, value?_quote, spelt.string?_eq, spelt.isString_iff.mp string]
  rfl

theorem reads_emptyArray {blanks : List Char} (blank : Blank blanks) :
    Reads ('[' :: (blanks ++ [']'])) (.array []) := by
  refine reads_of_succ fun fuel rest _ _ => ?_
  have text : ('[' :: (blanks ++ [']'])).map some ++ rest =
      some '[' :: (blanks.map some ++ some ']' :: rest) := by
    simp
  rw [text, value?_bracket, skipBlanks_append blank, skipBlanks_cons (by decide)]
  rfl

theorem reads_emptyObject {blanks : List Char} (blank : Blank blanks) :
    Reads ('{' :: (blanks ++ ['}'])) (.object []) := by
  refine reads_of_succ fun fuel rest _ _ => ?_
  have text : ('{' :: (blanks ++ ['}'])).map some ++ rest =
      some '{' :: (blanks.map some ++ some '}' :: rest) := by
    simp
  rw [text, value?_brace, skipBlanks_append blank, skipBlanks_cons (by decide)]
  rfl

theorem reads_array {elements : List Element} (nonempty : elements ≠ [])
    (blank : ∀ element ∈ elements, Blank element.before ∧ Blank element.after)
    (reads : ∀ element ∈ elements, Reads element.text element.value) :
    Reads ('[' :: ([','].intercalate (elements.map Element.printed) ++ [']']))
      (.array (elements.map Element.value)) := by
  refine reads_of_succ fun fuel rest enough _ => ?_
  have text : ('[' :: ([','].intercalate (elements.map Element.printed) ++ [']'])).map some ++
      rest = some '[' :: (([','].intercalate (elements.map Element.printed)).map some ++
        some ']' :: rest) := by
    simp
  have room : 2 * ([','].intercalate (elements.map Element.printed)).length + 1 < fuel := by
    rw [List.length_cons, List.length_append, List.length_singleton] at enough
    omega
  have read := elements?_printed nonempty blank reads room rest
  -- An array with elements is not taken for an empty one, as elements do not start with a bracket
  -- that closes.
  rw [text, value?_bracket, read, if_neg]
  · rfl
  · intro closes
    cases read.symm.trans (elements?_close fuel closes)

theorem reads_object {properties : List Property} (nonempty : properties ≠ [])
    (blank : ∀ property ∈ properties, (Blank property.before ∧ Blank property.after) ∧
      Blank property.element.before ∧ Blank property.element.after)
    (named : ∀ property ∈ properties, IsString property.spelled property.name)
    (reads : ∀ property ∈ properties, Reads property.element.text property.element.value) :
    Reads ('{' :: ([','].intercalate (properties.map Property.printed) ++ ['}']))
      (.object (properties.map Property.member)) := by
  refine reads_of_succ fun fuel rest enough _ => ?_
  have text : ('{' :: ([','].intercalate (properties.map Property.printed) ++ ['}'])).map some ++
      rest = some '{' :: (([','].intercalate (properties.map Property.printed)).map some ++
        some '}' :: rest) := by
    simp
  have room : 2 * ([','].intercalate (properties.map Property.printed)).length + 1 < fuel := by
    rw [List.length_cons, List.length_append, List.length_singleton] at enough
    omega
  have read := members?_printed nonempty blank named reads room rest
  rw [text, value?_brace, read, if_neg]
  · rfl
  · intro closes
    cases read.symm.trans (members?_close fuel closes)

/-- What is written for a value is read as it. -/
theorem Spells.reads {text : List Char} {value : Value} (spells : Spells text value) :
    Reads text value := by
  induction spells with
  | nullWord =>
      refine reads_of_succ fun fuel rest _ _ => ?_
      exact (value?_null _ _).trans (congrArg _ (word?_append ['u', 'l', 'l'] rest))
  | trueWord =>
      refine reads_of_succ fun fuel rest _ _ => ?_
      exact (value?_true _ _).trans (congrArg _ (word?_append ['r', 'u', 'e'] rest))
  | falseWord =>
      refine reads_of_succ fun fuel rest _ _ => ?_
      exact (value?_false _ _).trans (congrArg _ (word?_append ['a', 'l', 's', 'e'] rest))
  | number number => exact number.reads
  | string string => exact string.reads
  | emptyArray blank => exact reads_emptyArray blank
  | array nonempty blank _ ih => exact reads_array nonempty blank ih
  | emptyObject blank => exact reads_emptyObject blank
  | object nonempty blank named _ ih => exact reads_object nonempty blank named ih

/-! ## What is read is written -/

/-- What the parser takes from the front of a text as a value is written for it. -/
def Sound (fuel : Nat) : Prop :=
  ∀ (text : List Char) (value : Value) (rest : List Letter),
    value? fuel (text.map some) = some (value, rest) →
      ∃ before body after, text = before ++ (body ++ after) ∧ rest = after.map some ∧
        Blank before ∧ Spells body value

/-- What the parser takes from the front of a text as the elements of an array is written for
them. -/
theorem exists_elements {fuel : Nat} (sound : ∀ less < fuel, Sound less) {text : List Char}
    {values : List Value} {rest : List Letter}
    (read : elements? fuel (text.map some) = some (values, rest)) :
    ∃ elements after, text = [','].intercalate (elements.map Element.printed) ++ ']' :: after ∧
      rest = after.map some ∧ values = elements.map Element.value ∧ elements ≠ [] ∧
      ∀ element ∈ elements, (Blank element.before ∧ Blank element.after) ∧
        Spells element.text element.value := by
  -- Each element is read with less fuel than the array, and so is the rest of the array.
  induction fuel generalizing text values with
  | zero => cases read
  | succ fuel ih =>
      obtain ⟨value, _, readFirst, goes⟩ := elements?_eq_some_iff.mp read
      obtain ⟨before, body, more, rfl, rfl, blankBefore, spells⟩ :=
        sound fuel (Nat.lt_succ_self fuel) text value _ readFirst
      obtain ⟨after, others, rfl, blankAfter, skips⟩ := exists_blanks more
      have good : (Blank before ∧ Blank after) ∧ Spells body value :=
        ⟨⟨blankBefore, blankAfter⟩, spells⟩
      rcases goes with ⟨closes, rfl⟩ | ⟨_, values, goesOn, readLater, rfl⟩
      · obtain ⟨token, later, rfl, same, rfl⟩ := List.map_eq_cons_iff.mp (skips.symm.trans closes)
        cases same
        refine ⟨[⟨before, body, after, value⟩], later, ?_, rfl, rfl, List.cons_ne_nil _ _, ?_⟩
        · simp [Element.printed]
        · rintro element among
          cases List.mem_singleton.mp among
          exact good
      · obtain ⟨token, later, rfl, same, rfl⟩ := List.map_eq_cons_iff.mp (skips.symm.trans goesOn)
        cases same
        obtain ⟨elements, beyond, rfl, rfl, rfl, nonempty, goodLater⟩ :=
          ih (fun less below => sound less (Nat.lt_succ_of_lt below)) readLater
        obtain ⟨next, more, rfl⟩ := List.exists_cons_of_ne_nil nonempty
        refine ⟨⟨before, body, after, value⟩ :: next :: more, beyond, ?_, rfl, rfl,
          List.cons_ne_nil _ _, ?_⟩
        · simp [Element.printed]
        · rintro element (_ | ⟨_, among⟩)
          · exact good
          · exact goodLater element among

/-- What the parser takes from the front of a text as the members of an object is written for
them. -/
theorem exists_members {fuel : Nat} (sound : ∀ less < fuel, Sound less) {text : List Char}
    {members : List (Option (List Char) × Value)} {rest : List Letter}
    (read : members? fuel (text.map some) = some (members, rest)) :
    ∃ properties after,
      text = [','].intercalate (properties.map Property.printed) ++ '}' :: after ∧
      rest = after.map some ∧ members = properties.map Property.member ∧ properties ≠ [] ∧
      ∀ property ∈ properties, ((Blank property.before ∧ Blank property.after) ∧
        Blank property.element.before ∧ Blank property.element.after) ∧
        IsString property.spelled property.name ∧
        Spells property.element.text property.element.value := by
  induction fuel generalizing text members with
  | zero => cases read
  | succ fuel ih =>
      obtain ⟨_, pieces, _, _, value, _, opens, readName, separates, readValue, goes⟩ :=
        members?_eq_some_iff.mp read
      obtain ⟨before, quoted, rfl, blankBefore, skips⟩ := exists_blanks text
      obtain ⟨quote, named, rfl, same, rfl⟩ := List.map_eq_cons_iff.mp (skips.symm.trans opens)
      cases same
      obtain ⟨spelled, valued, rfl, rfl, spelt⟩ := exists_spelt readName
      obtain ⟨after, colon, rfl, blankAfter, skips⟩ := exists_blanks valued
      obtain ⟨colon, valued, rfl, same, rfl⟩ :=
        List.map_eq_cons_iff.mp (skips.symm.trans separates)
      cases same
      obtain ⟨beforeValue, body, more, rfl, rfl, blankBeforeValue, spells⟩ :=
        sound fuel (Nat.lt_succ_self fuel) valued value _ readValue
      obtain ⟨afterValue, others, rfl, blankAfterValue, skips⟩ := exists_blanks more
      have good : ((Blank before ∧ Blank after) ∧ Blank beforeValue ∧ Blank afterValue) ∧
          IsString spelled (textOf pieces) ∧ Spells body value :=
        ⟨⟨⟨blankBefore, blankAfter⟩, blankBeforeValue, blankAfterValue⟩,
          spelt.isString_iff.mpr rfl, spells⟩
      rcases goes with ⟨closes, rfl⟩ | ⟨_, members, goesOn, readLater, rfl⟩
      · obtain ⟨token, later, rfl, same, rfl⟩ := List.map_eq_cons_iff.mp (skips.symm.trans closes)
        cases same
        refine ⟨[⟨before, spelled, textOf pieces, after, beforeValue, body, afterValue, value⟩],
          later, ?_, rfl, rfl, List.cons_ne_nil _ _, ?_⟩
        · simp [Property.printed, Element.printed]
        · rintro property among
          cases List.mem_singleton.mp among
          exact good
      · obtain ⟨token, later, rfl, same, rfl⟩ := List.map_eq_cons_iff.mp (skips.symm.trans goesOn)
        cases same
        obtain ⟨properties, beyond, rfl, rfl, rfl, nonempty, goodLater⟩ :=
          ih (fun less below => sound less (Nat.lt_succ_of_lt below)) readLater
        obtain ⟨next, more, rfl⟩ := List.exists_cons_of_ne_nil nonempty
        refine ⟨⟨before, spelled, textOf pieces, after, beforeValue, body, afterValue, value⟩ ::
          next :: more, beyond, ?_, rfl, rfl, List.cons_ne_nil _ _, ?_⟩
        · simp [Property.printed, Element.printed]
        · rintro property (_ | ⟨_, among⟩)
          · exact good
          · exact goodLater property among

/-- What the parser takes as an array is written for it. -/
theorem exists_array {fuel : Nat} (sound : ∀ less < fuel, Sound less) {text : List Char}
    {value : Value} {rest : List Letter}
    (read : value? (fuel + 1) (some '[' :: text.map some) = some (value, rest)) :
    ∃ body after, '[' :: text = body ++ after ∧ rest = after.map some ∧ Spells body value := by
  rw [value?_bracket] at read
  split at read
  · rename_i closes
    obtain ⟨blanks, others, rfl, blank, skips⟩ := exists_blanks text
    rw [skips] at closes read
    obtain ⟨after, rfl⟩ : ∃ after, others = ']' :: after := by
      simpa [List.head?_eq_some_iff, List.map_eq_cons_iff] using closes
    cases read
    exact ⟨_, after, by simp, rfl, .emptyArray blank⟩
  · obtain ⟨⟨values, _⟩, readElements, read⟩ := Option.map_eq_some_iff.mp read
    cases read
    obtain ⟨elements, after, rfl, rfl, rfl, nonempty, good⟩ := exists_elements sound readElements
    exact ⟨_, after, by simp, rfl, .array nonempty (fun element among => (good element among).1)
      fun element among => (good element among).2⟩

/-- What the parser takes as an object is written for it. -/
theorem exists_object {fuel : Nat} (sound : ∀ less < fuel, Sound less) {text : List Char}
    {value : Value} {rest : List Letter}
    (read : value? (fuel + 1) (some '{' :: text.map some) = some (value, rest)) :
    ∃ body after, '{' :: text = body ++ after ∧ rest = after.map some ∧ Spells body value := by
  rw [value?_brace] at read
  split at read
  · rename_i closes
    obtain ⟨blanks, others, rfl, blank, skips⟩ := exists_blanks text
    rw [skips] at closes read
    obtain ⟨after, rfl⟩ : ∃ after, others = '}' :: after := by
      simpa [List.head?_eq_some_iff, List.map_eq_cons_iff] using closes
    cases read
    exact ⟨_, after, by simp, rfl, .emptyObject blank⟩
  · obtain ⟨⟨members, _⟩, readMembers, read⟩ := Option.map_eq_some_iff.mp read
    cases read
    obtain ⟨properties, after, rfl, rfl, rfl, nonempty, good⟩ := exists_members sound readMembers
    exact ⟨_, after, by simp, rfl,
      .object nonempty (fun property among => (good property among).1)
        (fun property among => (good property among).2.1)
        fun property among => (good property among).2.2⟩

/-- What the parser takes as a word is written for it. -/
theorem exists_named {word text : List Char} {first : Char} {value given : Value}
    {rest : List Letter} (spells : Spells (first :: word) given)
    (read : (word? word (text.map some)).map (given, ·) = some (value, rest)) :
    ∃ body after, first :: text = body ++ after ∧ rest = after.map some ∧ Spells body value := by
  obtain ⟨_, readWord, same⟩ := Option.map_eq_some_iff.mp read
  cases same
  obtain ⟨after, rfl, rfl⟩ := exists_word readWord
  exact ⟨first :: word, after, rfl, rfl, spells⟩

/-- What the parser takes at once is written for its value. -/
theorem exists_value {fuel : Nat} (sound : ∀ less < fuel, Sound less) {text : List Char}
    {value : Value} {rest : List Letter} (shows : ∀ c ∈ text.head?, isBlank (some c) = false)
    (read : value? (fuel + 1) (text.map some) = some (value, rest)) :
    ∃ body after, text = body ++ after ∧ rest = after.map some ∧ Spells body value := by
  cases text with
  | nil => cases read
  | cons first others =>
      rw [List.map_cons] at read
      by_cases special : first ∈ ['{', '[', '"', 'n', 't', 'f']
      · simp only [List.mem_cons, List.not_mem_nil, or_false] at special
        rcases special with rfl | rfl | rfl | rfl | rfl | rfl
        · exact exists_object sound read
        · exact exists_array sound read
        · rw [value?_quote] at read
          obtain ⟨⟨pieces, _⟩, readString, read⟩ := Option.map_eq_some_iff.mp read
          cases read
          obtain ⟨spelled, after, rfl, rfl, spelt⟩ := exists_spelt readString
          exact ⟨_, after, by simp, rfl, .string (spelt.isString_iff.mpr rfl)⟩
        · rw [value?_null] at read
          exact exists_named .nullWord read
        · rw [value?_true] at read
          exact exists_named .trueWord read
        · rw [value?_false] at read
          exact exists_named .falseWord read
      · rw [value?_number _ _ (shows first rfl)
          fun c among same => special (Option.some.inj same ▸ among), ← List.map_cons] at read
        obtain ⟨⟨whole, _⟩, readNumber, read⟩ := Option.map_eq_some_iff.mp read
        cases read
        obtain ⟨number, after, same, rfl, isNumber⟩ := exists_number readNumber
        exact ⟨number, after, same, rfl, .number isNumber⟩

/-- What is read as a value is written for it. -/
theorem sound (fuel : Nat) : Sound fuel := by
  -- The values within a value are read with any smaller amounts of fuel.
  induction fuel using Nat.strongRecOn with
  | ind fuel ih =>
      intro text value rest read
      cases fuel with
      | zero => cases read
      | succ fuel =>
          obtain ⟨before, body, rfl, blank, skips⟩ := exists_blanks text
          rw [← value?_skipBlanks, skips] at read
          have shows : ∀ c ∈ body.head?, isBlank (some c) = false := by
            intro c starts
            have others := List.head?_dropWhile_not isBlank ((before ++ body).map some)
            rw [← skipBlanks, skips, List.head?_map, Option.mem_def.mp starts] at others
            exact others
          obtain ⟨spelled, after, rfl, rfl, spells⟩ :=
            exists_value (fun less below => ih less (Nat.lt_succ_of_lt below)) shows read
          exact ⟨before, spelled, after, rfl, rfl, blank, spells⟩

/-- The parser reads a text as a value exactly if it is written for that value. -/
theorem parse?_eq_some_iff {text : List Char} {value : Value} :
    parse? (text.map some) = some value ↔ IsTextOf text value := by
  constructor
  · intro read
    simp only [parse?, Option.bind_eq_bind, Option.bind_eq_some_iff] at read
    obtain ⟨⟨value, _⟩, readValue, read⟩ := read
    obtain ⟨before, body, more, rfl, rfl, blankBefore, spells⟩ := sound _ _ _ _ readValue
    obtain ⟨after, others, rfl, blankAfter, skips⟩ := exists_blanks more
    simp only [skips] at read
    split at read
    case h_2 => cases read
    rename_i ends
    obtain rfl := List.map_eq_nil_iff.mp ends
    cases read
    exact ⟨before, body, after, by simp, blankBefore, blankAfter, spells⟩
  · rintro ⟨before, body, after, rfl, blankBefore, blankAfter, spells⟩
    have ends : Ends (after.map some) := by
      have ends := ends_append blankAfter (by simp [Ends] : Ends [])
      rwa [List.append_nil] at ends
    have read := spells.reads (2 * ((before ++ (body ++ after)).map some).length + 2) _ (by
      simp only [List.length_map, List.length_append]
      omega) ends
    have nothing : skipBlanks (after.map some) = [] := by
      have skipped := skipBlanks_append blankAfter []
      rwa [List.append_nil] at skipped
    rw [← value?_skipBlanks, ← skipBlanks_append blankBefore, ← List.map_append, ← List.map_append,
      value?_skipBlanks] at read
    rw [parse?, read]
    simp only [Option.bind_eq_bind, Option.bind_some, nothing, Option.pure_def]

end Anteroom.Json
