import Anteroom.Proofs.Documents
import Mathlib

/-!
# Partial documents

A document that gives only some of the fields describes the default
configuration overridden by these fields, in whichever way its text is written.
-/

namespace Anteroom

open Json (Value)

namespace Config

/-- Only objects and arrays describe a configuration. -/
theorem exists_isTextOf {text : String} {config : Config}
    (read : ofDocument? text.toUTF8.toList = some config) :
    (∃ members, Json.IsTextOf text.toList (.object members)) ∨
      ∃ elements, Json.IsTextOf text.toList (.array elements) := by
  rw [ofDocument?, Utf8.letters_toUTF8, Option.bind_eq_bind, Option.bind_eq_some_iff] at read
  obtain ⟨value, parsed, described⟩ := read
  have isText := Json.parse?_eq_some_iff.mp parsed
  cases value with
  | object members => exact .inl ⟨members, isText⟩
  | array elements => exact .inr ⟨elements, isText⟩
  | null => cases described
  | bool => cases described
  | number => cases described
  | string => cases described

/-- A document describes a configuration only if it is an object or an array.  An object describes
the defaults overridden by exactly what its members give, and does so if all names stand for text,
no field is given twice and each field takes its value; the order of the members does not matter,
nor do those that give no field.  An array of at most four elements describes what an object does
that gives its elements to the first fields.  Seconds and nanoseconds in range describe a span with
the whole seconds carried over, unless there are too many seconds then. -/
theorem ofDocument?_partial :
    (∀ (text : String) (config : Config), ofDocument? text.toUTF8.toList = some config →
      (∃ members, Json.IsTextOf text.toList (.object members)) ∨
        ∃ elements, Json.IsTextOf text.toList (.array elements)) ∧
    (∀ (text : String) (members : List (Option (List Char) × Value)),
      Json.IsTextOf text.toList (.object members) →
        ((∃ config, ofDocument? text.toUTF8.toList = some config) ↔
          (∀ member ∈ members, member.1 ≠ none) ∧
            (∀ field : Field, (members.map Prod.fst).count (some field.key) ≤ 1) ∧
            ∀ (field : Field) (value : Value), (some field.key, value) ∈ members →
              Takes value field) ∧
        (∀ config, ofDocument? text.toUTF8.toList = some config →
          (∀ (field : Field) (value : Value), (some field.key, value) ∈ members →
            config.Gives value field) ∧
          ∀ field : Field, some field.key ∉ members.map Prod.fst → Agree {} config field) ∧
        ∀ (other : String) (others : List (Option (List Char) × Value)),
          Json.IsTextOf other.toList (.object others) →
            (∀ member ∈ members ++ others, member.1 ≠ none) →
              (given members).Perm (given others) →
                ofDocument? text.toUTF8.toList = ofDocument? other.toUTF8.toList) ∧
    (∀ (text : String) (elements : List Value), Json.IsTextOf text.toList (.array elements) →
      ((∃ config, ofDocument? text.toUTF8.toList = some config) ↔
        elements.length ≤ 4 ∧ ∀ pair ∈ Field.all.zip elements, Takes pair.2 pair.1) ∧
      ∀ (other : String) (members : List (Option (List Char) × Value)),
        Json.IsTextOf other.toList (.object members) → elements.length ≤ 4 →
          (∀ member ∈ members, member.1 ≠ none) →
            (given members).Perm (Field.all.zip elements) →
              ofDocument? text.toUTF8.toList = ofDocument? other.toUTF8.toList) ∧
    ∀ (seconds nanos : Nat) (value : Value), Span.Parts seconds nanos value →
      seconds < UInt64.size → nanos < UInt32.size →
        (∀ span, Span.ofValue? value = some span ↔
          span.seconds = seconds + nanos / Span.second ∧ span.subsec = nanos % Span.second) ∧
        (Span.ofValue? value = none ↔ UInt64.size ≤ seconds + nanos / Span.second) := by
  refine ⟨fun text config => exists_isTextOf, fun text members isText => ⟨?_, ?_, ?_⟩,
    fun text elements isText => ⟨?_, ?_⟩, fun seconds nanos value parts inSeconds inNanos => ?_⟩
  · rw [ofDocument?_eq isText]
    exact exists_ofValue?_object_iff
  · intro config read
    rw [ofDocument?_eq isText] at read
    have overrides := (ofValue?_object_iff.mp read).2.2
    exact ⟨fun field value among => overrides.gives (field, value) (mem_given.mpr among),
      fun field apart => overrides.keeps field (mem_map_given.not.mpr apart)⟩
  · intro other others isOther named same
    rw [ofDocument?_eq isText, ofDocument?_eq isOther]
    exact ofValue?_object_perm named same
  · rw [ofDocument?_eq isText]
    exact exists_ofValue?_array_iff
  · intro other members isOther short named same
    rw [ofDocument?_eq isText, ofDocument?_eq isOther]
    exact ofValue?_array_eq_object short named same
  · rw [parts.ofValue?_eq inSeconds inNanos]
    refine ⟨fun span => Span.ofParts?_eq_some_iff, ?_⟩
    rw [← Nat.not_lt, ← Span.exists_ofParts?_iff, Option.eq_none_iff_forall_ne_some, not_exists]

/-- An escaped name, blanks and a member of another name make no difference, nor does an array of
one element, and the whole seconds among the nanoseconds are carried over. -/
theorem ofDocument?_partial_of_escaped :
    ofDocument? "\x7b\"x\": [\x7b\x7d],\t\"protocol\\u005fversion\" : 10 \x7d".toUTF8.toList =
        some { protocolVersion := 10 } ∧
      ofDocument? "\x7b\"protocol_version\":10\x7d".toUTF8.toList = some { protocolVersion := 10 } ∧
      ofDocument? " [ 10 ]\n".toUTF8.toList = some { protocolVersion := 10 } ∧
      ∃ span, Span.ofValue? (.object [(some Span.nanosKey, .number (some 2500000000)),
        (some Span.secondsKey, .number (some 1))]) = some span ∧
          span.seconds = 3 ∧ span.subsec = 500000000 := by
  have isText : Json.IsTextOf
      "\x7b\"x\": [\x7b\x7d],\t\"protocol\\u005fversion\" : 10 \x7d".toList
      (.object [("x".toList, .array [.object []]),
        ("protocol_version".toList, .number (some 10))]) :=
    Json.parse?_eq_some_iff.mp (by cbv)
  have isOther : Json.IsTextOf "\x7b\"protocol_version\":10\x7d".toList
      (.object [("protocol_version".toList, .number (some 10))]) :=
    Json.parse?_eq_some_iff.mp (by cbv)
  have isArray : Json.IsTextOf " [ 10 ]\n".toList (.array [.number (some 10)]) :=
    Json.parse?_eq_some_iff.mp (by cbv)
  obtain ⟨_, objects, arrays, spans⟩ := ofDocument?_partial
  obtain ⟨readable, overridden, ordered⟩ := objects _ _ isText
  obtain ⟨config, read⟩ := readable.mpr ⟨by simp, fun field => by cases field <;> decide, by
    intro field value among
    cases List.mem_singleton.mp (mem_given.mpr among)
    exact ⟨10, rfl, by decide⟩⟩
  obtain ⟨gives, keeps⟩ := overridden config read
  have same : config = { protocolVersion := 10 } := by
    refine eq_of_agree fun field => ?_
    cases field with
    | protocolVersion =>
        have version := gives .protocolVersion _ (List.mem_cons_of_mem _ List.mem_cons_self)
        injection version with version
        exact UInt8.toNat.inj (Option.some.inj version.symm)
    | acceptQueueCapacity => exact (keeps .acceptQueueCapacity (by decide)).symm
    | handshakeTimeout => exact (keeps .handshakeTimeout (by decide)).symm
    | hijackInterval => exact (keeps .hijackInterval (by decide)).symm
  have asOther := ordered _ _ isOther (by simp) (.refl _)
  have asArray := (arrays _ _ isArray).2 _ _ isOther (by decide) (by simp) (.refl _)
  obtain ⟨carried, excess⟩ := spans 1 2500000000 _ .nanosFirst (by decide) (by decide)
  obtain ⟨span, denoted⟩ := Option.ne_none_iff_exists'.mp fun none =>
    absurd (excess.mp none) (by decide)
  rw [same] at read
  exact ⟨read, asOther.symm.trans read, asArray.trans (asOther.symm.trans read), span, denoted,
    (carried span).mp denoted⟩

end Config

end Anteroom
