import Anteroom.Proofs.Settings
import Anteroom.Proofs.Texts

/-!
# Documents of configurations

The document of a configuration is read back as this configuration, with or
without blanks around it: each field's text is written for a value that gives
the field what it was, and all fields are given, so nothing of the defaults is
left.  What is valid stays so on the way.
-/

namespace Anteroom

/-! ## Objects without blanks -/

namespace Json

open Config (memberText objectText)

/-- Whether a character can stand in a string as it is. -/
def isPlain (c : Char) : Bool :=
  c != '"' && c != '\\' && 0x20 ≤ c.toNat

/-- Plain characters stand for themselves. -/
theorem isString_plain {name : List Char} (plain : name.all isPlain = true) :
    IsString name (some name) := by
  have spelt : Spelt name (name.map fun c => .letter (some c)) := by
    induction name with
    | nil => exact .nil
    | cons c name ih =>
        rw [List.all_cons, Bool.and_eq_true] at plain
        obtain ⟨first, others⟩ := plain
        simp only [isPlain, Bool.and_eq_true, bne_iff_ne, decide_eq_true_eq] at first
        exact .plain first.1.1 first.1.2 first.2 (ih others)
  have stands : StandsFor (name.map fun c => .letter (some c)) name := by
    clear plain spelt
    induction name with
    | nil => exact .nil
    | cons c name ih => exact .letter ih
  exact spelt.isString_iff.mpr stands.textOf_eq.symm

/-- A member of an object: its name, its text and its value. -/
structure Member where
  name : List Char
  text : List Char
  value : Value

namespace Member

/-- What a member is in the text of an object. -/
def printed (member : Member) : List Char :=
  memberText member.name member.text

/-- What a member is in the value of an object. -/
def parsed (member : Member) : Option (List Char) × Value :=
  (some member.name, member.value)

/-- The name can stand in a text as it is, and the text of the value is written for it. -/
structure Sound (member : Member) : Prop where
  plain : IsString member.name (some member.name)
  spells : Spells member.text member.value

/-- The member with no blanks in it. -/
def property (member : Member) : Property :=
  ⟨[], member.name, some member.name, [], ⟨[], member.text, [], member.value⟩⟩

theorem printed_property (member : Member) : member.property.printed = member.printed := by
  simp [Property.printed, Element.printed, property, printed, memberText]

end Member

/-- The text of an object is written for the values of its members. -/
theorem spells_objectText {members : List Member} (nonempty : members ≠ [])
    (sound : ∀ member ∈ members, member.Sound) :
    Spells (objectText (members.map Member.printed)) (.object (members.map Member.parsed)) := by
  have none : Blank [] := fun _ among => absurd among List.not_mem_nil
  have some_property : members.map Member.property ≠ [] :=
    fun empty => nonempty (List.map_eq_nil_iff.mp empty)
  have spells := Spells.object some_property
    (List.forall_mem_map.mpr fun _ _ => ⟨⟨none, none⟩, none, none⟩)
    (List.forall_mem_map.mpr fun member among => (sound member among).plain)
    (List.forall_mem_map.mpr fun member among => (sound member among).spells)
  rw [List.map_map, List.map_map] at spells
  rwa [objectText, List.cons_append, ← (funext Member.printed_property :
    Property.printed ∘ Member.property = Member.printed)]

end Json

/-! ## Fields -/

namespace Span

open Json (Member)

/-- What a document says of a span: its whole seconds and the nanoseconds beyond them. -/
def members (span : Span) : List Member :=
  [⟨secondsKey, Decimal.digits span.seconds, .number (some span.seconds)⟩,
    ⟨nanosKey, Decimal.digits span.subsec, .number (some span.subsec)⟩]

/-- The value of a span in a document. -/
def value (span : Span) : Json.Value :=
  .object (span.members.map Member.parsed)

theorem isString_secondsKey : Json.IsString secondsKey (some secondsKey) :=
  Json.isString_plain (by decide)

theorem isString_nanosKey : Json.IsString nanosKey (some nanosKey) :=
  Json.isString_plain (by decide)

theorem sound_members (span : Span) : ∀ member ∈ span.members, member.Sound := by
  intro member among
  simp only [members, List.mem_cons, List.not_mem_nil, or_false] at among
  rcases among with rfl | rfl
  · exact ⟨isString_secondsKey, .number (.whole span.seconds)⟩
  · exact ⟨isString_nanosKey, .number (.whole span.subsec)⟩

/-- The text of a span is written for its value. -/
theorem spells_spanText (span : Span) : Json.Spells (Config.spanText span) span.value :=
  Json.spells_objectText (List.cons_ne_nil _ _) span.sound_members

theorem seconds_lt (span : Span) : span.seconds < UInt64.size := by
  have below := span.nanos_lt
  rw [bound, Nat.mul_comm] at below
  exact Nat.div_lt_of_lt_mul below

theorem subsec_lt (span : Span) : span.subsec < UInt32.size := by
  have positive : 0 < second := by decide
  have fraction : span.subsec < second := Nat.mod_lt span.nanos positive
  have below : second < UInt32.size := by decide
  omega

/-- A span's value gives the span, with nothing to carry over. -/
theorem denotes_value (span : Span) : Denotes span.value span :=
  ⟨span.seconds, span.subsec, .secondsFirst, span.seconds_lt, span.subsec_lt,
    ofParts?_eq_some_iff.mp span.ofParts?_parts⟩

end Span

namespace Config

/-- The value of a field in a document. -/
def fieldValue (config : Config) : Field → Json.Value
  | .protocolVersion => .number (some config.protocolVersion.toNat)
  | .acceptQueueCapacity => .number (some config.acceptQueueCapacity.toNat)
  | .handshakeTimeout => config.handshakeTimeout.value
  | .hijackInterval => config.hijackInterval.value

theorem gives_fieldValue (config : Config) (field : Field) :
    config.Gives (config.fieldValue field) field := by
  cases field with
  | protocolVersion => rfl
  | acceptQueueCapacity => rfl
  | handshakeTimeout => exact Span.denotes_value _
  | hijackInterval => exact Span.denotes_value _

/-- What a configuration's document says of a field. -/
def member (config : Config) (field : Field) : Json.Member :=
  ⟨field.key, config.fieldText field, config.fieldValue field⟩

/-- A field's text is written for its value. -/
theorem spells_fieldText (config : Config) (field : Field) :
    Json.Spells (config.fieldText field) (config.fieldValue field) := by
  cases field with
  | protocolVersion => exact .number (.whole _)
  | acceptQueueCapacity => exact .number (.whole _)
  | handshakeTimeout => exact Span.spells_spanText _
  | hijackInterval => exact Span.spells_spanText _

theorem isString_key (field : Field) : Json.IsString field.key (some field.key) :=
  Json.isString_plain (by cases field <;> decide)

theorem sound_member (config : Config) (field : Field) : (config.member field).Sound :=
  ⟨isString_key field, config.spells_fieldText field⟩

/-- The document is written for a value that describes the configuration. -/
theorem exists_spells_document (config : Config) :
    ∃ value, Json.Spells config.document.toList value ∧ ofValue? value = some config := by
  refine ⟨.object (Field.all.map fun field => (config.member field).parsed), ?_, ?_⟩
  · have sound : ∀ member ∈ Field.all.map config.member, member.Sound := by
      intro member among
      rcases List.mem_map.mp among with ⟨field, _, rfl⟩
      exact config.sound_member field
    have some_member : Field.all.map config.member ≠ [] := List.cons_ne_nil _ _
    have spells := Json.spells_objectText some_member sound
    rw [List.map_map, List.map_map] at spells
    rw [document, String.toList_ofList]
    exact spells
  · have gives : given (Field.all.map fun field => (config.member field).parsed) =
        Field.all.map fun field => (field, config.fieldValue field) := by
      have given := given_map_key (Field.all.map fun field => (field, config.fieldValue field))
      rwa [List.map_map] at given
    have named : (Field.all.map fun field => (field, config.fieldValue field)).map Prod.fst =
        Field.all := rfl
    rw [ofValue?_object_iff, gives, named]
    refine ⟨?_, nodup_all, ?_, ?_⟩
    · exact List.forall_mem_map.mpr fun field _ => Option.some_ne_none _
    · exact List.forall_mem_map.mpr fun field _ => config.gives_fieldValue field
    · exact fun field other => absurd (named ▸ mem_all field) other

theorem nonempty_nonempty (span default : Span) :
    nonempty (nonempty span default) default = nonempty span default := by
  unfold nonempty
  split
  · exact ite_self default
  · rfl

/-- What has been made valid is valid. -/
theorem validated_validated (config : Config) : config.validated.validated = config.validated := by
  have capacity : (if config.validated.acceptQueueCapacity = 0 then 1
      else config.validated.acceptQueueCapacity) = config.validated.acceptQueueCapacity :=
    if_neg config.validated_acceptQueueCapacity_ne_zero
  have handshake : nonempty config.validated.handshakeTimeout (Span.ofSeconds 10) =
      config.validated.handshakeTimeout :=
    nonempty_nonempty _ _
  have hijack : nonempty config.validated.hijackInterval (Span.ofSeconds 1) =
      config.validated.hijackInterval :=
    nonempty_nonempty _ _
  rw [validated, capacity, handshake, hijack]

/-- A document describes what the value does that it is written for. -/
theorem ofDocument?_eq {text : String} {value : Json.Value}
    (isText : Json.IsTextOf text.toList value) :
    ofDocument? text.toUTF8.toList = ofValue? value := by
  rw [ofDocument?, Utf8.letters_toUTF8, Json.parse?_eq_some_iff.mpr isText]
  rfl

/-- Blanks around the document of a configuration do not matter. -/
theorem ofDocument?_blanks (config : Config) {before after : String}
    (blank : ∀ c ∈ (before ++ after).toList, c ∈ [' ', '\t', '\n', '\r']) :
    ofDocument? (before ++ config.document ++ after).toUTF8.toList = some config := by
  rw [String.toList_append] at blank
  rcases config.exists_spells_document with ⟨value, spells, describes⟩
  have written : Json.IsTextOf (before ++ config.document ++ after).toList value :=
    ⟨before.toList, config.document.toList, after.toList, by simp,
      fun c among => blank c (List.mem_append_left _ among),
      fun c among => blank c (List.mem_append_right _ among), spells⟩
  rw [ofDocument?_eq written]
  exact describes

/-- A configuration comes back from its document, with any blanks around it, and so does what it
is made valid to, which stays valid. -/
theorem ofDocument?_document (config : Config) {before after : String}
    (blank : ∀ c ∈ (before ++ after).toList, c ∈ [' ', '\t', '\n', '\r']) :
    ofDocument? (before ++ config.document ++ after).toUTF8.toList = some config ∧
      ofDocument? (before ++ config.validated.document ++ after).toUTF8.toList =
        some config.validated ∧
      config.validated.validated = config.validated :=
  ⟨config.ofDocument?_blanks blank, config.validated.ofDocument?_blanks blank,
    config.validated_validated⟩

/-- The largest configuration comes back from its document on lines of its own. -/
theorem ofDocument?_document_of_largest :
    let config : Config :=
      { protocolVersion := 255
        acceptQueueCapacity := 18446744073709551615
        handshakeTimeout := ⟨Span.bound - 1, by decide⟩
        hijackInterval := Span.ofSeconds 0 }
    let text := "\r\n\t " ++ config.document ++ " \n"
    ofDocument? text.toUTF8.toList = some config :=
  (ofDocument?_document _ (by simp)).1

end Config

end Anteroom
