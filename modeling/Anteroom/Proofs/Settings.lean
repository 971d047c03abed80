import Anteroom.Config.Document
import Mathlib.Data.List.Nodup

/-!
# Settings from JSON values

A JSON object describes the default configuration overridden by what its
members give, whatever their order and whatever other members there are; an
array does so with its elements for the first fields.  A span is given by whole
seconds and nanoseconds, of which those that make up whole seconds are carried
over.
-/

namespace Anteroom

open Json (Value)

theorem Json.Value.below?_eq_some_iff {bound n : Nat} {value : Value} :
    value.below? bound = some n ↔ value = .number (some n) ∧ n < bound := by
  constructor
  · intro read
    unfold below? at read
    split at read
    · obtain ⟨below, same⟩ := Option.ite_none_right_eq_some.mp read
      cases same
      exact ⟨rfl, below⟩
    · cases read
  · rintro ⟨rfl, below⟩
    exact if_pos below

/-! ## Spans -/

namespace Span

/-- A JSON value gives a number of seconds and a number of nanoseconds. -/
inductive Parts (seconds nanos : Nat) : Value → Prop
  | secondsFirst : Parts seconds nanos
      (.object [(some secondsKey, .number (some seconds)), (some nanosKey, .number (some nanos))])
  | nanosFirst : Parts seconds nanos
      (.object [(some nanosKey, .number (some nanos)), (some secondsKey, .number (some seconds))])
  | array : Parts seconds nanos (.array [.number (some seconds), .number (some nanos)])

/-- A JSON value gives a span: the seconds and the nanoseconds are in range, and the span has the
whole seconds among the nanoseconds carried over to its seconds. -/
def Denotes (value : Value) (span : Span) : Prop :=
  ∃ seconds nanos, Parts seconds nanos value ∧ seconds < UInt64.size ∧ nanos < UInt32.size ∧
    span.seconds = seconds + nanos / second ∧ span.subsec = nanos % second

theorem ofNumbers?_of_lt {seconds nanos : Nat} (inSeconds : seconds < UInt64.size)
    (inNanos : nanos < UInt32.size) :
    ofNumbers? (.number (some seconds)) (.number (some nanos)) = ofParts? seconds nanos := by
  rw [ofNumbers?, Json.Value.below?, if_pos inSeconds, Json.Value.below?, if_pos inNanos,
    Option.bind_eq_bind, Option.bind_some, Option.bind_some]

theorem ofNumbers?_eq_some_iff {first last : Value} {span : Span} :
    ofNumbers? first last = some span ↔ ∃ seconds nanos, first = .number (some seconds) ∧
      last = .number (some nanos) ∧ seconds < UInt64.size ∧ nanos < UInt32.size ∧
      ofParts? seconds nanos = some span := by
  simp only [ofNumbers?, Option.bind_eq_bind, Option.bind_eq_some_iff,
    Json.Value.below?_eq_some_iff]
  constructor
  · rintro ⟨seconds, ⟨rfl, inSeconds⟩, nanos, ⟨rfl, inNanos⟩, made⟩
    exact ⟨seconds, nanos, rfl, rfl, inSeconds, inNanos, made⟩
  · rintro ⟨seconds, nanos, rfl, rfl, inSeconds, inNanos, made⟩
    exact ⟨seconds, ⟨rfl, inSeconds⟩, nanos, ⟨rfl, inNanos⟩, made⟩

theorem div_parts (seconds nanos : Nat) :
    (seconds * second + nanos) / second = seconds + nanos / second := by
  rw [Nat.add_comm, Nat.add_mul_div_right _ _ (by decide : 0 < second), Nat.add_comm]

/-- Whole seconds among the nanoseconds count as seconds. -/
theorem ofParts?_eq_some_iff {seconds nanos : Nat} {span : Span} :
    ofParts? seconds nanos = some span ↔
      span.seconds = seconds + nanos / second ∧ span.subsec = nanos % second := by
  constructor
  · intro made
    obtain ⟨inRange, same⟩ := Option.dite_none_right_eq_some.mp made
    cases same
    exact ⟨div_parts seconds nanos, Nat.mul_add_mod_self_right seconds second nanos⟩
  · rintro ⟨whole, beyond⟩
    have same : seconds * second + nanos = span.seconds * second + span.subsec := by
      rw [whole, beyond, Nat.add_mul, Nat.add_assoc, Nat.div_add_mod']
    rw [ofParts?, same]
    exact span.ofParts?_parts

/-- Seconds and nanoseconds make up a span exactly if the seconds that are carried over leave the
seconds in range. -/
theorem exists_ofParts?_iff {seconds nanos : Nat} :
    (∃ span, ofParts? seconds nanos = some span) ↔ seconds + nanos / second < UInt64.size := by
  have inRange : seconds * second + nanos < bound ↔ seconds + nanos / second < UInt64.size := by
    rw [← div_parts, Nat.div_lt_iff_lt_mul (by decide : 0 < second), bound]
  rw [← inRange, ofParts?]
  split
  · rename_i below
    exact iff_of_true ⟨_, rfl⟩ below
  · rename_i beyond
    refine iff_of_false ?_ beyond
    rintro ⟨span, made⟩
    cases made

theorem Parts.ofValue?_eq {seconds nanos : Nat} {value : Value} (parts : Parts seconds nanos value)
    (inSeconds : seconds < UInt64.size) (inNanos : nanos < UInt32.size) :
    ofValue? value = ofParts? seconds nanos := by
  have numbers := ofNumbers?_of_lt inSeconds inNanos
  cases parts with
  | secondsFirst => simp [ofValue?, numbers]
  | nanosFirst =>
      have differ : nanosKey ≠ secondsKey := by decide
      simp [ofValue?, numbers, differ]
  | array => exact numbers

/-- A JSON value is read as the span that it gives. -/
theorem ofValue?_eq_some_iff {value : Value} {span : Span} :
    ofValue? value = some span ↔ Denotes value span := by
  constructor
  · intro read
    have given : ∃ seconds nanos, Parts seconds nanos value ∧ seconds < UInt64.size ∧
        nanos < UInt32.size ∧ ofParts? seconds nanos = some span := by
      unfold ofValue? at read
      split at read
      · obtain ⟨seconds, nanos, rfl, rfl, inRange⟩ := ofNumbers?_eq_some_iff.mp read
        exact ⟨seconds, nanos, .array, inRange⟩
      · split at read
        · rename_i names
          obtain ⟨rfl, rfl⟩ := names
          obtain ⟨seconds, nanos, rfl, rfl, inRange⟩ := ofNumbers?_eq_some_iff.mp read
          exact ⟨seconds, nanos, .secondsFirst, inRange⟩
        · obtain ⟨⟨rfl, rfl⟩, read⟩ := Option.ite_none_right_eq_some.mp read
          obtain ⟨seconds, nanos, rfl, rfl, inRange⟩ := ofNumbers?_eq_some_iff.mp read
          exact ⟨seconds, nanos, .nanosFirst, inRange⟩
      · cases read
    obtain ⟨seconds, nanos, parts, inSeconds, inNanos, made⟩ := given
    exact ⟨seconds, nanos, parts, inSeconds, inNanos, ofParts?_eq_some_iff.mp made⟩
  · rintro ⟨seconds, nanos, parts, inSeconds, inNanos, carried⟩
    rw [parts.ofValue?_eq inSeconds inNanos]
    exact ofParts?_eq_some_iff.mpr carried

end Span

namespace Config

/-! ## Fields -/

/-- Two configurations agree on a field. -/
def Agree (config other : Config) : Field → Prop
  | .protocolVersion => config.protocolVersion = other.protocolVersion
  | .acceptQueueCapacity => config.acceptQueueCapacity = other.acceptQueueCapacity
  | .handshakeTimeout => config.handshakeTimeout = other.handshakeTimeout
  | .hijackInterval => config.hijackInterval = other.hijackInterval

/-- A JSON value gives what a field of a configuration is. -/
def Gives (config : Config) (value : Value) : Field → Prop
  | .protocolVersion => value = .number (some config.protocolVersion.toNat)
  | .acceptQueueCapacity => value = .number (some config.acceptQueueCapacity.toNat)
  | .handshakeTimeout => Span.Denotes value config.handshakeTimeout
  | .hijackInterval => Span.Denotes value config.hijackInterval

/-- A JSON value is of the type of a field and in its range. -/
def Takes (value : Value) : Field → Prop
  | .protocolVersion => ∃ n, value = .number (some n) ∧ n < UInt8.size
  | .acceptQueueCapacity => ∃ n, value = .number (some n) ∧ n < UInt64.size
  | .handshakeTimeout => ∃ span, Span.Denotes value span
  | .hijackInterval => ∃ span, Span.Denotes value span

/-- Configurations that agree on all fields are equal. -/
theorem eq_of_agree {config other : Config} (agree : ∀ field, config.Agree other field) :
    config = other := by
  obtain ⟨version, capacity, timeout, interval⟩ := config
  have sameVersion : version = _ := agree .protocolVersion
  have sameCapacity : capacity = _ := agree .acceptQueueCapacity
  have sameTimeout : timeout = _ := agree .handshakeTimeout
  have sameInterval : interval = _ := agree .hijackInterval
  rw [sameVersion, sameCapacity, sameTimeout, sameInterval]

theorem Agree.refl (config : Config) (field : Field) : config.Agree config field := by
  cases field <;> rfl

theorem Agree.symm {config other : Config} {field : Field} (agree : config.Agree other field) :
    other.Agree config field := by
  cases field <;> exact Eq.symm agree

theorem Agree.trans {config other final : Config} {field : Field}
    (agree : config.Agree other field) (further : other.Agree final field) :
    config.Agree final field := by
  cases field <;> exact Eq.trans agree further

theorem Agree.gives_iff {config other : Config} {field : Field}
    (agree : config.Agree other field) (value : Value) :
    config.Gives value field ↔ other.Gives value field := by
  cases field <;> simp only [Agree] at agree <;> simp only [Gives, agree]

/-- A field takes the values that some configuration has there. -/
theorem takes_iff {value : Value} {field : Field} :
    Takes value field ↔ ∃ config : Config, config.Gives value field := by
  constructor
  · intro takes
    cases field with
    | protocolVersion =>
        obtain ⟨n, rfl, below⟩ := takes
        refine ⟨{ protocolVersion := UInt8.ofNat n }, ?_⟩
        rw [Gives, UInt8.toNat_ofNat_of_lt' below]
    | acceptQueueCapacity =>
        obtain ⟨n, rfl, below⟩ := takes
        refine ⟨{ acceptQueueCapacity := UInt64.ofNat n }, ?_⟩
        rw [Gives, UInt64.toNat_ofNat_of_lt' below]
    | handshakeTimeout =>
        obtain ⟨span, denotes⟩ := takes
        exact ⟨{ handshakeTimeout := span }, denotes⟩
    | hijackInterval =>
        obtain ⟨span, denotes⟩ := takes
        exact ⟨{ hijackInterval := span }, denotes⟩
  · rintro ⟨config, gives⟩
    cases field with
    | protocolVersion => exact ⟨_, gives, config.protocolVersion.toNat_lt⟩
    | acceptQueueCapacity => exact ⟨_, gives, config.acceptQueueCapacity.toNat_lt⟩
    | handshakeTimeout => exact ⟨_, gives⟩
    | hijackInterval => exact ⟨_, gives⟩

/-- One configuration with one field of another. -/
def withField (config other : Config) : Field → Config
  | .protocolVersion => { config with protocolVersion := other.protocolVersion }
  | .acceptQueueCapacity => { config with acceptQueueCapacity := other.acceptQueueCapacity }
  | .handshakeTimeout => { config with handshakeTimeout := other.handshakeTimeout }
  | .hijackInterval => { config with hijackInterval := other.hijackInterval }

theorem withField_agree (config other : Config) (field : Field) :
    (config.withField other field).Agree other field := by
  cases field <;> rfl

theorem agree_withField (config other : Config) {field different : Field}
    (differ : different ≠ field) : config.Agree (config.withField other field) different := by
  cases field <;> cases different <;> first | rfl | exact absurd rfl differ

/-- A value that a configuration gives a field is taken over from it. -/
theorem Gives.set?_eq {final : Config} {value : Value} {field : Field}
    (gives : final.Gives value field) (config : Config) :
    config.set? value field = some (config.withField final field) := by
  cases field with
  | protocolVersion =>
      have read := Json.Value.below?_eq_some_iff.mpr ⟨gives, final.protocolVersion.toNat_lt⟩
      rw [set?, read, Option.map_some, UInt8.ofNat_toNat, withField]
  | acceptQueueCapacity =>
      have read := Json.Value.below?_eq_some_iff.mpr ⟨gives, final.acceptQueueCapacity.toNat_lt⟩
      rw [set?, read, Option.map_some, UInt64.ofNat_toNat, withField]
  | handshakeTimeout =>
      rw [set?, Span.ofValue?_eq_some_iff.mpr gives, Option.map_some, withField]
  | hijackInterval =>
      rw [set?, Span.ofValue?_eq_some_iff.mpr gives, Option.map_some, withField]

/-- Setting a field gives it the value and leaves the others as they are. -/
theorem set?_eq_some_iff {config final : Config} {value : Value} {field : Field} :
    config.set? value field = some final ↔
      final.Gives value field ∧ ∀ other ≠ field, config.Agree final other := by
  constructor
  · intro made
    have gives : final.Gives value field := by
      cases field with
      | protocolVersion =>
          obtain ⟨n, read, rfl⟩ := Option.map_eq_some_iff.mp made
          obtain ⟨rfl, below⟩ := Json.Value.below?_eq_some_iff.mp read
          rw [Gives, UInt8.toNat_ofNat_of_lt' below]
      | acceptQueueCapacity =>
          obtain ⟨n, read, rfl⟩ := Option.map_eq_some_iff.mp made
          obtain ⟨rfl, below⟩ := Json.Value.below?_eq_some_iff.mp read
          rw [Gives, UInt64.toNat_ofNat_of_lt' below]
      | handshakeTimeout =>
          obtain ⟨span, read, rfl⟩ := Option.map_eq_some_iff.mp made
          exact Span.ofValue?_eq_some_iff.mp read
      | hijackInterval =>
          obtain ⟨span, read, rfl⟩ := Option.map_eq_some_iff.mp made
          exact Span.ofValue?_eq_some_iff.mp read
    have same := Option.some.inj (made.symm.trans (gives.set?_eq config))
    refine ⟨gives, fun other differ => ?_⟩
    rw [same]
    exact config.agree_withField final differ
  · rintro ⟨gives, agree⟩
    rw [gives.set?_eq, Option.some.injEq]
    refine eq_of_agree fun other => ?_
    by_cases same : other = field
    · rw [same]
      exact config.withField_agree final field
    · exact (config.agree_withField final same).symm.trans (agree other same)

/-! ## Objects -/

/-- The fields that the members of an object give, with their values. -/
def given (members : List (Option (List Char) × Value)) : List (Field × Value) :=
  members.filterMap fun member => (member.1.bind Field.ofKey?).map (·, member.2)

/-- A configuration has each given value in its field and is otherwise like another one. -/
structure Overrides (base : Config) (pairs : List (Field × Value)) (config : Config) : Prop where
  gives : ∀ pair ∈ pairs, config.Gives pair.2 pair.1
  keeps : ∀ field ∉ pairs.map Prod.fst, base.Agree config field

/-- A field is found by its name. -/
theorem ofKey?_key (field : Field) : Field.ofKey? field.key = some field := by
  cases field <;> decide

theorem ofKey?_eq_some_iff {name : List Char} {field : Field} :
    Field.ofKey? name = some field ↔ name = field.key := by
  constructor
  · intro found
    have named := List.find?_some (p := fun field : Field => field.key = name) found
    exact (of_decide_eq_true named).symm
  · rintro rfl
    exact ofKey?_key field

theorem mem_given {members : List (Option (List Char) × Value)} {field : Field} {value : Value} :
    (field, value) ∈ given members ↔ (some field.key, value) ∈ members := by
  simp only [given, List.mem_filterMap, Option.map_eq_some_iff, Option.bind_eq_some_iff,
    ofKey?_eq_some_iff, Prod.mk.injEq]
  constructor
  · rintro ⟨⟨_, _⟩, among, field, ⟨name, rfl, rfl⟩, rfl, rfl⟩
    exact among
  · intro among
    exact ⟨_, among, field, ⟨_, rfl, rfl⟩, rfl, rfl⟩

theorem mem_map_given {members : List (Option (List Char) × Value)} {field : Field} :
    field ∈ (given members).map Prod.fst ↔ some field.key ∈ members.map Prod.fst := by
  simp only [List.mem_map, Prod.exists, exists_and_right, exists_eq_right, mem_given]

/-- A field is given as often as there are members of its name. -/
theorem count_given (members : List (Option (List Char) × Value)) (field : Field) :
    ((given members).map Prod.fst).count field =
      (members.map Prod.fst).count (some field.key) := by
  induction members with
  | nil => rfl
  | cons member members ih =>
      obtain ⟨name, value⟩ := member
      cases name with
      | none => simpa [given] using ih
      | some name =>
          cases found : Field.ofKey? name with
          | none =>
              have other : name ≠ field.key := by
                intro same
                cases found.symm.trans (ofKey?_eq_some_iff.mpr same)
              simpa [given, found, other] using ih
          | some named =>
              have same : named = field ↔ name = field.key := by
                rw [← ofKey?_eq_some_iff, found, Option.some.injEq]
              simpa [given, found, List.count_cons, same] using ih

/-- Members that are named after fields give these fields. -/
theorem given_map_key (pairs : List (Field × Value)) :
    given (pairs.map fun pair => (some pair.1.key, pair.2)) = pairs := by
  rw [given, List.filterMap_map]
  refine (List.filterMap_congr fun pair _ => ?_).trans List.filterMap_some
  exact congrArg (Option.map (·, pair.2)) (ofKey?_key pair.1)

section

variable {base config : Config} {pairs others : List (Field × Value)}

/-- What is given can be given in any order. -/
theorem Overrides.perm (overrides : Overrides base pairs config) (same : pairs.Perm others) :
    Overrides base others config := by
  refine ⟨fun pair among => overrides.gives pair (same.mem_iff.mpr among), fun field apart => ?_⟩
  exact overrides.keeps field fun among => apart ((same.map Prod.fst).mem_iff.mp among)

theorem overrides_nil : Overrides base [] config ↔ base = config := by
  constructor
  · intro overrides
    exact eq_of_agree fun field => overrides.keeps field List.not_mem_nil
  · rintro rfl
    exact ⟨fun _ among => absurd among List.not_mem_nil, fun field _ => .refl base field⟩

/-- Setting one field and then the others; none of these may be the same field again, which would
undo what has been set. -/
theorem overrides_cons {field : Field} {value : Value} (apart : field ∉ pairs.map Prod.fst) :
    Overrides base ((field, value) :: pairs) config ↔
      ∃ next, base.set? value field = some next ∧ Overrides next pairs config := by
  constructor
  · intro overrides
    have gives := overrides.gives (field, value) List.mem_cons_self
    refine ⟨base.withField config field, gives.set?_eq base,
      fun pair among => overrides.gives pair (List.mem_cons_of_mem _ among), ?_⟩
    intro other outside
    by_cases same : other = field
    · rw [same]
      exact base.withField_agree config field
    · refine (base.agree_withField config same).symm.trans (overrides.keeps other ?_)
      rw [List.map_cons, List.mem_cons, not_or]
      exact ⟨same, outside⟩
  · rintro ⟨next, made, overrides⟩
    obtain ⟨gives, agree⟩ := set?_eq_some_iff.mp made
    constructor
    · rintro pair (_ | ⟨_, among⟩)
      · exact ((overrides.keeps field apart).gives_iff value).mp gives
      · exact overrides.gives pair among
    · intro other outside
      rw [List.map_cons, List.mem_cons, not_or] at outside
      exact (agree other outside.1).trans (overrides.keeps other outside.2)

/-- Any values that the fields take can be given together. -/
theorem exists_overrides_iff (base : Config) (distinct : (pairs.map Prod.fst).Nodup) :
    (∃ config, Overrides base pairs config) ↔ ∀ pair ∈ pairs, Takes pair.2 pair.1 := by
  constructor
  · rintro ⟨config, overrides⟩ pair among
    exact takes_iff.mpr ⟨config, overrides.gives pair among⟩
  · intro takes
    induction pairs generalizing base with
    | nil => exact ⟨base, overrides_nil.mpr rfl⟩
    | cons pair pairs ih =>
        obtain ⟨apart, distinct⟩ := List.nodup_cons.mp distinct
        obtain ⟨source, gives⟩ := takes_iff.mp (takes pair List.mem_cons_self)
        obtain ⟨config, overrides⟩ := ih (base.withField source pair.1) distinct
          fun later among => takes later (List.mem_cons_of_mem _ among)
        exact ⟨config, (overrides_cons apart).mpr ⟨_, gives.set?_eq base, overrides⟩⟩

end

/-- Members are taken over if all their names are text and each field is given once, within those
that are still to be given. -/
theorem setMembers?_eq_some_iff {config final : Config} {pending : List Field}
    {members : List (Option (List Char) × Value)} (distinct : pending.Nodup) :
    setMembers? config pending members = some final ↔
      (∀ member ∈ members, member.1 ≠ none) ∧ ((given members).map Prod.fst).Nodup ∧
        (∀ field ∈ (given members).map Prod.fst, field ∈ pending) ∧
        Overrides config (given members) final := by
  induction members generalizing config pending with
  | nil => simp [setMembers?, given, overrides_nil]
  | cons member members ih =>
      obtain ⟨name, value⟩ := member
      cases name with
      | none => simp [setMembers?]
      | some name =>
          cases found : Field.ofKey? name with
          | none =>
              have skips : given ((some name, value) :: members) = given members := by
                simp [given, found]
              simp only [setMembers?, found, skips, ih distinct, List.forall_mem_cons, ne_eq,
                reduceCtorEq, not_false_eq_true, true_and]
          | some field =>
              have gives : given ((some name, value) :: members) =
                  (field, value) :: given members := by
                simp [given, found]
              -- A field that has been set is no longer pending, so within what follows it is not
              -- given again: this is where "at most once" comes from.
              simp only [setMembers?, found, gives, List.forall_mem_cons, ne_eq,
                reduceCtorEq, not_false_eq_true, true_and, List.map_cons, List.nodup_cons,
                Option.ite_none_right_eq_some, Option.bind_eq_bind, Option.bind_eq_some_iff,
                ih (distinct.erase field), distinct.mem_erase_iff]
              constructor
              · rintro ⟨pends, next, made, named, once, within, overrides⟩
                have apart : field ∉ (given members).map Prod.fst :=
                  fun among => (within field among).1 rfl
                exact ⟨named, ⟨apart, once⟩, ⟨pends, fun other among => (within other among).2⟩,
                  (overrides_cons apart).mpr ⟨next, made, overrides⟩⟩
              · rintro ⟨named, ⟨apart, once⟩, ⟨pends, within⟩, overrides⟩
                obtain ⟨next, made, overrides⟩ := (overrides_cons apart).mp overrides
                refine ⟨pends, next, made, named, once, fun other among => ?_, overrides⟩
                exact ⟨ne_of_mem_of_not_mem among apart, within other among⟩

theorem nodup_all : Field.all.Nodup := by
  decide

theorem mem_all (field : Field) : field ∈ Field.all := by
  cases field <;> decide

/-- An object describes a configuration that overrides the defaults by what is given. -/
theorem ofValue?_object_iff {members : List (Option (List Char) × Value)} {config : Config} :
    ofValue? (.object members) = some config ↔ (∀ member ∈ members, member.1 ≠ none) ∧
      ((given members).map Prod.fst).Nodup ∧ Overrides {} (given members) config := by
  rw [ofValue?, setMembers?_eq_some_iff nodup_all]
  simp only [mem_all, implies_true, true_and]

/-- The order of the members does not matter, nor do those that give no field. -/
theorem ofValue?_object_perm {members others : List (Option (List Char) × Value)}
    (named : ∀ member ∈ members ++ others, member.1 ≠ none)
    (same : (given members).Perm (given others)) :
    ofValue? (.object members) = ofValue? (.object others) := by
  obtain ⟨named, namedOther⟩ := List.forall_mem_append.mp named
  have once := (same.map Prod.fst).nodup_iff
  refine Option.ext fun config => ?_
  rw [ofValue?_object_iff, ofValue?_object_iff]
  constructor
  · rintro ⟨_, distinct, overrides⟩
    exact ⟨namedOther, once.mp distinct, overrides.perm same⟩
  · rintro ⟨_, distinct, overrides⟩
    exact ⟨named, once.mpr distinct, overrides.perm same.symm⟩

/-- An object describes a configuration if all its names are text, no field is given twice and
each field takes its value. -/
theorem exists_ofValue?_object_iff {members : List (Option (List Char) × Value)} :
    (∃ config, ofValue? (.object members) = some config) ↔
      (∀ member ∈ members, member.1 ≠ none) ∧
        (∀ field : Field, (members.map Prod.fst).count (some field.key) ≤ 1) ∧
        ∀ (field : Field) (value : Value), (some field.key, value) ∈ members →
          Takes value field := by
  have once : ((given members).map Prod.fst).Nodup ↔
      ∀ field : Field, (members.map Prod.fst).count (some field.key) ≤ 1 := by
    simp only [List.nodup_iff_count_le_one, count_given]
  have taken : (∀ pair ∈ given members, Takes pair.2 pair.1) ↔
      ∀ (field : Field) (value : Value), (some field.key, value) ∈ members →
        Takes value field := by
    simp only [Prod.forall, mem_given]
  rw [← once, ← taken]
  simp only [ofValue?_object_iff]
  constructor
  · rintro ⟨config, named, distinct, overrides⟩
    exact ⟨named, distinct, (exists_overrides_iff {} distinct).mp ⟨config, overrides⟩⟩
  · rintro ⟨named, distinct, takes⟩
    obtain ⟨config, overrides⟩ := (exists_overrides_iff {} distinct).mpr takes
    exact ⟨config, named, distinct, overrides⟩

/-! ## Arrays -/

theorem map_fst_zip (fields : List Field) (elements : List Value) :
    (fields.zip elements).map Prod.fst = fields.take elements.length := by
  induction fields generalizing elements with
  | nil => simp
  | cons field fields ih => cases elements <;> simp [ih]

theorem setElements?_eq_some_iff {config final : Config} {fields : List Field}
    {elements : List Value} (distinct : fields.Nodup) :
    setElements? config fields elements = some final ↔
      elements.length ≤ fields.length ∧ Overrides config (fields.zip elements) final := by
  induction elements generalizing config fields with
  | nil => simp [setElements?, overrides_nil]
  | cons value elements ih =>
      cases fields with
      | nil => simp [setElements?]
      | cons field fields =>
          obtain ⟨apart, distinct⟩ := List.nodup_cons.mp distinct
          have apart : field ∉ (fields.zip elements).map Prod.fst := by
            rw [map_fst_zip]
            exact fun among => apart (List.mem_of_mem_take among)
          simp only [setElements?, List.zip_cons_cons, overrides_cons apart, Option.bind_eq_bind,
            Option.bind_eq_some_iff, ih distinct, List.length_cons, Nat.add_le_add_iff_right]
          constructor
          · rintro ⟨next, made, within, overrides⟩
            exact ⟨within, next, made, overrides⟩
          · rintro ⟨within, next, made, overrides⟩
            exact ⟨next, made, within, overrides⟩

/-- An array describes the configuration that overrides the defaults in the first fields. -/
theorem ofValue?_array_iff {elements : List Value} {config : Config} :
    ofValue? (.array elements) = some config ↔
      elements.length ≤ 4 ∧ Overrides {} (Field.all.zip elements) config :=
  setElements?_eq_some_iff nodup_all

theorem nodup_map_fst_zip (elements : List Value) :
    ((Field.all.zip elements).map Prod.fst).Nodup := by
  rw [map_fst_zip]
  exact nodup_all.sublist (List.take_sublist _ _)

/-- An array describes what an object does that gives its elements to the first fields. -/
theorem ofValue?_array_eq_object {elements : List Value}
    {members : List (Option (List Char) × Value)} (short : elements.length ≤ 4)
    (named : ∀ member ∈ members, member.1 ≠ none)
    (same : (given members).Perm (Field.all.zip elements)) :
    ofValue? (.array elements) = ofValue? (.object members) := by
  have once : ((given members).map Prod.fst).Nodup :=
    (same.map Prod.fst).nodup_iff.mpr (nodup_map_fst_zip elements)
  refine Option.ext fun config => ?_
  rw [ofValue?_array_iff, ofValue?_object_iff]
  constructor
  · rintro ⟨_, overrides⟩
    exact ⟨named, once, overrides.perm same.symm⟩
  · rintro ⟨_, _, overrides⟩
    exact ⟨short, overrides.perm same⟩

/-- An array describes a configuration if there is a field for each element that takes it. -/
theorem exists_ofValue?_array_iff {elements : List Value} :
    (∃ config, ofValue? (.array elements) = some config) ↔
      elements.length ≤ 4 ∧ ∀ pair ∈ Field.all.zip elements, Takes pair.2 pair.1 := by
  simp only [ofValue?_array_iff, exists_and_left,
    exists_overrides_iff {} (nodup_map_fst_zip elements)]

end Config

end Anteroom
