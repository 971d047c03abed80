import Anteroom.Proofs.Table

/-!
# Sound registries

The sessions of a registry and its table agree as long as an address is free
when a session is registered under it, and as long as a session has closed when
it is taken out of the table.  Both the sessions and the table only advance: a
session does not open again, and an entry that has gone does not come back.
-/

namespace Anteroom

/-- What becomes of a session: it stays that of its peer, it does not open again, and its handshake
stays complete. -/
structure Session.Advances (before after : Session) : Prop where
  address : after.address = before.address
  closed : before.isClosed = true → after.isClosed = true
  completed : before.isComplete = true → after.isComplete = true

namespace Session

theorem Advances.refl (session : Session) : session.Advances session where
  address := rfl
  closed := id
  completed := id

theorem Advances.trans {first second third : Session} (before : first.Advances second)
    (after : second.Advances third) : first.Advances third where
  address := after.address.trans before.address
  closed := after.closed ∘ before.closed
  completed := after.completed ∘ before.completed

theorem advances_fire (session : Session) (signal : Signal) :
    session.Advances (session.fire signal) where
  address := address_fire session signal
  closed := by
    intro closed
    rw [isClosed_fire, closed, Bool.true_or]
  completed := by
    intro complete
    rw [isComplete_fire, complete, Bool.true_or]

theorem advances_receive (session : Session) (datagram : Bytes) :
    session.Advances (session.receive datagram).1 where
  address := address_receive session datagram
  closed closed := isClosed_receive closed datagram
  completed complete := isComplete_receive complete datagram

theorem advances_recv (session : Session) : session.Advances session.recv.1 where
  address := address_recv session
  closed closed := (isClosed_recv session).trans closed
  completed complete := (isComplete_recv session).trans complete

theorem advances_close (session : Session) : session.Advances session.close.1 where
  address := address_close session
  closed _ := isClosed_close session
  completed complete := (isComplete_close session).trans complete

end Session

namespace Registry

/-! ## What becomes of a registry -/

/-- What becomes of a registry: its sessions advance, and an entry that appears in the table is
that of a new session. -/
structure Advances (before after : Registry) : Prop where
  sessions : ∀ {number : Nat} {session : Session}, before.session? number = some session →
    ∃ later, after.session? number = some later ∧ session.Advances later
  entries : ∀ {address : Address} {number : Nat}, after.table.find? address = some number →
    before.table.find? address = some number ∨ before.session? number = none

theorem Advances.refl (registry : Registry) : registry.Advances registry where
  sessions known := ⟨_, known, .refl _⟩
  entries := .inl

theorem Advances.trans {first second third : Registry} (before : first.Advances second)
    (after : second.Advances third) : first.Advances third where
  sessions := by
    intro number session known
    rcases before.sessions known with ⟨later, known, advance⟩
    rcases after.sessions known with ⟨last, known, again⟩
    exact ⟨last, known, advance.trans again⟩
  entries := by
    intro address number found
    rcases after.entries found with found | unknown
    · exact before.entries found
    · refine .inr ?_
      rw [Option.eq_none_iff_forall_ne_some]
      intro session known
      rcases before.sessions known with ⟨later, known, _⟩
      rw [unknown] at known
      cases known

theorem advances_modify (registry : Registry) (number : Nat) {change : Session → Session}
    (advances : ∀ session, registry.session? number = some session →
      session.Advances (change session)) : registry.Advances (registry.modify number change) where
  sessions := by
    intro other session known
    rw [session?_modify]
    split
    · rename_i same
      subst same
      exact ⟨change session, by rw [known]; rfl, advances session known⟩
    · exact ⟨session, known, .refl session⟩
  entries := .inl

theorem advances_enroll (registry : Registry) (session : Session) :
    registry.Advances ((registry.add session).register registry.sessions.length).1 := by
  rw [register_add]
  constructor
  · intro number older known
    refine ⟨older, (session?_add registry session number).trans ?_, .refl older⟩
    rw [if_neg (Nat.ne_of_lt (List.getElem?_eq_some_iff.mp known).1), known]
  · intro address number found
    simp only [Table.find?_insert] at found
    split at found
    · obtain rfl := Option.some.inj found
      exact .inr (List.getElem?_eq_none (Nat.le_refl _))
    · exact .inl found

theorem advances_unregister (registry : Registry) (number : Nat) :
    registry.Advances (registry.unregister number).1 where
  sessions known := ⟨_, (session?_unregister ..).trans known, .refl _⟩
  entries := by
    intro address other found
    rw [unregister] at found
    split at found
    · split at found
      · simp only [Table.find?_erase] at found
        split at found
        · cases found
        · exact .inl found
      · exact .inl found
    · exact .inl found

theorem advances_closeSession (registry : Registry) (number : Nat) :
    registry.Advances (registry.closeSession number).1 := by
  rw [closeSession_eq]
  exact registry.advances_modify number fun session _ => session.advances_close

theorem closeEach_cons (registry : Registry) (number : Nat) (numbers : List Nat) :
    registry.closeEach (number :: numbers) =
      (((registry.closeSession number).1.closeEach numbers).1,
        (registry.closeSession number).2.toList ++
          ((registry.closeSession number).1.closeEach numbers).2) :=
  rfl

theorem advances_closeEach (registry : Registry) (numbers : List Nat) :
    registry.Advances (registry.closeEach numbers).1 := by
  induction numbers generalizing registry with
  | nil => exact .refl registry
  | cons number numbers ih => exact (registry.advances_closeSession number).trans (ih _)

theorem advances_clear (registry : Registry) : registry.Advances registry.clear where
  sessions known := ⟨_, known, .refl _⟩
  entries found := by cases found

theorem advances_closeAll (registry : Registry) :
    registry.Advances registry.closeAll.1.clear :=
  (registry.advances_closeEach _).trans (advances_clear _)

/-! ## Sound registries -/

/-- The table and the sessions agree.  An entry is that of its session's own address, and a
session that has no entry is closed. -/
structure Sound (registry : Registry) : Prop where
  unique : registry.table.Unique
  keyed : ∀ {address : Address} {number : Nat}, registry.table.find? address = some number →
    ∃ session, registry.session? number = some session ∧ session.address = address
  live : ∀ {number : Nat} {session : Session}, registry.session? number = some session →
    session.isClosed = false → registry.table.find? session.address = some number

theorem sound_empty : Sound {} where
  unique := Table.unique_nil
  keyed found := by cases found
  live found := by cases found

/-- A registry that advances stays sound if no session is added and no entry but those of closed
sessions changes. -/
theorem Sound.of_advances {before after : Registry} (sound : before.Sound)
    (advances : before.Advances after) (size : after.sessions.length = before.sessions.length)
    (unique : after.table.Unique)
    (shrinks : ∀ {address : Address} {number : Nat}, after.table.find? address = some number →
      before.table.find? address = some number)
    (keeps : ∀ {address : Address} {number : Nat} {session : Session},
      after.session? number = some session → session.isClosed = false →
      before.table.find? address = some number → after.table.find? address = some number) :
    after.Sound where
  unique := unique
  keyed := by
    intro address number found
    rcases sound.keyed (shrinks found) with ⟨session, known, keyed⟩
    rcases advances.sessions known with ⟨later, still, advance⟩
    exact ⟨later, still, advance.address.trans keyed⟩
  live := by
    intro number later still running
    have inside : number < before.sessions.length :=
      size ▸ (List.getElem?_eq_some_iff.mp still).1
    have known : before.session? number = some before.sessions[number] :=
      List.getElem?_eq_getElem inside
    rcases advances.sessions known with ⟨same, again, advance⟩
    rw [still] at again
    cases again
    apply keeps still running
    rw [advance.address]
    apply sound.live known
    cases closed : before.sessions[number].isClosed with
    | false => rfl
    | true => exact absurd (advance.closed closed) (Bool.eq_false_iff.mp running)

theorem Sound.modify {registry : Registry} (sound : registry.Sound) (number : Nat)
    {change : Session → Session}
    (advances : ∀ session, registry.session? number = some session →
      session.Advances (change session)) :
    (registry.modify number change).Sound :=
  sound.of_advances (registry.advances_modify number advances) (length_modify ..) sound.unique id
    fun _ _ => id

theorem Sound.closeSession {registry : Registry} (sound : registry.Sound) (number : Nat) :
    (registry.closeSession number).1.Sound := by
  rw [closeSession_eq]
  exact sound.modify number fun session _ => session.advances_close

/-! ## A session is registered -/

/-- Registering a new session is sound if its address is free. -/
theorem Sound.enroll {registry : Registry} (sound : registry.Sound) {session : Session}
    (free : registry.table.find? session.address = none) :
    ((registry.add session).register registry.sessions.length).1.Sound := by
  rw [register_add]
  constructor
  · exact sound.unique.insert session.address registry.sessions.length
  · intro address number found
    simp only [Table.find?_insert] at found
    split at found
    · rename_i same
      obtain rfl := Option.some.inj found
      refine ⟨session, ?_, same.symm⟩
      exact (session?_add registry session _).trans (if_pos rfl)
    · rcases sound.keyed found with ⟨older, known, keyed⟩
      refine ⟨older, (session?_add registry session number).trans ?_, keyed⟩
      rw [if_neg (Nat.ne_of_lt (List.getElem?_eq_some_iff.mp known).1), known]
  · intro number other known running
    have known : (registry.add session).session? number = some other := known
    rw [session?_add] at known
    simp only [Table.find?_insert]
    split at known
    · rename_i last
      obtain rfl := Option.some.inj known
      rw [if_pos rfl, last]
    · have registered := sound.live known running
      have apart : other.address ≠ session.address := by
        intro same
        rw [same, free] at registered
        cases registered
      rw [if_neg apart, registered]

/-! ## A session is taken out -/

/-- Unregistering a session removes its own entry and no other one. -/
theorem Sound.find?_unregister {registry : Registry} (sound : registry.Sound) (number : Nat)
    (address : Address) :
    (registry.unregister number).1.table.find? address =
      if registry.table.find? address = some number then none
      else registry.table.find? address := by
  rw [unregister]
  cases known : registry.session? number with
  | none =>
      rw [if_neg]
      intro found
      rcases sound.keyed found with ⟨session, exists?, _⟩
      rw [known] at exists?
      cases exists?
  | some session =>
      have owned : registry.table.find? address = some number → session.address = address := by
        intro found
        rcases sound.keyed found with ⟨same, exists?, keyed⟩
        rw [known] at exists?
        cases exists?
        exact keyed
      by_cases registered : registry.table.find? session.address = some number
      · simp only [if_pos registered, Table.find?_erase]
        by_cases same : address = session.address
        · rw [if_pos same, same, if_pos registered]
        · rw [if_neg same, if_neg fun found => same (owned found).symm]
      · have other : registry.table.find? address ≠ some number := by
          intro found
          exact registered ((owned found).symm ▸ found)
        simp only [if_neg registered, if_neg other]

/-- An entry that unregistering removes is that of the session that is unregistered. -/
theorem Sound.removed_unregister {registry : Registry} (sound : registry.Sound) {number other : Nat}
    {address : Address} (registered : registry.table.find? address = some other)
    (gone : (registry.unregister number).1.table.find? address ≠ some other) :
    number = other ∧ (registry.unregister number).1.table.find? address = none := by
  rw [sound.find?_unregister, registered] at gone ⊢
  by_cases same : other = number
  · subst same
    exact ⟨rfl, if_pos rfl⟩
  · exact absurd (if_neg fun found => same (Option.some.inj found)) gone

/-- It is so too if the session is closed before. -/
theorem Sound.removed_unregister_closeSession {registry : Registry} (sound : registry.Sound)
    {number other : Nat} {address : Address}
    (registered : registry.table.find? address = some other)
    (gone : ((registry.closeSession number).1.unregister number).1.table.find? address ≠
      some other) :
    number = other ∧
      ((registry.closeSession number).1.unregister number).1.table.find? address = none := by
  have kept : (registry.closeSession number).1.table.find? address = some other := by
    rw [table_closeSession]
    exact registered
  exact (sound.closeSession number).removed_unregister kept gone

theorem unique_unregister {registry : Registry} (unique : registry.table.Unique)
    (number : Nat) : (registry.unregister number).1.table.Unique := by
  rw [unregister]
  split
  · split
    · exact unique.erase _
    · exact unique
  · exact unique

/-- Unregistering is sound for a session that has closed. -/
theorem Sound.unregister {registry : Registry} (sound : registry.Sound) {number : Nat}
    (closed : ∀ session, registry.session? number = some session → session.isClosed = true) :
    (registry.unregister number).1.Sound := by
  apply sound.of_advances (registry.advances_unregister number)
  · rw [sessions_unregister]
  · exact unique_unregister sound.unique number
  · intro address other found
    rw [sound.find?_unregister] at found
    split at found
    · cases found
    · exact found
  · intro address other session known running registered
    rw [session?_unregister] at known
    rw [sound.find?_unregister, registered, if_neg]
    intro same
    cases same
    rw [closed session known] at running
    cases running

/-! ## All sessions are closed -/

@[simp]
theorem length_closeEach (registry : Registry) (numbers : List Nat) :
    (registry.closeEach numbers).1.sessions.length = registry.sessions.length := by
  induction numbers generalizing registry with
  | nil => rfl
  | cons number numbers ih => rw [closeEach_cons, ih, length_closeSession]

/-- Closing several sessions closes each of them once. -/
theorem session?_closeEach (registry : Registry) {numbers : List Nat} (distinct : numbers.Nodup)
    (number : Nat) :
    (registry.closeEach numbers).1.session? number =
      if number ∈ numbers then (registry.session? number).map fun session => session.close.1
      else registry.session? number := by
  induction numbers generalizing registry with
  | nil => rfl
  | cons first others ih =>
      rcases List.nodup_cons.mp distinct with ⟨fresh, distinct⟩
      rw [closeEach_cons, ih _ distinct, session?_closeSession]
      by_cases same : first = number
      · subst same
        simp [fresh]
      · simp [same, Ne.symm same]

theorem snd_closeSession (registry : Registry) (number : Nat) :
    (registry.closeSession number).2 =
      (registry.session? number).bind fun session =>
        session.closeFault.map fun cause => { peer := session.address, cause } := by
  rw [Registry.closeSession]
  cases registry.session? number <;> rfl

/-- The failure that closing a session ends in does not depend on which sessions have been closed
before. -/
theorem closeSession_closeSession (registry : Registry) (first number : Nat) :
    ((registry.closeSession first).1.closeSession number).2 = (registry.closeSession number).2 := by
  rw [snd_closeSession, snd_closeSession, session?_closeSession]
  by_cases same : first = number
  · subst same
    rw [if_pos rfl]
    cases registry.session? first <;> rfl
  · rw [if_neg same]

/-- The failures of closing several sessions are those of closing each of them. -/
theorem failures_closeEach (registry : Registry) (numbers : List Nat) :
    (registry.closeEach numbers).2 =
      numbers.filterMap fun number => (registry.closeSession number).2 := by
  induction numbers generalizing registry with
  | nil => rfl
  | cons number numbers ih =>
      rw [closeEach_cons, ih]
      simp only [closeSession_closeSession]
      cases failure : (registry.closeSession number).2 <;> simp [failure]

/-- What is registered is found under the address of its session. -/
theorem Sound.mem_numbers_iff {registry : Registry} (sound : registry.Sound) {number : Nat} :
    number ∈ registry.table.numbers ↔
      ∃ session, registry.session? number = some session ∧
        registry.table.find? session.address = some number := by
  rw [Table.mem_numbers_iff sound.unique]
  constructor
  · rintro ⟨address, found⟩
    rcases sound.keyed found with ⟨session, known, rfl⟩
    exact ⟨session, known, found⟩
  · rintro ⟨session, _, found⟩
    exact ⟨session.address, found⟩

/-- No session is registered twice. -/
theorem Sound.nodup_numbers {registry : Registry} (sound : registry.Sound) :
    registry.table.numbers.Nodup := by
  apply Table.nodup_numbers sound.unique
  intro address other number found found'
  rcases sound.keyed found with ⟨session, known, rfl⟩
  obtain ⟨session', known', rfl⟩ := sound.keyed found'
  rw [known] at known'
  cases known'
  rfl

/-- No two registered sessions have the same address. -/
theorem Sound.number_unique {registry : Registry} (sound : registry.Sound)
    {number other : Nat} (registered : number ∈ registry.table.numbers)
    (also : other ∈ registry.table.numbers) {session rival : Session}
    (found : registry.session? number = some session) (known : registry.session? other = some rival)
    (same : session.address = rival.address) : number = other := by
  rcases sound.mem_numbers_iff.mp registered with ⟨_, first, entry⟩
  rcases sound.mem_numbers_iff.mp also with ⟨_, second, rivalEntry⟩
  rw [found] at first
  rw [known] at second
  cases first
  cases second
  rw [same, rivalEntry] at entry
  exact (Option.some.inj entry).symm

/-- Closing everything that is registered leaves no session open. -/
theorem Sound.isClosed_closeAll {registry : Registry} (sound : registry.Sound) {number : Nat}
    {session : Session} (known : registry.closeAll.1.session? number = some session) :
    session.isClosed = true := by
  rw [closeAll, session?_closeEach registry sound.nodup_numbers] at known
  split at known
  · rcases Option.map_eq_some_iff.mp known with ⟨before, _, rfl⟩
    exact before.isClosed_close
  · rename_i unregistered
    cases running : session.isClosed with
    | true => rfl
    | false =>
        have registered := sound.live known running
        exact absurd (sound.mem_numbers_iff.mpr ⟨session, known, registered⟩) unregistered

/-- After everything that is registered has been closed, the table may be emptied. -/
theorem Sound.clear_closeAll {registry : Registry} (sound : registry.Sound) :
    registry.closeAll.1.clear.Sound := by
  apply sound.of_advances (registry.advances_closeAll)
  · exact registry.length_closeEach _
  · exact Table.unique_nil
  · intro address number found
    cases found
  · intro address number session known running
    rw [sound.isClosed_closeAll known] at running
    cases running

/-! ## What has left the table does not come back -/

/-- The session has closed and has left the table. -/
def Retired (registry : Registry) (number : Nat) : Prop :=
  ∃ session, registry.session? number = some session ∧ session.isClosed = true ∧
    registry.table.find? session.address ≠ some number

/-- What has left the table does not come back. -/
theorem Retired.mono {before after : Registry} {number : Nat} (retired : before.Retired number)
    (advances : before.Advances after) : after.Retired number := by
  rcases retired with ⟨session, known, closed, unregistered⟩
  rcases advances.sessions known with ⟨later, still, advance⟩
  refine ⟨later, still, advance.closed closed, ?_⟩
  intro found
  rw [advance.address] at found
  rcases advances.entries found with registered | unknown
  · exact unregistered registered
  · rw [known] at unknown
    cases unknown

/-- What has left the table is not found under its address. -/
theorem Retired.unregistered {registry : Registry} {number : Nat} {session : Session}
    (retired : registry.Retired number) (known : registry.session? number = some session) :
    registry.table.find? session.address ≠ some number := by
  rcases retired with ⟨same, again, _, unregistered⟩
  rw [known] at again
  cases again
  exact unregistered

theorem Sound.not_mem_numbers {registry : Registry} (sound : registry.Sound) {number : Nat}
    (retired : registry.Retired number) : number ∉ registry.table.numbers := by
  intro member
  rcases sound.mem_numbers_iff.mp member with ⟨session, known, registered⟩
  exact retired.unregistered known registered

/-- A session that is closed and then unregistered is retired. -/
theorem retired_unregister_closeSession {registry : Registry} (sound : registry.Sound)
    {number : Nat} {session : Session} (known : registry.session? number = some session) :
    ((registry.closeSession number).1.unregister number).1.Retired number := by
  refine ⟨session.close.1, ?_, session.isClosed_close, ?_⟩
  · rw [session?_unregister, session?_closeSession, if_pos rfl, known]
    rfl
  · rw [(sound.closeSession number).find?_unregister]
    split
    · intro found
      cases found
    · rename_i other
      exact other

/-! ## What a step of a listener does to its registry -/

/-- What can become of a registry in a step of its listener. -/
inductive Became (before : Registry) (shutdown : Bool) : Registry → Prop
  | same : Became before shutdown before
  | changed {number : Nat} {change : Session → Session}
      (advances : ∀ session, before.session? number = some session →
        session.Advances (change session)) : Became before shutdown (before.modify number change)
  /-- A session is created, though not during a shutdown, under an address that is free. -/
  | enrolled {session : Session} (running : shutdown = false)
      (free : before.table.find? session.address = none) :
      Became before shutdown ((before.add session).register before.sessions.length).1
  /-- The watcher of a session that has closed unregisters it. -/
  | evicted {number : Nat}
      (closed : ∀ session, before.session? number = some session → session.isClosed = true) :
      Became before shutdown (before.unregister number).1
  /-- The time of a session to complete is up. -/
  | expired {number : Nat} :
      Became before shutdown ((before.closeSession number).1.unregister number).1
  | emptied : Became before shutdown before.closeAll.1.clear

theorem Became.advances {before after : Registry} {shutdown : Bool}
    (became : before.Became shutdown after) : before.Advances after := by
  cases became with
  | same => exact .refl _
  | changed advances => exact before.advances_modify _ advances
  | enrolled => exact before.advances_enroll _
  | evicted => exact before.advances_unregister _
  | expired => exact (before.advances_closeSession _).trans (advances_unregister _ _)
  | emptied => exact before.advances_closeAll

theorem Became.sound {before after : Registry} {shutdown : Bool}
    (became : before.Became shutdown after) (sound : before.Sound) : after.Sound := by
  cases became with
  | same => exact sound
  | changed advances => exact sound.modify _ advances
  | enrolled running free => exact sound.enroll free
  | evicted closed => exact sound.unregister closed
  | @expired number =>
      apply (sound.closeSession number).unregister
      intro session known
      rw [session?_closeSession, if_pos rfl] at known
      rcases Option.map_eq_some_iff.mp known with ⟨earlier, _, rfl⟩
      exact earlier.isClosed_close
  | emptied => exact sound.clear_closeAll

/-- At most one session is created, none during a shutdown, and it is registered under an address
that is free. -/
theorem Became.created_or {before after : Registry} {shutdown : Bool}
    (became : before.Became shutdown after) :
    after.sessions.length = before.sessions.length ∨
      shutdown = false ∧ ∃ session : Session, before.table.find? session.address = none ∧
        after = ((before.add session).register before.sessions.length).1 := by
  cases became with
  | same => exact .inl rfl
  | changed => exact .inl (length_modify ..)
  | enrolled running free => exact .inr ⟨running, _, free, rfl⟩
  | evicted => exact .inl (congrArg List.length (sessions_unregister _ _))
  | expired =>
      apply Or.inl
      rw [sessions_unregister, length_closeSession]
  | emptied => exact .inl (length_closeEach _ _)

/-! ## What sessions show -/

variable {α : Type} (field : Session → α) (absent : α)

/-- What a session shows; `absent`, if it does not exist yet. -/
def look (registry : Registry) (number : Nat) : α :=
  ((registry.session? number).map field).getD absent

theorem look_eq {registry : Registry} {number : Nat} {session : Session}
    (known : registry.session? number = some session) :
    registry.look field absent number = field session := by
  rw [look, known]
  rfl

theorem look_modify (registry : Registry) (number : Nat) {change : Session → Session}
    (keeps : ∀ session, field (change session) = field session) (other : Nat) :
    (registry.modify number change).look field absent other = registry.look field absent other := by
  rw [look, look, session?_modify]
  split
  · cases registry.session? other with
    | none => rfl
    | some session => exact keeps session
  · rfl

theorem look_unregister (registry : Registry) (number other : Nat) :
    (registry.unregister number).1.look field absent other = registry.look field absent other := by
  rw [look, look, session?_unregister]

/-- A session that is registered for the first time shows as much as if it did not exist. -/
theorem look_enroll (registry : Registry) {session : Session} (fresh : field session = absent)
    (number : Nat) :
    ((registry.add session).register registry.sessions.length).1.look field absent number =
      registry.look field absent number := by
  rw [look, look, session?_register, session?_add]
  split
  · rename_i last
    have unknown : registry.session? number = none :=
      List.getElem?_eq_none (Nat.le_of_eq last.symm)
    rw [unknown]
    exact fresh
  · rfl

end Registry

end Anteroom
