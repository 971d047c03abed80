import Anteroom.Proofs.Handles

/-!
# Closing all sessions

Closing all sessions asks each registered one to close, once, and no other
one, whatever failures there are; it takes nothing out of the table.  In which
order they are asked shows only in the failure that is reported, which is the
first.
-/

namespace Anteroom.Registry

/-- Closing the session of a number fails. -/
def Fails (registry : Registry) (number : Nat) (failure : CloseError) : Prop :=
  ∃ session, registry.session? number = some session ∧ session.address = failure.peer ∧
    session.closeFault = some failure.cause

theorem snd_closeSession_eq_some_iff {registry : Registry} {number : Nat} {failure : CloseError} :
    (registry.closeSession number).2 = some failure ↔ registry.Fails number failure := by
  rw [snd_closeSession, Fails, Option.bind_eq_some_iff]
  constructor
  · rintro ⟨session, known, failed⟩
    rcases Option.map_eq_some_iff.mp failed with ⟨cause, fails, rfl⟩
    exact ⟨session, known, rfl, fails⟩
  · rintro ⟨session, known, peer, fails⟩
    refine ⟨session, known, ?_⟩
    rw [fails, Option.map_some, peer]

theorem snd_closeSession_eq_none_iff {registry : Registry} {number : Nat} :
    (registry.closeSession number).2 = none ↔ ∀ failure, ¬ registry.Fails number failure := by
  rw [Option.eq_none_iff_forall_ne_some]
  exact forall_congr' fun failure => not_congr snd_closeSession_eq_some_iff

/-! ## What is reported -/

theorem closeResult_eq_ok_iff {failures : List CloseError} :
    closeResult failures = .ok () ↔ failures = [] := by
  cases failures <;> simp [closeResult]

theorem closeResult_eq_error_iff {failures : List CloseError} {failure : CloseError} :
    closeResult failures = .error failure ↔ failures.head? = some failure := by
  cases failures <;> simp [closeResult]

/-- Closing sessions succeeds if none of them fails to close. -/
theorem closeResult_closeEach_eq_ok_iff {registry : Registry} {numbers : List Nat} :
    closeResult (registry.closeEach numbers).2 = .ok () ↔
      ∀ number ∈ numbers, ∀ failure, ¬ registry.Fails number failure := by
  rw [closeResult_eq_ok_iff, failures_closeEach, List.filterMap_eq_nil_iff]
  exact forall₂_congr fun number _ => snd_closeSession_eq_none_iff

/-- The failure that is reported is that of the first session that fails to close. -/
theorem closeResult_closeEach_eq_error_iff {registry : Registry} {numbers : List Nat}
    {failure : CloseError} :
    closeResult (registry.closeEach numbers).2 = .error failure ↔
      ∃ before number after, numbers = before ++ number :: after ∧
        registry.Fails number failure ∧
        ∀ earlier ∈ before, ∀ other, ¬ registry.Fails earlier other := by
  rw [closeResult_eq_error_iff, failures_closeEach, List.head?_filterMap,
    List.findSome?_eq_some_iff]
  simp only [snd_closeSession_eq_some_iff, snd_closeSession_eq_none_iff]

/-! ## What is registered -/

/-- A registered number is found under the address of its session. -/
theorem Represents.session_of_mem {registry : Registry} {handles : Handles}
    (represents : registry.Represents handles) {number : Nat}
    (registered : number ∈ registry.table.numbers) :
    ∃ session, registry.session? number = some session ∧
      registry.table.find? session.address = some number := by
  rcases represents.mem_numbers_iff.mp registered with ⟨address, entry⟩
  rcases Option.map_eq_some_iff.mp (represents.owned entry) with ⟨session, known, rfl⟩
  exact ⟨session, known, (represents.find _).trans entry⟩

/-! ## The order does not matter -/

/-- Closing the same sessions in another order leads to the same registry. -/
theorem closeEach_perm (registry : Registry) {first second : List Nat} (distinct : first.Nodup)
    (same : first.Perm second) : (registry.closeEach first).1 = (registry.closeEach second).1 := by
  have tables : (registry.closeEach first).1.table = (registry.closeEach second).1.table := by
    rw [table_closeEach, table_closeEach]
  have sessions : (registry.closeEach first).1.sessions = (registry.closeEach second).1.sessions := by
    apply List.ext_getElem?
    intro number
    have one := registry.session?_closeEach distinct number
    have other := registry.session?_closeEach (same.nodup_iff.mp distinct) number
    simp only [same.mem_iff] at one
    exact one.trans other.symm
  cases left : (registry.closeEach first).1
  cases right : (registry.closeEach second).1
  rw [left, right] at tables sessions
  cases tables
  cases sessions
  rfl

/-- In whatever order the sessions that requests have registered are closed, each of them is closed
once and no other one is touched, whichever of them fail to close, and the table stays as it is.
This succeeds exactly if none of them fails to close, and else reports the first failure with the
address that its session is registered under. -/
theorem closeEach_registered {registry last : Registry} {requests : List Request}
    {answers : List Answer} (new : registry.table = [])
    (served : registry.serveAll requests = (last, answers)) {order : List Nat}
    (visited : order.Perm last.table.numbers) :
    (∀ number ∈ last.table.numbers, ∃ session after, last.session? number = some session ∧
      (last.closeEach order).1.session? number = some after ∧
      after.closes = session.closes + 1) ∧
    (∀ number, number ∉ last.table.numbers →
      (last.closeEach order).1.session? number = last.session? number) ∧
    (last.closeEach order).1.table = last.table ∧
    (last.closeEach order).1 = last.closeAll.1 ∧
    (closeResult (last.closeEach order).2 = .ok () ↔
      ∀ number ∈ last.table.numbers, ∀ failure, ¬ last.Fails number failure) ∧
    (∀ failure, closeResult (last.closeEach order).2 = .error failure →
      ∃ before number after, order = before ++ number :: after ∧
        last.table.find? failure.peer = some number ∧ last.Fails number failure ∧
        ∀ earlier ∈ before, ∀ other, ¬ last.Fails earlier other) := by
  have represents := ((represents_empty new).serveAll requests).1
  rw [served] at represents
  have distinct : order.Nodup := visited.nodup_iff.mpr represents.nodup_numbers
  refine ⟨?_, ?_, table_closeEach last order, last.closeEach_perm distinct visited, ?_, ?_⟩
  · intro number registered
    rcases represents.session_of_mem registered with ⟨session, known, _⟩
    refine ⟨session, session.close.1, known, ?_, session.closes_close⟩
    rw [session?_closeEach last distinct, if_pos (visited.mem_iff.mpr registered), known]
    rfl
  · intro number unregistered
    rw [session?_closeEach last distinct, if_neg (mt visited.mem_iff.mp unregistered)]
  · rw [closeResult_closeEach_eq_ok_iff]
    simp only [visited.mem_iff]
  · intro failure reported
    rcases closeResult_closeEach_eq_error_iff.mp reported with
      ⟨before, number, after, rfl, fails, fine⟩
    have registered : number ∈ last.table.numbers := visited.mem_iff.mp (by simp)
    rcases represents.session_of_mem registered with ⟨session, known, found⟩
    refine ⟨before, number, after, rfl, ?_, fails, fine⟩
    rcases fails with ⟨same, again, peer, _⟩
    rw [known] at again
    cases again
    rw [← peer]
    exact found

/-- A session that fails to close. -/
def stubborn (port : UInt16) : Session :=
  .scripted { closeFault := some (.closed (.v4 0x7F000001 port)) } (.v4 0x7F000001 port) 1400 7

/-- Two sessions that fail to close, and two of the same peer that do not. -/
def mixed : Registry where
  sessions :=
    [stubborn 4000, .raw (.v4 0x7F000001 4001) 1400 7, stubborn 4002,
      .raw (.v4 0x7F000001 4001) 1400 8]

/-- The session that has been displaced is not closed, and of the two failures the one that comes
first in the order is reported. -/
theorem closeEach_registered_of_failures :
    ∃ (last : Registry) (answers : List Answer),
      mixed.serveAll [.insert 0, .insert 1, .insert 2, .insert 3] = (last, answers) ∧
      [2, 3, 0].Perm last.table.numbers ∧
      (last.closeEach [2, 3, 0]).1.session? 1 = last.session? 1 ∧
      (last.closeEach [2, 3, 0]).1.sessions.map Session.closes = [1, 0, 1, 1] ∧
      closeResult (last.closeEach [2, 3, 0]).2 =
        .error { peer := .v4 0x7F000001 4002, cause := .closed (.v4 0x7F000001 4002) } := by
  have served := Prod.eta (mixed.serveAll [.insert 0, .insert 1, .insert 2, .insert 3])
  have visited : [2, 3, 0].Perm
      (mixed.serveAll [.insert 0, .insert 1, .insert 2, .insert 3]).1.table.numbers := by decide
  have untouched := (closeEach_registered rfl served.symm visited).2.1 1 (by decide)
  exact ⟨_, _, served.symm, visited, untouched, rfl, rfl⟩

end Anteroom.Registry
