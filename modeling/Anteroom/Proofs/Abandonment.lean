import Anteroom.Proofs.Calls
import Anteroom.Proofs.Roster

/-!
# Abandoned accept calls

An accept call may be abandoned whenever it is under way.  While it waits for a
candidate this moves no session.  Once it has a candidate in hand, nobody else
knows of the candidate: the call is abandoned together with it, and it stays in
the table, open or closed, neither returned nor timed out by any later call,
until the listener shuts down.  That is the only way in which an open session
gets stuck.
-/

namespace Anteroom.Listener

/-! ## What abandoning a call does -/

/-- A call without a candidate takes nothing with it. -/
theorem whereabouts_leave {l : Listener} {call : Nat}
    (without : ∀ candidate ∈ l.inHand, candidate.call ≠ call) :
    (l.leave call).whereabouts = l.whereabouts := by
  have noCandidate : l.inHand.find? (·.call = call) = none := by
    simpa using without
  rw [leave, noCandidate]
  split <;> rfl

/-- A call with a candidate in hand is abandoned together with it. -/
theorem Serving.leave_eq {l : Listener} (serving : l.Serving) {candidate : Candidate}
    (found : candidate ∈ l.inHand) :
    l.leave candidate.call =
      { l with
        inHand := l.inHand.erase candidate
        fates := l.fates ++ [(candidate.session, .abandoned)] } := by
  have first : l.inHand.find? (·.call = candidate.call) = some candidate := by
    have listed : (l.inHand.find? (·.call = candidate.call)).isSome = true := by
      rw [List.find?_isSome]
      exact ⟨candidate, found, decide_eq_true rfl⟩
    rcases Option.isSome_iff_exists.mp listed with ⟨other, finds⟩
    have same : other.call = candidate.call := by simpa using List.find?_some finds
    rw [finds, serving.unique (List.mem_of_find?_eq_some finds) found same]
  rw [leave, if_neg (serving.not_mem_waiting found), first]
  rfl

/-- A session that has been abandoned along a schedule has been so with the call that had it in
hand. -/
theorem abandoned_or_follow {l last : Listener} {steps : List Step}
    (followed : l.follow steps = some last) {number : Nat}
    (abandoned : (number, Fate.abandoned) ∈ last.fates) :
    (number, Fate.abandoned) ∈ l.fates ∨
      ∃ first candidate rest middle, steps = first ++ .command (.abandon candidate.call) :: rest ∧
        l.follow first = some middle ∧ candidate ∈ middle.inHand ∧ candidate.session = number := by
  induction steps generalizing l with
  | nil =>
      cases followed
      exact .inl abandoned
  | cons step steps ih =>
      rcases follow_cons_eq_some_iff.mp followed with ⟨next, after, later⟩
      rcases ih later with earlier | ⟨first, candidate, rest, middle, rfl, reached, found, own⟩
      · have went := went_of_after? after
        rcases went.abandoned_or earlier with before | ⟨candidate, found, rfl, own⟩
        · exact .inl before
        · exact .inr ⟨[], candidate, steps, l, rfl, rfl, found, own⟩
      · have reached := follow_cons_eq_some_iff.mpr ⟨next, after, reached⟩
        exact .inr ⟨step :: first, candidate, rest, middle, rfl, reached, found, own⟩

/-- A session is abandoned by abandoning the call that has it in hand, and in no other way. -/
theorem abandoned_follow {setup : Setup} {steps : List Step} {l : Listener}
    (followed : (start setup).follow steps = some l) {number : Nat} :
    (number, .abandoned) ∈ l.fates ↔
      ∃ first candidate rest middle, steps = first ++ .command (.abandon candidate.call) :: rest ∧
        (start setup).follow first = some middle ∧ candidate ∈ middle.inHand ∧
          candidate.session = number := by
  constructor
  · intro abandoned
    exact (abandoned_or_follow followed abandoned).resolve_left List.not_mem_nil
  · rintro ⟨first, candidate, rest, middle, rfl, reached, found, rfl⟩
    rcases follow_append_eq_some_iff.mp followed with ⟨same, again, later⟩
    rw [reached] at again
    cases again
    rcases follow_cons_eq_some_iff.mp later with ⟨next, after, later⟩
    have tracked := (went_of_after? after).tracked (tracked_follow reached)
    apply fates_follow tracked later
    cases after
    rw [issue, (serving_follow reached).leave_eq found]
    exact List.mem_append_right _ List.mem_cons_self

/-! ## Which sessions get stuck -/

/-- Along every schedule each open session that has not been returned waits to be served for as
long as the listener has not been shut down, unless the accept call that had it in hand has been
abandoned.  Abandoning a call that has no candidate moves no session; a session is abandoned by
abandoning the call that has it in hand, and then it stays in the table, neither returned nor timed
out, until the listener shuts down. -/
theorem awaits_iff_not_abandoned {setup : Setup} {steps : List Step} {l : Listener}
    (followed : (start setup).follow steps = some l) :
    (l.shutdown = false → ∀ number session, l.registry.session? number = some session →
      session.isClosed = false → (∀ call, .returned call number ∉ l.events) →
        (l.Awaits number ↔ (number, .abandoned) ∉ l.fates)) ∧
    (∀ call, (∀ candidate ∈ l.inHand, candidate.call ≠ call) →
      (l.issue (.abandon call)).whereabouts = l.whereabouts) ∧
    (∀ number, (number, .abandoned) ∈ l.fates ↔
      ∃ first candidate rest middle, steps = first ++ .command (.abandon candidate.call) :: rest ∧
        (start setup).follow first = some middle ∧ candidate ∈ middle.inHand ∧
          candidate.session = number) ∧
    (∀ number session, l.registry.session? number = some session → (number, .abandoned) ∈ l.fates →
      ∀ later last, l.follow later = some last → last.shutdown = false →
        last.sessionOf? session.address = some number ∧
          (∀ call, .returned call number ∉ last.events) ∧ .expired number ∉ last.events) := by
  have tracked := tracked_follow followed
  refine ⟨?_, ?_, ?_, ?_⟩
  · intro running number session known unclosed unreturned
    constructor
    · intro awaits
      exact awaits.not_met tracked.placed .abandoned
    · intro patient
      have unserved : l.Unserved number := by
        constructor
        · intro call met
          exact unreturned call (tracked.returned_iff.mpr met)
        · intro expired
          rcases tracked.borne _ expired with ⟨same, again, closed, _⟩
          rw [known] at again
          cases again
          rw [unclosed] at closed
          cases closed
      exact (tracked.awaits_or_abandoned running known unserved).resolve_right patient
  · intro call without
    exact whereabouts_leave without
  · intro number
    exact abandoned_follow followed
  · intro number session known abandoned later last went running
    rcases roster_follow (follow_append_eq_some_iff.mpr ⟨l, followed, went⟩) with ⟨closes, roster⟩
    have still := fates_follow tracked went abandoned
    have unserved : last.Unserved number := by
      constructor
      · intro call met
        cases closes.tracked.placed.fate_unique met still
      · intro met
        cases closes.tracked.placed.fate_unique met still
    rcases (advances_follow went).sessions known with ⟨after, is, advance⟩
    refine ⟨?_, ?_, ?_⟩
    · rw [← advance.address]
      exact roster.listed running is unserved
    · intro call told
      exact unserved.1 call (closes.tracked.returned_iff.mp told)
    · intro told
      exact unserved.2 (closes.tracked.expired_iff.mp told)

/-- An accept call is abandoned while it has the session of a client in hand; the session stays in
the table whatever the later calls do. -/
theorem awaits_iff_not_abandoned_of_abandon :
    ∃ l, (start .plain).follow (handshake (.v4 0x7F000001 4000) ++
        [.command .accept, .move .pull, .command (.abandon 0)]) = some l ∧
      ¬ l.Awaits 0 ∧
      ∀ later last, l.follow later = some last → last.shutdown = false →
        last.sessionOf? (.v4 0x7F000001 4000) = some 0 := by
  have some? : ((start .plain).follow (handshake (.v4 0x7F000001 4000) ++
      [.command .accept, .move .pull, .command (.abandon 0)])).any (fun l =>
        l.shutdown = false ∧ l.fates = [(0, .abandoned)] ∧ l.events.all (·.returned? = none) ∧
          (l.registry.session? 0).any fun session =>
            session.address = .v4 0x7F000001 4000 ∧ session.isClosed = false) = true := by
    decide +kernel
  rcases (Option.any_eq_true _ _).mp some? with ⟨l, followed, facts⟩
  simp only [decide_eq_true_eq] at facts
  rcases facts with ⟨running, fates, silent, session?⟩
  rcases (Option.any_eq_true _ _).mp session? with ⟨session, known, facts⟩
  rcases of_decide_eq_true facts with ⟨address, unclosed⟩
  have abandoned : (0, .abandoned) ∈ l.fates := by
    rw [fates]
    exact List.mem_cons_self
  have unreturned : ∀ call, .returned call 0 ∉ l.events := by
    intro call told
    cases of_decide_eq_true (List.all_eq_true.mp silent _ told)
  obtain ⟨awaits, _, _, stays⟩ := awaits_iff_not_abandoned followed
  refine ⟨l, followed, ?_, ?_⟩
  · intro waits
    exact (awaits running 0 session known unclosed unreturned).mp waits abandoned
  · intro later last went held
    rw [← address]
    exact (stays 0 session known abandoned later last went held).1

/-- The session stays open and registered, and no accept call gets it, although one waits, and
although more time has passed than it has to complete. -/
theorem abandoned_session_stuck :
    ∃ l, (start .plain).follow (handshake (.v4 0x7F000001 4000) ++
        [.command .accept, .move .pull, .command (.abandon 0), .command .accept,
          .command (.advance 11000000000)]) = some l ∧
      l.Settled ∧ l.shutdown = false ∧ l.sessionOf? (.v4 0x7F000001 4000) = some 0 ∧
      l.sessionIs 0 Session.isClosed = false ∧ (∀ call, .returned call 0 ∉ l.events) ∧
      l.loop = .reading ∧ l.queue = [] ∧ l.waiting = [1] ∧ l.inHand = [] := by
  have some? : ((start .plain).follow (handshake (.v4 0x7F000001 4000) ++
      [.command .accept, .move .pull, .command (.abandon 0), .command .accept,
        .command (.advance 11000000000)])).any (fun l =>
        l.step?.isNone ∧ l.shutdown = false ∧ l.sessionOf? (.v4 0x7F000001 4000) = some 0 ∧
          l.sessionIs 0 Session.isClosed = false ∧ l.events.all (·.returned? = none) ∧
          l.loop = .reading ∧ l.queue = [] ∧ l.waiting = [1] ∧ l.inHand = []) = true := by
    decide +kernel
  rcases (Option.any_eq_true _ _).mp some? with ⟨l, followed, facts⟩
  rcases of_decide_eq_true facts with ⟨quiet, running, registered, unclosed, silent, places⟩
  refine ⟨l, followed, step?_eq_none_iff.mp (Option.isNone_iff_eq_none.mp quiet), running,
    registered, unclosed, ?_, places⟩
  intro call told
  cases of_decide_eq_true (List.all_eq_true.mp silent _ told)

end Anteroom.Listener
