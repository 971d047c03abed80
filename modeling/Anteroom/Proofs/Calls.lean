import Anteroom.Proofs.Pipeline

/-!
# Accept calls

An accept call waits for a candidate, has one in hand, and waits for another
one if the time of that one runs out.  All this time it is under way, in one of
the two lists of the state.  A step starts at most one call and ends at most
one: a call ends when it returns a session, is refused or is abandoned.
-/

namespace Anteroom.Listener

/-- The accept calls that are under way. -/
def callers (l : Listener) : List Nat :=
  l.waiting ++ l.inHand.map Candidate.call

theorem mem_callers {l : Listener} {call : Nat} : call ∈ l.callers ↔ l.isPending call = true := by
  simp [callers, isPending]

theorem hasPendingCall_iff {l : Listener} : l.hasPendingCall = true ↔ l.callers ≠ [] := by
  rw [hasPendingCall, callers]
  cases l.waiting <;> cases l.inHand <;> simp

/-- An accept call has returned a session or has been refused. -/
def Answered (l : Listener) (call : Nat) : Prop :=
  (∃ session, .returned call session ∈ l.events) ∨ .refused call ∈ l.events

/-- What a step does to the accept calls: none starts or ends, one starts, or one ends. -/
inductive Called (l next : Listener) (step : Step) : Prop
  | same (callers : next.callers.Perm l.callers) (calls : next.calls = l.calls)
  | started (command : step = .command .accept) (held : l.released = false)
      (callers : next.callers.Perm (l.calls :: l.callers)) (calls : next.calls = l.calls + 1)
  | ended {call : Nat} (callers : l.callers.Perm (call :: next.callers))
      (calls : next.calls = l.calls)
      (reason : step = .command (.abandon call) ∨ next.Answered call)

/-- Taking a candidate out of the hands of its accept call ends the call. -/
theorem callers_eraseIdx {l : Listener} {index : Nat} {candidate : Candidate}
    (found : l.inHand[index]? = some candidate) :
    l.callers.Perm (candidate.call ::
      (l.waiting ++ (l.inHand.eraseIdx index).map Candidate.call)) :=
  (((perm_eraseIdx found).map Candidate.call).append_left l.waiting).trans List.perm_middle

theorem mem_events_record (l : Listener) (event : Event) : event ∈ (l.record event).events := by
  rw [events_record]
  exact List.mem_append_right _ List.mem_cons_self

theorem Issued.called {l next : Listener} {command : Command} (issued : Issued l command next) :
    Called l next (.command command) := by
  cases issued with
  | joined held =>
      refine .started rfl held ?_ rfl
      change ((l.waiting ++ [l.calls]) ++ l.inHand.map Candidate.call).Perm _
      rw [List.append_assoc]
      exact List.perm_middle
  | @left call waits =>
      refine .ended ?_ rfl (.inl rfl)
      exact (List.perm_cons_erase waits).append_right _
  | @lost candidate found =>
      refine .ended ?_ rfl (.inl rfl)
      have split := ((List.perm_cons_erase found).map Candidate.call).append_left l.waiting
      exact split.trans List.perm_middle
  | _ => exact .same (.refl _) rfl

theorem Moved.called {l next : Listener} {move : Move} (moved : Moved l move next) :
    Called l next (.move move) := by
  cases moved with
  | @refused call calls waiting =>
      have callers : l.callers.Perm (call :: (calls ++ l.inHand.map Candidate.call)) := by
        rw [callers, waiting]
        exact .refl _
      exact .ended callers rfl (.inr (.inr (mem_events_record _ _)))
  | @dropped index candidate found =>
      exact .ended (callers_eraseIdx found) rfl (.inr (.inr (mem_events_record _ _)))
  | @accepted index candidate found =>
      exact .ended (callers_eraseIdx found) rfl (.inr (.inl ⟨_, mem_events_record _ _⟩))
  | @expired index candidate found =>
      refine .same ?_ rfl
      refine List.Perm.trans ?_ (callers_eraseIdx found).symm
      change ((l.waiting ++ [candidate.call]) ++ _).Perm _
      rw [List.append_assoc]
      exact List.perm_middle
  | @pulled call session calls sessions waiting =>
      refine .same ?_ rfl
      change (calls ++ (l.inHand ++ [_]).map Candidate.call).Perm _
      rw [callers, waiting, List.map_append, ← List.append_assoc]
      exact List.perm_append_singleton ..
  | @handled delivery deliveries =>
      rw [(handled_handle _ _ _).eq_update]
      exact .same (.refl _) rfl
  | _ => exact .same (.refl _) rfl

theorem Went.called {l next : Listener} {step : Step} (went : Went l step next) :
    Called l next step := by
  cases went with
  | command issued => exact issued.called
  | move moved => exact moved.called
  | closeSessions => exact .same (.refl _) rfl

/-! ## Along every schedule -/

/-- What is known of the accept calls along every schedule: each that is under way has been made
and stands in one place. -/
structure Serving (l : Listener) : Prop where
  distinct : l.callers.Nodup
  made : ∀ call ∈ l.callers, call < l.calls

theorem serving_start (setup : Setup) : (start setup).Serving where
  distinct := List.nodup_nil
  made := List.forall_mem_nil _

theorem Went.serving {l next : Listener} {step : Step} (went : Went l step next)
    (serving : l.Serving) : next.Serving := by
  rcases serving with ⟨distinct, made⟩
  cases went.called with
  | same callers calls =>
      refine ⟨callers.nodup_iff.mpr distinct, ?_⟩
      intro call under
      rw [calls]
      exact made call (callers.mem_iff.mp under)
  | started command held callers calls =>
      constructor
      · apply callers.nodup_iff.mpr
        refine List.nodup_cons.mpr ⟨?_, distinct⟩
        intro under
        exact Nat.lt_irrefl _ (made _ under)
      · intro call under
        rw [calls]
        rcases List.mem_cons.mp (callers.mem_iff.mp under) with rfl | under
        · exact Nat.lt_succ_self _
        · exact Nat.lt_succ_of_lt (made call under)
  | ended callers calls =>
      refine ⟨(List.nodup_cons.mp (callers.nodup_iff.mp distinct)).2, ?_⟩
      intro call under
      rw [calls]
      exact made call (callers.mem_iff.mpr (List.mem_cons_of_mem _ under))

theorem serving_follow {setup : Setup} {steps : List Step} {l : Listener}
    (followed : (start setup).follow steps = some l) : l.Serving := by
  apply follow_induction (P := Serving) _ (serving_start setup) followed
  intro step _ l next serving went
  exact went.serving serving

/-- A call with a candidate in hand waits for no other one. -/
theorem Serving.not_mem_waiting {l : Listener} (serving : l.Serving) {candidate : Candidate}
    (found : candidate ∈ l.inHand) : candidate.call ∉ l.waiting := by
  intro waits
  exact (List.nodup_append.mp serving.distinct).2.2 _ waits _ (List.mem_map_of_mem found) rfl

/-- No call has two candidates in hand. -/
theorem Serving.unique {l : Listener} (serving : l.Serving) {candidate other : Candidate}
    (found : candidate ∈ l.inHand) (also : other ∈ l.inHand) (same : candidate.call = other.call) :
    candidate = other :=
  List.inj_on_of_nodup_map (List.nodup_append.mp serving.distinct).2.1 found also same

/-- An accept call that is under way stays so until it returns a session, is refused or is
abandoned. -/
theorem Went.pending_or {l next : Listener} {step : Step} (went : Went l step next) {call : Nat}
    (pending : l.isPending call = true) :
    next.isPending call = true ∨ step = .command (.abandon call) ∨ next.Answered call := by
  rw [← mem_callers] at pending ⊢
  cases went.called with
  | same callers => exact .inl (callers.mem_iff.mpr pending)
  | started _ _ callers => exact .inl (callers.mem_iff.mpr (List.mem_cons_of_mem _ pending))
  | ended callers calls reason =>
      rcases List.mem_cons.mp (callers.mem_iff.mp pending) with rfl | under
      · exact .inr reason
      · exact .inl under

theorem Went.answered {l next : Listener} {step : Step} (went : Went l step next)
    (tracked : l.Tracked) {call : Nat} (answered : l.Answered call) : next.Answered call := by
  rcases answered with ⟨session, returned⟩ | refused
  · exact .inl ⟨session, went.mem_events tracked returned⟩
  · exact .inr (went.mem_events tracked refused)

/-- An accept call that is not abandoned stays under way until it is answered. -/
theorem follow_pending {l last : Listener} {steps : List Step}
    (followed : l.follow steps = some last) (tracked : l.Tracked) {call : Nat}
    (pending : l.isPending call = true) (patient : .command (.abandon call) ∉ steps) :
    last.isPending call = true ∨ last.Answered call := by
  suffices both : last.Tracked ∧ (last.isPending call = true ∨ last.Answered call) from both.2
  apply follow_induction (P := fun s => s.Tracked ∧ (s.isPending call = true ∨ s.Answered call)) _
    ⟨tracked, .inl pending⟩ followed
  rintro step member s next ⟨tracked, before⟩ went
  refine ⟨went.tracked tracked, ?_⟩
  rcases before with pending | answered
  · rcases went.pending_or pending with still | rfl | answered
    · exact .inl still
    · exact absurd member patient
    · exact .inr answered
  · exact .inr (went.answered tracked answered)

end Anteroom.Listener
