import Anteroom.Proofs.Moved

/-!
# Settling comes to an end

Every move leaves less work than there was, so settling stops, and it stops in
a settled state.
-/

namespace Anteroom.Listener

/-! ## The work of hijacks -/

theorem hijackWork_eraseIdx {hijacks : List Hijack} {index : Nat} {hijack : Hijack}
    (found : hijacks[index]? = some hijack) (now : Nat) :
    hijackWork now (hijacks.eraseIdx index) + (hijack.work now + 1) = hijackWork now hijacks := by
  induction hijacks generalizing index with
  | nil => simp at found
  | cons first others ih =>
      cases index with
      | zero =>
          obtain rfl : first = hijack := by simpa using found
          simp only [List.eraseIdx_cons_zero, hijackWork]
          omega
      | succ index =>
          have hrest := ih (by simpa using found)
          simp only [List.eraseIdx_cons_succ, hijackWork]
          omega

theorem hijackWork_set {hijacks : List Hijack} {index : Nat} {hijack : Hijack}
    (found : hijacks[index]? = some hijack) (next : Hijack) (now : Nat) :
    hijackWork now (hijacks.set index next) + hijack.work now =
      hijackWork now hijacks + next.work now := by
  induction hijacks generalizing index with
  | nil => simp at found
  | cons first others ih =>
      cases index with
      | zero =>
          obtain rfl : first = hijack := by simpa using found
          simp only [List.set_cons_zero, hijackWork]
          omega
      | succ index =>
          have hrest := ih (by simpa using found)
          simp only [List.set_cons_succ, hijackWork]
          omega

/-! ## The work of handling a datagram -/

theorem work_offer_le {l : Listener} (reading : l.loop = .reading) (number : Nat) :
    (l.offer number).work ≤ l.work + 8 := by
  rw [offer]
  split
  · simp only [work, loopWork, List.length_append, List.length_singleton]
    omega
  · simp only [work, loopWork, reading]
    omega

/-- Handling a datagram causes less work than the datagram stood for. -/
theorem Handled.work_le {l next : Listener} {peer : Address} {datagram : Bytes}
    (handled : Handled l peer datagram next) (reading : l.loop = .reading) :
    next.work ≤ l.work + 8 := by
  cases handled with
  | failed =>
      simp only [recordAll, work, loopWork, reading]
      omega
  | @negotiated server mtu guid session =>
      exact work_offer_le (l := (l.enroll session).recordAll _) reading l.created
  | _ => exact Nat.le_add_right _ _

/-! ## The work of a move -/

/-- Taking out an element that is there leaves one element less. -/
theorem length_eraseIdx_of_getElem? {α : Type} {xs : List α} {index : Nat} {x : α}
    (found : xs[index]? = some x) : (xs.eraseIdx index).length + 1 = xs.length := by
  have hlt := (List.getElem?_eq_some_iff.mp found).1
  rw [List.length_eraseIdx, if_pos hlt]
  omega

/-- Every move leaves less work than there was. -/
theorem Moved.work_lt {l next : Listener} {move : Move} (moved : Moved l move next) :
    next.work < l.work := by
  cases moved with
  | released _ running =>
      simp only [work, loopWork, running, Bool.not_true, Bool.not_false, Bool.toNat_true,
        Bool.toNat_false]
      omega
  | stopped _ going =>
      cases loop : l.loop with
      | reading | holding =>
          simp only [work, loopWork, loop]
          omega
      | failed | stopped =>
          rw [loop] at going
          cases going
  | drained _ _ full =>
      have queued : 0 < l.queue.length := List.length_pos_iff.mpr full
      simp only [work, loopWork, List.length_nil]
      omega
  | refused waiting =>
      simp only [record, work, loopWork, waiting, List.length_cons]
      omega
  | dropped found =>
      have hlength := length_eraseIdx_of_getElem? found
      simp only [record, work, loopWork]
      omega
  | accepted found =>
      have hlength := length_eraseIdx_of_getElem? found
      simp only [record, work, loopWork, List.length_append, List.length_singleton]
      omega
  | expired found =>
      have hlength := length_eraseIdx_of_getElem? found
      simp only [record, work, loopWork, List.length_append, List.length_singleton]
      omega
  | evicted found =>
      have hlength := length_eraseIdx_of_getElem? found
      simp only [work, loopWork]
      omega
  | hijackEnded found =>
      have hwork := hijackWork_eraseIdx found l.now
      simp only [work, loopWork]
      omega
  | @hijackWent index hijack stepped found running step =>
      have hwork := hijackWork_set found stepped l.now
      have hless := Hijack.work_lt_of_step? step
      simp only [recordAll, work, loopWork]
      omega
  | pulled waiting queue =>
      simp only [record, work, loopWork, waiting, queue, List.length_cons, List.length_append,
        List.length_nil]
      omega
  | enqueued holding =>
      simp only [work, loopWork, holding, List.length_append, List.length_singleton]
      omega
  | @handled delivery deliveries backlog running reading =>
      have hbound := (handled_handle { l with backlog := deliveries } delivery.peer
        delivery.datagram).work_le reading
      have hless : ({ l with backlog := deliveries } : Listener).work + 12 = l.work := by
        simp only [work, loopWork, backlog, List.length_cons]
        omega
      omega

theorem work_lt_of_move? {l next : Listener} {move : Move} (enabled : l.move? move = some next) :
    next.work < l.work :=
  (moved_of_move? enabled).work_lt

/-! ## Settled states -/

theorem mem_timedMoves {l : Listener} {time : Nat} {move : Move} (waits : (time, move) ∈ l.timers) :
    move ∈ l.timedMoves :=
  List.mem_map.mpr ⟨_, List.mem_mergeSort.mpr waits, rfl⟩

theorem resolve_mem_timedMoves {l : Listener} {index : Nat} {candidate : Candidate}
    (found : l.inHand[index]? = some candidate) : .resolve index ∈ l.timedMoves := by
  obtain ⟨hlt, rfl⟩ := List.getElem?_eq_some_iff.mp found
  exact mem_timedMoves
    (List.mem_append_left _ (List.mem_mapIdx.mpr ⟨index, hlt, rfl⟩))

theorem hijack_mem_timedMoves {l : Listener} {index : Nat} {hijack : Hijack}
    (found : l.hijacks[index]? = some hijack) : .hijack index ∈ l.timedMoves := by
  obtain ⟨hlt, rfl⟩ := List.getElem?_eq_some_iff.mp found
  exact mem_timedMoves
    (List.mem_append_right _ (List.mem_mapIdx.mpr ⟨index, hlt, rfl⟩))

/-- A move is enabled only if it is among the moves that are tried. -/
theorem mem_moves_of_move? {l next : Listener} {move : Move} (enabled : l.move? move = some next) :
    move ∈ l.moves := by
  cases move with
  | resolve index =>
      simp only [move?, resolveCandidate?, Option.bind_eq_bind, Option.bind_eq_some_iff] at enabled
      obtain ⟨candidate, found, _⟩ := enabled
      simp [moves, resolve_mem_timedMoves found]
  | evict index =>
      simp only [move?, evict?, Option.bind_eq_bind, Option.bind_eq_some_iff] at enabled
      obtain ⟨number, found, _⟩ := enabled
      simp [moves, (List.getElem?_eq_some_iff.mp found).1]
  | hijack index =>
      simp only [move?, stepHijack?, Option.bind_eq_bind, Option.bind_eq_some_iff] at enabled
      obtain ⟨hijack, found, _⟩ := enabled
      simp [moves, hijack_mem_timedMoves found]
  | _ => simp [moves]

/-- A state has no next step exactly if it is settled. -/
theorem step?_eq_none_iff {l : Listener} : l.step? = none ↔ l.Settled := by
  simp only [step?, List.findSome?_eq_none_iff, Settled]
  constructor
  · intro quiet move
    cases enabled : l.move? move with
    | none => rfl
    | some next => exact absurd (quiet move (mem_moves_of_move? enabled)) (by simp [enabled])
  · intro settled move _
    exact settled move

/-- A step makes one of the enabled moves. -/
theorem exists_move?_of_step? {l next : Listener} (step : l.step? = some next) :
    ∃ move, l.move? move = some next := by
  obtain ⟨move, _, enabled⟩ := List.exists_of_findSome?_eq_some step
  exact ⟨move, enabled⟩

theorem settled_settleWithin {count : Nat} {l : Listener} (enough : l.work ≤ count) :
    (settleWithin count l).Settled := by
  induction count generalizing l with
  | zero =>
      refine step?_eq_none_iff.mp (?_ : l.step? = none)
      cases step : l.step? with
      | none => rfl
      | some next =>
          obtain ⟨move, enabled⟩ := exists_move?_of_step? step
          have hless := work_lt_of_move? enabled
          omega
  | succ count ih =>
      simp only [settleWithin]
      split
      · rename_i quiet
        exact step?_eq_none_iff.mp quiet
      · rename_i next step
        obtain ⟨move, enabled⟩ := exists_move?_of_step? step
        have hless := work_lt_of_move? enabled
        exact ih (by omega)

/-- Settling leads to a settled state. -/
theorem settled_settle (l : Listener) : l.settle.Settled :=
  settled_settleWithin (Nat.le_refl _)

theorem Settled.settleWithin_eq {l : Listener} (settled : l.Settled) (count : Nat) :
    settleWithin count l = l := by
  cases count with
  | zero => rfl
  | succ count => rw [settleWithin, step?_eq_none_iff.mpr settled]

theorem Settled.settle_eq {l : Listener} (settled : l.Settled) : l.settle = l :=
  settled.settleWithin_eq l.work

/-- How many moves may be made does not matter if there are enough of them. -/
theorem settleWithin_eq_settleWithin {count more : Nat} {l : Listener} (enough : l.work ≤ count)
    (plenty : l.work ≤ more) : settleWithin count l = settleWithin more l := by
  induction count generalizing l more with
  | zero =>
      have settled : l.Settled := settled_settleWithin enough
      exact (settled.settleWithin_eq more).symm
  | succ count ih =>
      cases step : l.step? with
      | none =>
          have settled := step?_eq_none_iff.mp step
          rw [settled.settleWithin_eq, settled.settleWithin_eq]
      | some next =>
          obtain ⟨move, enabled⟩ := exists_move?_of_step? step
          have hless := work_lt_of_move? enabled
          cases more with
          | zero => omega
          | succ more =>
              rw [settleWithin, settleWithin, step]
              exact ih (by omega) (by omega)

/-- The first step of settling. -/
theorem settle_of_step? {l next : Listener} (step : l.step? = some next) :
    l.settle = next.settle := by
  obtain ⟨move, enabled⟩ := exists_move?_of_step? step
  have hless := work_lt_of_move? enabled
  obtain ⟨count, work⟩ : ∃ count, l.work = count + 1 := ⟨l.work - 1, by omega⟩
  rw [settle, work, settleWithin, step]
  exact settleWithin_eq_settleWithin (by omega) (Nat.le_refl _)

end Anteroom.Listener
