import Anteroom.Listener.Move
import Anteroom.Proofs.Handling

/-!
# What a move does

Every way in which a move can change a listener is listed once, with the
condition under which it is enabled and the state it leads to; the list is
exact.  Invariants of a listener are proved by going through it, and do not
look into the moves themselves.
-/

namespace Anteroom.Listener

/-- What an enabled move leads to. -/
inductive Moved (l : Listener) : Move → Listener → Prop
  | released
      (released : l.released = true) (running : l.shutdown = false)
      (idle : l.hasPendingCall = false) :
      Moved l .release { l with shutdown := true }
  | stopped
      (shut : l.shutdown = true) (going : l.loop.ended = false) :
      Moved l .stopLoop
        { l with
          loop := .stopped
          fates := l.fates ++ l.loop.held?.toList.map (·, Fate.discarded) }
  | drained
      (shut : l.shutdown = true) (ended : l.loop.ended = true) (full : l.queue ≠ []) :
      Moved l .drain
        { l with
          queue := []
          fates := l.fates ++ l.queue.map (·, Fate.discarded) }
  | refused {call : Nat} {calls : List Nat}
      (waiting : l.waiting = call :: calls)
      (hopeless : l.shutdown = true ∨ l.loop.ended = true ∧ l.queue = []) :
      Moved l .refuse (({ l with waiting := calls } : Listener).record (.refused call))
  | dropped {index : Nat} {candidate : Candidate}
      (found : l.inHand[index]? = some candidate) (shut : l.shutdown = true) :
      Moved l (.resolve index)
        (({ l with
          inHand := l.inHand.eraseIdx index
          fates := l.fates ++ [(candidate.session, .discarded)]
          } : Listener).record (.refused candidate.call))
  | accepted {index : Nat} {candidate : Candidate}
      (found : l.inHand[index]? = some candidate) (running : l.shutdown = false)
      (complete : l.sessionIs candidate.session Session.isComplete = true) :
      Moved l (.resolve index)
        (({ l with
          inHand := l.inHand.eraseIdx index
          watched := l.watched ++ [candidate.session]
          fates := l.fates ++ [(candidate.session, .returned candidate.call)]
          } : Listener).record (.returned candidate.call candidate.session))
  | expired {index : Nat} {candidate : Candidate}
      (found : l.inHand[index]? = some candidate) (running : l.shutdown = false)
      (incomplete : l.sessionIs candidate.session Session.isComplete = false)
      (due : candidate.deadline ≤ l.now) :
      Moved l (.resolve index)
        (({ l with
          registry :=
            ((l.registry.closeSession candidate.session).1.unregister candidate.session).1
          waiting := l.waiting ++ [candidate.call]
          inHand := l.inHand.eraseIdx index
          fates := l.fates ++ [(candidate.session, .expired)]
          } : Listener).record (.expired candidate.session))
  | evicted {index number : Nat}
      (found : l.watched[index]? = some number)
      (closed : l.sessionIs number Session.isClosed = true) :
      Moved l (.evict index)
        { l with
          registry := (l.registry.unregister number).1
          watched := l.watched.eraseIdx index }
  | hijackEnded {index : Nat} {hijack : Hijack}
      (found : l.hijacks[index]? = some hijack) (shut : l.shutdown = true) :
      Moved l (.hijack index) { l with hijacks := l.hijacks.eraseIdx index }
  | hijackWent {index : Nat} {hijack next : Hijack}
      (found : l.hijacks[index]? = some hijack) (running : l.shutdown = false)
      (step : hijack.step? l.setup.link l.now = some next) :
      Moved l (.hijack index)
        (({ l with hijacks := l.hijacks.set index next } : Listener).recordAll
          (if hijack.sent < next.sent then [.probed hijack.number hijack.sent] else []))
  | pulled {call session : Nat} {calls sessions : List Nat}
      (waiting : l.waiting = call :: calls) (queue : l.queue = session :: sessions)
      (running : l.shutdown = false) :
      Moved l .pull
        (({ l with
          waiting := calls
          queue := sessions
          inHand := l.inHand ++
            [{ call, session, deadline := l.now + l.setup.config.handshakeTimeout.nanos }]
          } : Listener).record (.pulled call session))
  | enqueued {session : Nat}
      (holding : l.loop = .holding session) (running : l.shutdown = false)
      (room : l.queue.length < l.setup.capacity) :
      Moved l .enqueue { l with loop := .reading, queue := l.queue ++ [session] }
  | handled {delivery : Delivery} {deliveries : List Delivery}
      (backlog : l.backlog = delivery :: deliveries) (running : l.shutdown = false)
      (reading : l.loop = .reading) :
      Moved l .handle
        (({ l with backlog := deliveries } : Listener).handle delivery.peer delivery.datagram)

theorem moved_resolve {l next : Listener} {index : Nat}
    (enabled : l.resolveCandidate? index = some next) : Moved l (.resolve index) next := by
  simp only [resolveCandidate?, Option.bind_eq_bind, Option.bind_eq_some_iff] at enabled
  rcases enabled with ⟨candidate, found, enabled⟩
  split at enabled
  · rename_i shut
    cases enabled
    exact .dropped found shut
  · rename_i running
    split at enabled
    · rename_i complete
      cases enabled
      exact .accepted found (Bool.eq_false_iff.mpr running) complete
    · rename_i incomplete
      split at enabled
      · rename_i due
        cases enabled
        exact .expired found (Bool.eq_false_iff.mpr running) (Bool.eq_false_iff.mpr incomplete) due
      · cases enabled

theorem moved_evict {l next : Listener} {index : Nat} (enabled : l.evict? index = some next) :
    Moved l (.evict index) next := by
  simp only [evict?, Option.bind_eq_bind, Option.bind_eq_some_iff] at enabled
  rcases enabled with ⟨number, found, enabled⟩
  split at enabled
  · rename_i closed
    cases enabled
    exact .evicted found closed
  · cases enabled

theorem moved_hijack {l next : Listener} {index : Nat}
    (enabled : l.stepHijack? index = some next) : Moved l (.hijack index) next := by
  simp only [stepHijack?, Option.bind_eq_bind, Option.bind_eq_some_iff] at enabled
  rcases enabled with ⟨hijack, found, enabled⟩
  split at enabled
  · rename_i shut
    cases enabled
    exact .hijackEnded found shut
  · rename_i running
    rcases Option.bind_eq_some_iff.mp enabled with ⟨stepped, step, enabled⟩
    have went := Moved.hijackWent found (Bool.eq_false_iff.mpr running) step
    split at enabled
    · rename_i sends
      cases enabled
      rw [if_pos sends] at went
      exact went
    · rename_i waits
      cases enabled
      rw [if_neg waits, recordAll_nil] at went
      exact went

/-- An enabled move leads to one of the listed states. -/
theorem moved_of_move? {l next : Listener} {move : Move} (enabled : l.move? move = some next) :
    Moved l move next := by
  cases move with
  | release =>
      simp only [move?, Option.ite_none_right_eq_some, Bool.and_eq_true, Bool.not_eq_true',
        Option.some.injEq] at enabled
      rcases enabled with ⟨⟨⟨released, running⟩, idle⟩, rfl⟩
      exact .released released running idle
  | stopLoop =>
      simp only [move?, Option.ite_none_right_eq_some, Bool.and_eq_true, Bool.not_eq_true',
        Option.some.injEq] at enabled
      rcases enabled with ⟨⟨shut, going⟩, rfl⟩
      exact .stopped shut going
  | drain =>
      simp only [move?, Option.ite_none_right_eq_some, Bool.and_eq_true, Bool.not_eq_true',
        Option.some.injEq, List.isEmpty_eq_false_iff] at enabled
      rcases enabled with ⟨⟨⟨shut, ended⟩, full⟩, rfl⟩
      exact .drained shut ended full
  | refuse =>
      simp only [move?] at enabled
      split at enabled
      · cases enabled
      · rename_i call calls waiting
        simp only [Option.ite_none_right_eq_some, Bool.or_eq_true, Bool.and_eq_true,
          Option.some.injEq, List.isEmpty_iff] at enabled
        rcases enabled with ⟨hopeless, rfl⟩
        exact .refused waiting hopeless
  | resolve index => exact moved_resolve enabled
  | evict index => exact moved_evict enabled
  | hijack index => exact moved_hijack enabled
  | pull =>
      simp only [move?] at enabled
      split at enabled
      · rename_i call calls session sessions waiting queue
        split at enabled
        · cases enabled
        · rename_i running
          cases enabled
          exact .pulled waiting queue (Bool.eq_false_iff.mpr running)
      · cases enabled
  | enqueue =>
      simp only [move?] at enabled
      split at enabled
      · rename_i session holding
        simp only [Option.ite_none_right_eq_some, Bool.and_eq_true, Bool.not_eq_true',
          decide_eq_true_eq, Option.some.injEq] at enabled
        rcases enabled with ⟨⟨running, room⟩, rfl⟩
        exact .enqueued holding running room
      · cases enabled
  | handle =>
      simp only [move?] at enabled
      split at enabled
      · cases enabled
      · rename_i delivery deliveries backlog
        simp only [isReading, Option.ite_none_right_eq_some, Bool.and_eq_true, Bool.not_eq_true',
          beq_iff_eq, Option.some.injEq] at enabled
        rcases enabled with ⟨⟨running, reading⟩, rfl⟩
        exact .handled backlog running reading

/-- Each of the listed states is what its move leads to. -/
theorem Moved.enabled {l next : Listener} {move : Move} (moved : Moved l move next) :
    l.move? move = some next := by
  cases moved with
  | released released running idle => simp [move?, released, running, idle]
  | stopped shut going => simp [move?, shut, going]
  | drained shut ended full => simp [move?, shut, ended, full]
  | refused waiting hopeless =>
      rcases hopeless with shut | ⟨ended, noQueue⟩
      · simp [move?, waiting, shut]
      · simp [move?, waiting, ended, noQueue]
  | dropped found shut =>
      simp [move?, resolveCandidate?, refuseCandidate, settleFate, found, shut]
  | accepted found running complete =>
      simp [move?, resolveCandidate?, returnCandidate, settleFate, found, running, complete]
  | expired found running incomplete due =>
      simp [move?, resolveCandidate?, expireCandidate, settleFate, found, running, incomplete, due]
  | evicted found closed => simp [move?, evict?, found, closed]
  | hijackEnded found shut => simp [move?, stepHijack?, found, shut]
  | @hijackWent index hijack stepped found running step =>
      by_cases sends : hijack.sent < stepped.sent
      · simp [move?, stepHijack?, found, running, step, sends, record_eq_recordAll]
      · simp [move?, stepHijack?, found, running, step, sends]
  | pulled waiting queue running => simp [move?, waiting, queue, running]
  | enqueued holding running room => simp [move?, holding, running, room]
  | handled backlog running reading => simp [move?, isReading, backlog, running, reading]

/-- In a settled listener nothing moves. -/
theorem Settled.not_moved {l next : Listener} {move : Move} (settled : l.Settled) :
    ¬ Moved l move next := by
  intro moved
  have still := settled move
  rw [moved.enabled] at still
  cases still

/-- The read loop handles the oldest datagram of the backlog. -/
theorem handle_of_move? {l next : Listener} {delivery : Delivery} {deliveries : List Delivery}
    (backlog : l.backlog = delivery :: deliveries) (enabled : l.move? .handle = some next) :
    l.shutdown = false ∧ l.loop = .reading ∧
      next =
        ({ l with backlog := deliveries } : Listener).handle delivery.peer delivery.datagram := by
  cases moved_of_move? enabled with
  | handled again running reading =>
      rw [backlog] at again
      cases again
      exact ⟨running, reading, rfl⟩

end Anteroom.Listener
