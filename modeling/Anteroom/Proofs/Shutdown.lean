import Anteroom.Proofs.Closings

/-!
# What closing a listener does

Closing stops everything that runs, then closes what is registered, then
empties the table.  While the listener stops, nothing touches the registry: the
read loop handles no datagram, no candidate expires, and no watched session has
closed.  So what is closed in the end is what was registered when closing began,
the sessions that the read loop held and that accept calls have dropped among
them.
-/

namespace Anteroom.Listener

/-! ## Moves during a shutdown -/

/-- What a move can lead to during a shutdown. -/
inductive Winding (l : Listener) : Listener → Prop
  | stopped {loop : ReadLoop} {fates : List (Nat × Fate)} (going : l.loop.ended = false) :
      Winding l { l with loop, fates }
  | drained {fates : List (Nat × Fate)} (full : l.queue ≠ []) :
      Winding l { l with queue := [], fates }
  | refused {call : Nat} {calls : List Nat} (waiting : l.waiting = call :: calls) :
      Winding l (({ l with waiting := calls } : Listener).record (.refused call))
  | dropped {index : Nat} {candidate : Candidate} {fates : List (Nat × Fate)}
      (found : l.inHand[index]? = some candidate) :
      Winding l
        (({ l with inHand := l.inHand.eraseIdx index, fates } : Listener).record
          (.refused candidate.call))
  | evicted {index number : Nat} (found : l.watched[index]? = some number)
      (closed : l.sessionIs number Session.isClosed = true) :
      Winding l
        { l with
          registry := (l.registry.unregister number).1
          watched := l.watched.eraseIdx index }
  | hijackEnded {hijacks : List Hijack} (going : l.hijacks ≠ []) : Winding l { l with hijacks }

/-- During a shutdown no session is created, returned or expired. -/
theorem Moved.winding {l next : Listener} {move : Move} (moved : Moved l move next)
    (shut : l.shutdown = true) : Winding l next := by
  have busy : l.shutdown ≠ false := by simp [shut]
  cases moved with
  | stopped _ going => exact .stopped going
  | drained _ _ full => exact .drained full
  | refused waiting => exact .refused waiting
  | dropped found => exact .dropped found
  | evicted found closed => exact .evicted found closed
  | hijackEnded found => exact .hijackEnded (List.ne_nil_of_mem (List.mem_of_getElem? found))
  | released _ running => exact absurd running busy
  | accepted _ running => exact absurd running busy
  | expired _ running => exact absurd running busy
  | hijackWent _ running => exact absurd running busy
  | pulled _ _ running => exact absurd running busy
  | enqueued _ running => exact absurd running busy
  | handled _ running => exact absurd running busy

/-! ## Accept calls are refused -/

/-- Since the first state the given calls have been refused, and nothing else has become of a
call. -/
structure Refusing (l next : Listener) (refused : List Nat) : Prop where
  shutdown : next.shutdown = true
  events : next.events = l.events ++ refused.map .refused
  pending : ∀ call, l.isPending call = true ↔ next.isPending call = true ∨ call ∈ refused

theorem Refusing.refuse {l s next : Listener} {refused : List Nat} {call : Nat}
    (refusing : l.Refusing s refused) (shutdown : next.shutdown = s.shutdown)
    (events : next.events = s.events ++ [.refused call])
    (pending : ∀ other, s.isPending other = true ↔ next.isPending other = true ∨ other = call) :
    l.Refusing next (refused ++ [call]) where
  shutdown := shutdown.trans refusing.shutdown
  events := by
    rw [events, refusing.events, List.map_append, List.append_assoc]
    rfl
  pending := by
    intro other
    rw [refusing.pending, pending, List.mem_append, List.mem_singleton, or_assoc,
      or_comm (a := other = call)]

theorem Refusing.winding {l s next : Listener} {refused : List Nat}
    (refusing : l.Refusing s refused) (winding : Winding s next) :
    ∃ more, l.Refusing next more := by
  cases winding with
  | @refused call calls waiting =>
      refine ⟨_, refusing.refuse rfl (events_record _ _) ?_⟩
      intro other
      rw [isPending_iff, isPending_iff, waiting, List.mem_cons, or_comm (a := other = call),
        or_right_comm]
      rfl
  | @dropped index candidate fates found =>
      refine ⟨_, refusing.refuse rfl (events_record _ _) ?_⟩
      intro other
      have members : ∀ waits : Candidate, waits ∈ s.inHand ↔
          waits = candidate ∨ waits ∈ s.inHand.eraseIdx index := by
        intro waits
        rw [(perm_eraseIdx found).mem_iff, List.mem_cons]
      simp only [isPending_iff, members, or_and_right, exists_or, exists_eq_left]
      rw [or_comm (a := candidate.call = other), eq_comm (a := candidate.call), ← or_assoc]
      rfl
  | _ => exact ⟨refused, refusing.shutdown, refusing.events, refusing.pending⟩

/-- A shutdown refuses every accept call that is under way. -/
theorem exists_refusing_settle {l : Listener} (shut : l.shutdown = true) :
    ∃ refused, l.Refusing l.settle refused := by
  apply settle_induction (P := fun next => ∃ refused, l.Refusing next refused)
  · rintro s next move ⟨refused, refusing⟩ moved
    exact refusing.winding (moved.winding refusing.shutdown)
  · refine ⟨[], shut, (List.append_nil _).symm, ?_⟩
    intro call
    simp

theorem hasPendingCall_eq_false {l : Listener} (waiting : l.waiting = []) (inHand : l.inHand = []) :
    l.hasPendingCall = false := by
  rw [hasPendingCall, waiting, inHand]
  rfl

/-- After a shutdown has settled the calls that were under way have been refused, and no call is
under way. -/
theorem refused_settle {l : Listener} (shut : l.shutdown = true) :
    ∃ refused : List Nat, l.settle.events = l.events ++ refused.map .refused ∧
      ∀ call, l.isPending call = true ↔ call ∈ refused := by
  rcases exists_refusing_settle shut with ⟨refused, refusing⟩
  rcases (settled_settle l).nothing_left refusing.shutdown with ⟨_, _, _, noWaiting, noCandidate⟩
  refine ⟨refused, refusing.events, ?_⟩
  intro call
  rw [refusing.pending, isPending_iff, noWaiting, noCandidate]
  simp

/-! ## The registry does not change while the listener stops -/

/-- Since the first state neither the registry nor the watched sessions have changed. -/
structure Stopping (l next : Listener) : Prop where
  shutdown : next.shutdown = true
  registry : next.registry = l.registry
  watched : next.watched = l.watched

theorem Stopping.winding {l s next : Listener} (stopping : l.Stopping s)
    (unclosed : ∀ number ∈ l.watched, l.sessionIs number Session.isClosed = false)
    (winding : Winding s next) : l.Stopping next := by
  rcases stopping with ⟨shutdown, registry, watched⟩
  cases winding with
  | @evicted index number found closed =>
      rw [watched] at found
      rw [sessionIs, registry] at closed
      have open? := unclosed number (List.mem_of_getElem? found)
      rw [sessionIs, closed] at open?
      cases open?
  | _ => exact ⟨shutdown, registry, watched⟩

/-- In a settled listener no watched session has closed. -/
theorem Settled.unclosed {l : Listener} (settled : l.Settled) :
    ∀ number ∈ l.watched, l.sessionIs number Session.isClosed = false := by
  intro number member
  rcases List.getElem?_of_mem member with ⟨index, found⟩
  cases closed : l.sessionIs number Session.isClosed with
  | false => rfl
  | true => exact absurd (Moved.evicted found closed) settled.not_moved

theorem Settled.stopping {l : Listener} (settled : l.Settled) :
    l.Stopping l.beginClose.settle := by
  refine settle_induction (P := l.Stopping) ?_ ⟨rfl, rfl, rfl⟩
  intro s next move stopping moved
  exact stopping.winding settled.unclosed (moved.winding stopping.shutdown)

/-! ## What is left at the end -/

theorem unregister_eq_self {registry : Registry} (empty : registry.table = []) (number : Nat) :
    (registry.unregister number).1 = registry := by
  rw [Registry.unregister]
  split
  · rw [if_neg]
    rw [empty]
    exact Option.some_ne_none number ∘ Eq.symm
  · rfl

/-- Once everything has stopped and the table is empty, only the watchers are left, and they change
nothing. -/
theorem settle_emptied {l : Listener} (shut : l.shutdown = true) (table : l.registry.table = [])
    (ended : l.loop.ended = true) (hijacks : l.hijacks = []) (queue : l.queue = [])
    (waiting : l.waiting = []) (inHand : l.inHand = []) :
    ∃ watched, l.settle = { l with watched } := by
  apply settle_induction (P := fun next => ∃ watched, next = { l with watched }) _
    ⟨l.watched, rfl⟩
  rintro s next move ⟨watched, rfl⟩ moved
  cases moved.winding shut with
  | stopped going =>
      change l.loop.ended = false at going
      rw [ended] at going
      cases going
  | drained full => exact absurd queue full
  | refused calls =>
      change l.waiting = _ at calls
      rw [waiting] at calls
      cases calls
  | dropped found =>
      change l.inHand[_]? = _ at found
      rw [inHand] at found
      cases found
  | @evicted index number =>
      have same := unregister_eq_self table number
      exact ⟨watched.eraseIdx index,
        congrArg (fun registry => ({ l with registry, watched := _ } : Listener)) same⟩
  | hijackEnded going => exact absurd hijacks going

theorem close_eq {l : Listener} (running : l.closed = false) :
    l.close = (l.beginClose.settle.closeSessions.1.settle,
      { loopFailed := l.loop = .failed, failures := l.beginClose.settle.closeSessions.2 }) := by
  rw [close, running]
  rfl

/-- What closing leads to: the registered sessions have been closed and the table has been emptied,
and apart from that the listener is as it was when it had stopped. -/
theorem exists_close_fst {l : Listener} (settled : l.Settled) (running : l.closed = false) :
    ∃ watched, l.close.1 =
      { (({ l.beginClose.settle with registry := l.registry.closeAll.1.clear } : Listener).recordAll
        (l.registry.table.numbers.map .shut)) with watched } := by
  have stopping := settled.stopping
  obtain ⟨ended, hijacks, queue, waiting, inHand⟩ :=
    (settled_settle l.beginClose).nothing_left stopping.shutdown
  rw [close_eq running, closeSessions_fst, stopping.registry]
  exact settle_emptied stopping.shutdown rfl ended hijacks queue waiting inHand

/-! ## After the shutdown -/

/-- A listener that shuts down creates no session any more. -/
theorem follow_created {l last : Listener} {steps : List Step} (shut : l.shutdown = true)
    (followed : l.follow steps = some last) : last.created = l.created := by
  suffices both : last.shutdown = true ∧ last.created = l.created from both.2
  apply follow_induction (P := fun s => s.shutdown = true ∧ s.created = l.created) _ ⟨shut, rfl⟩
    followed
  rintro step _ s next ⟨shut, created⟩ went
  refine ⟨went.shutdown shut, ?_⟩
  rcases went.became.created_or with same | ⟨running, _⟩
  · exact same.trans created
  · rw [shut] at running
    cases running

/-- A listener that shuts down refuses every accept call at once. -/
theorem accept_refused {l : Listener} (shut : l.shutdown = true) (held : l.released = false) :
    .refused l.calls ∈ (l.perform .accept).events ∧ (l.perform .accept).hasPendingCall = false := by
  have performed : l.perform .accept = l.join.settle := by
    rw [perform, ifHeld, held]
    rfl
  have joined : l.join.shutdown = true := shut
  rcases refused_settle joined with ⟨refused, events, pending⟩
  rcases exists_refusing_settle joined with ⟨_, refusing⟩
  rcases (settled_settle l.join).nothing_left refusing.shutdown with ⟨_, _, _, waiting, inHand⟩
  rw [performed]
  refine ⟨?_, hasPendingCall_eq_false waiting inHand⟩
  have called : l.join.isPending l.calls = true := by
    rw [isPending_iff]
    exact .inl (List.mem_append_right _ List.mem_cons_self)
  rw [events]
  exact List.mem_append_right _ (List.mem_map_of_mem ((pending _).mp called))

/-! ## Closing -/

/-- What has become of a listener once it has been closed. -/
structure ClosedDown (l next : Listener) : Prop where
  /-- Closing has closed every session that was registered once, whatever failures there were, and
  no other session. -/
  closes : ∀ number, next.registry.closes number =
    l.registry.closes number + if number ∈ l.registry.table.numbers then 1 else 0
  /-- Every session that has ever been created is closed. -/
  isClosed : ∀ number session, next.registry.session? number = some session →
    session.isClosed = true
  table : next.registry.table = []
  queue : next.queue = []
  loop : next.loop.ended = true
  hijacks : next.hijacks = []
  /-- All that has happened is that the accept calls that were under way have been refused and
  that the registered sessions have been closed. -/
  events : ∃ refused : List Nat,
    next.events = l.events ++ refused.map .refused ++ l.registry.table.numbers.map .shut ∧
      ∀ call, l.isPending call = true ↔ call ∈ refused
  pending : next.hasPendingCall = false
  /-- Every later accept call is refused at once. -/
  later : ∀ commands, (next.run commands).released = false →
    .refused (next.run commands).calls ∈ ((next.run commands).perform .accept).events ∧
      ((next.run commands).perform .accept).hasPendingCall = false
  /-- No session is created by closing or ever after. -/
  created : ∀ steps last, next.follow steps = some last → last.created = l.created

/-- What closing reports. -/
inductive Reports (l : Listener) : Except ListenerError Unit → Prop
  /-- The read loop has failed. -/
  | readLoop (failed : l.loop = .failed) : Reports l (.error (.readLoop "the task failed"))
  /-- A registered session has failed to close. -/
  | session {number : Nat} {session : Session} {cause : TransportError}
      (healthy : l.loop ≠ .failed) (registered : number ∈ l.registry.table.numbers)
      (known : l.registry.session? number = some session)
      (fails : session.closeFault = some cause) :
      Reports l (.error (.session { peer := session.address, cause }))
  | done (healthy : l.loop ≠ .failed)
      (fine : ∀ number ∈ l.registry.table.numbers, ∀ session,
        l.registry.session? number = some session → session.closeFault = none) :
      Reports l (.ok ())

theorem closedDown_close {l : Listener} (sound : l.registry.Sound) (settled : l.Settled)
    (running : l.closed = false) : l.ClosedDown l.close.1 := by
  have stopping := settled.stopping
  obtain ⟨ended, hijacks, queue, waiting, inHand⟩ :=
    (settled_settle l.beginClose).nothing_left stopping.shutdown
  rcases refused_settle (l := l.beginClose) rfl with ⟨refused, events, pending⟩
  rcases exists_close_fst settled running with ⟨watched, closed⟩
  have shut : l.close.1.shutdown = true := by
    rw [closed]
    exact stopping.shutdown
  have created : l.close.1.created = l.created := by
    rw [closed]
    exact Registry.length_closeEach ..
  constructor
  · rw [closed]
    exact closes_closeAll sound
  · rw [closed]
    intro number session known
    exact sound.isClosed_closeAll known
  · rw [closed]
    rfl
  · rw [closed]
    exact queue
  · rw [closed]
    exact ended
  · rw [closed]
    exact hijacks
  · refine ⟨refused, ?_, pending⟩
    rw [closed]
    exact (events_recordAll _ _).trans (congrArg (· ++ _) events)
  · rw [closed]
    exact hasPendingCall_eq_false waiting inHand
  · intro commands held
    rcases exists_follow_run l.close.1 commands with ⟨steps, followed, _⟩
    exact accept_refused (follow_shutdown shut followed) held
  · intro steps last followed
    exact (follow_created shut followed).trans created

/-- The failures of closing are those of the registered sessions. -/
theorem mem_failures {registry : Registry} {failure : CloseError} :
    failure ∈ registry.closeAll.2 ↔
      ∃ number ∈ registry.table.numbers, ∃ session, registry.session? number = some session ∧
        ∃ cause, session.closeFault = some cause ∧
          failure = { peer := session.address, cause } := by
  rw [Registry.closeAll, Registry.failures_closeEach, List.mem_filterMap]
  simp only [Registry.snd_closeSession, Option.bind_eq_some_iff, Option.map_eq_some_iff,
    eq_comm (a := failure)]

theorem reports_close {l : Listener} (settled : l.Settled) (running : l.closed = false) :
    l.Reports l.close.2.result := by
  have failures : l.beginClose.settle.closeSessions.2 = l.registry.closeAll.2 := by
    rw [closeSessions_snd, settled.stopping.registry]
  rw [close_eq running, failures, Closing.result]
  by_cases failed : l.loop = .failed
  · rw [if_pos (decide_eq_true failed)]
    exact .readLoop failed
  · rw [if_neg (by simpa using failed)]
    cases all : l.registry.closeAll.2 with
    | nil =>
        refine .done failed ?_
        intro number registered session known
        cases fails : session.closeFault with
        | none => rfl
        | some cause =>
            have member := mem_failures.mpr
              ⟨number, registered, session, known, cause, fails, rfl⟩
            rw [all] at member
            cases member
    | cons failure others =>
        have member : failure ∈ l.registry.closeAll.2 := by
          rw [all]
          exact List.mem_cons_self
        rcases mem_failures.mp member with ⟨number, registered, session, known, cause, fails, rfl⟩
        exact .session failed registered known fails

/-- Along every schedule the listener itself closes no session more than once.  If the listener is
settled and has not been closed, closing it shuts everything down and reports a failure of the
read loop before those of sessions. -/
theorem close_shuts_down {setup : Setup} {steps : List Step} {l : Listener}
    (followed : (start setup).follow steps = some l) :
    (∀ number, l.registry.closes number = (start setup).asked number steps + l.own number ∧
      l.own number ≤ 1) ∧
    (l.Settled → l.closed = false → l.ClosedDown l.close.1 ∧ l.Reports l.close.2.result) := by
  have closed := closesOnce_follow followed
  constructor
  · intro number
    have counts := closes_follow followed (closesOnce_start setup) number
    refine ⟨?_, closed.once number⟩
    have none : (start setup).registry.closes number = 0 := rfl
    have none' : (start setup).own number = 0 := rfl
    omega
  · intro settled running
    exact ⟨closedDown_close closed.tracked.sound settled running, reports_close settled running⟩

/-- Closing the listener closes the session of a client that nobody has accepted. -/
theorem close_shuts_down_of_handshake :
    ∃ l, (start .plain).follow (handshake (.v4 0x7F000001 4000)) = some l ∧
      l.registry.closes 0 = 0 ∧ l.close.1.registry.closes 0 = 1 ∧
        l.close.1.registry.table = [] := by
  have followed : (start .plain).follow (handshake (.v4 0x7F000001 4000)) = some _ := rfl
  rcases (close_shuts_down followed).2 (fun move => by cases move <;> rfl) rfl with ⟨down, _⟩
  exact ⟨_, followed, rfl, down.closes 0, down.table⟩

end Anteroom.Listener
