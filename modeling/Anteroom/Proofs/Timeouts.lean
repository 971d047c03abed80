import Anteroom.Proofs.Calls
import Anteroom.Proofs.Roster

/-!
# Candidates that complete and candidates that do not

An accept call waits for its candidate until one of three things has happened,
which are looked at in this order: the listener shuts down, the candidate has
completed, or its time is up.  So a candidate that completes in time is
returned by the very call that has it in hand, and nothing is returned after a
shutdown.  A candidate whose time is up is closed and taken out of the table;
its call goes on with the next one, and its address can negotiate again.
-/

namespace Anteroom

/-- The default configuration, with sessions that never complete and fail to close. -/
def Setup.stubborn : Setup :=
  .ofConfig 7 {} Link.routed fun _ => .scripted fun peer => { closeFault := some (.closed peer) }

namespace Listener

/-! ## After a shutdown nothing is returned -/

/-- What a step needs in order to shut the listener down. -/
theorem Went.shutdown_or {l next : Listener} {step : Step} (went : Went l step next)
    (shut : next.shutdown = true) :
    l.shutdown = true ∨ step = .command .close ∨ l.hasPendingCall = false := by
  cases went with
  | command issued =>
      cases issued with
      | closing => exact .inr (.inl rfl)
      | _ => exact .inl shut
  | move moved =>
      cases moved with
      | released _ _ idle => exact .inr (.inr idle)
      | handled =>
          rw [(handled_handle _ _ _).eq_update] at shut
          exact .inl shut
      | _ => exact .inl shut
  | closeSessions => exact .inl shut

/-- What has been let go of stays so. -/
theorem Went.released {l next : Listener} {step : Step} (went : Went l step next)
    (released : l.released = true) : next.released = true := by
  cases went with
  | command issued =>
      cases issued with
      | released => rfl
      | _ => exact released
  | move moved =>
      cases moved with
      | handled =>
          rw [(handled_handle _ _ _).eq_update]
          exact released
      | _ => exact released
  | closeSessions => exact released

/-- The listener has shut down, or nothing can refer to it any more. -/
def Dormant (l : Listener) : Prop :=
  l.shutdown = true ∨ l.released = true ∧ l.callers = []

theorem Went.dormant {l next : Listener} {step : Step} (went : Went l step next)
    (dormant : l.Dormant) : next.Dormant := by
  rcases dormant with shut | ⟨released, idle⟩
  · exact .inl (went.shutdown shut)
  · refine .inr ⟨went.released released, ?_⟩
    cases went.called with
    | same callers => exact List.perm_nil.mp (idle ▸ callers)
    | started _ held => cases released.symm.trans held
    | ended callers =>
        rw [idle] at callers
        cases List.nil_perm.mp callers

/-- Once a listener is dormant it returns no session. -/
theorem follow_dormant {l last : Listener} {steps : List Step}
    (followed : l.follow steps = some last) (dormant : l.Dormant) {number call : Nat}
    (met : (number, Fate.returned call) ∈ last.fates) : (number, Fate.returned call) ∈ l.fates := by
  suffices both : last.Dormant ∧
      ((number, Fate.returned call) ∈ last.fates → (number, Fate.returned call) ∈ l.fates) from
    both.2 met
  apply follow_induction (P := fun s => s.Dormant ∧
    ((number, Fate.returned call) ∈ s.fates → (number, Fate.returned call) ∈ l.fates)) _
    ⟨dormant, id⟩ followed
  rintro step _ s next ⟨dormant, before⟩ went
  refine ⟨went.dormant dormant, ?_⟩
  intro met
  rcases went.returned_or met with earlier | accepts
  · exact before earlier
  · rcases dormant with shut | ⟨_, idle⟩
    · cases shut.symm.trans accepts.running
    · rcases accepts.held with ⟨candidate, found, _, _⟩
      have under : candidate.call ∈ s.callers :=
        List.mem_append_right _ (List.mem_map_of_mem found)
      rw [idle] at under
      cases under

/-! ## What becomes of a candidate in hand -/

/-- What a step does to a candidate in hand. -/
inductive Parts (l next : Listener) (candidate : Candidate) : Step → Prop
  | stays {step : Step} (found : candidate ∈ next.inHand) : Parts l next candidate step
  | abandoned : Parts l next candidate (.command (.abandon candidate.call))
  | dropped {step : Step} (shut : l.shutdown = true) : Parts l next candidate step
  | returned {step : Step} (running : l.shutdown = false)
      (complete : l.sessionIs candidate.session Session.isComplete = true)
      (met : (candidate.session, .returned candidate.call) ∈ next.fates) :
      Parts l next candidate step
  | expired {index : Nat} (found : l.inHand[index]? = some candidate) (running : l.shutdown = false)
      (incomplete : l.sessionIs candidate.session Session.isComplete = false)
      (due : candidate.deadline ≤ l.now) : Parts l next candidate (.move (.resolve index))

/-- A candidate is either the one that is taken out of the list or stays in it. -/
theorem eq_or_mem_eraseIdx {α : Type} {items : List α} {item other : α} {index : Nat}
    (found : items[index]? = some item) (member : other ∈ items) :
    other = item ∨ other ∈ items.eraseIdx index :=
  List.mem_cons.mp ((perm_eraseIdx found).mem_iff.mp member)

theorem Went.parts {l next : Listener} {step : Step} (went : Went l step next)
    {candidate : Candidate} (found : candidate ∈ l.inHand) : Parts l next candidate step := by
  cases went.served with
  | abandon issued =>
      cases issued with
      | @lost other member =>
          by_cases same : candidate = other
          · subst same
            exact .abandoned
          · exact .stays ((List.mem_erase_of_ne same).mpr found)
      | _ => exact .stays found
  | pull moved =>
      cases moved
      exact .stays (List.mem_append_left _ found)
  | resolve moved =>
      cases moved with
      | dropped _ shut => exact .dropped shut
      | accepted at? running complete =>
          rcases eq_or_mem_eraseIdx at? found with rfl | rest
          · exact .returned running complete (List.mem_append_right _ List.mem_cons_self)
          · exact .stays rest
      | expired at? running incomplete due =>
          rcases eq_or_mem_eraseIdx at? found with rfl | rest
          · exact .expired at? running incomplete due
          · exact .stays rest
  | other untouched => exact .stays (untouched.inHand ▸ found)

theorem hasPendingCall_of_mem {l : Listener} {candidate : Candidate}
    (found : candidate ∈ l.inHand) : l.hasPendingCall = true := by
  apply hasPendingCall_iff.mpr
  have under : candidate.call ∈ l.callers := List.mem_append_right _ (List.mem_map_of_mem found)
  exact List.ne_nil_of_mem under

/-- A candidate that is complete is returned by the call that has it in hand, unless the call is
abandoned or the listener is closed before it comes to that. -/
theorem returned_of_complete {l last : Listener} {steps : List Step}
    (followed : l.follow steps = some last) (tracked : l.Tracked) {candidate : Candidate}
    (found : candidate ∈ l.inHand) (running : l.shutdown = false)
    (complete : l.sessionIs candidate.session Session.isComplete = true)
    (unclosed : .command .close ∉ steps) (patient : .command (.abandon candidate.call) ∉ steps)
    (settled : last.Settled) : (candidate.session, .returned candidate.call) ∈ last.fates := by
  induction steps generalizing l with
  | nil =>
      cases followed
      rcases List.getElem?_of_mem found with ⟨index, at?⟩
      exact absurd (Moved.accepted at? running complete) settled.not_moved
  | cons step steps ih =>
      rcases follow_cons_eq_some_iff.mp followed with ⟨next, after, rest⟩
      have went := went_of_after? after
      have notClose := List.ne_of_not_mem_cons unclosed
      have notAbandon := List.ne_of_not_mem_cons patient
      have unclosed := List.not_mem_of_not_mem_cons unclosed
      have patient := List.not_mem_of_not_mem_cons patient
      cases went.parts found with
      | stays still =>
          have running : next.shutdown = false := by
            rw [Bool.eq_false_iff]
            intro shut
            rcases went.shutdown_or shut with shut | close | idle
            · cases shut.symm.trans running
            · exact notClose close.symm
            · cases (hasPendingCall_of_mem found).symm.trans idle
          have complete := sessionIs_mono went.became.advances Session.Advances.completed complete
          exact ih rest (went.tracked tracked) still running complete unclosed patient
      | abandoned => exact absurd rfl notAbandon
      | dropped shut => cases shut.symm.trans running
      | returned _ _ met => exact fates_follow (went.tracked tracked) rest met
      | expired _ _ incomplete => cases complete.symm.trans incomplete

/-! ## What becomes of a candidate whose time is up -/

/-- An accept call closes the candidate whose time is up, takes its entry out of the table and no
other one, and waits for the next candidate. -/
structure Reclaims (l next : Listener) (candidate : Candidate) : Prop where
  due : candidate.deadline ≤ l.now
  incomplete : l.sessionIs candidate.session Session.isComplete = false
  closes : next.registry.closes candidate.session = l.registry.closes candidate.session + 1
  told : .expired candidate.session ∈ next.events
  table : ∀ address, next.sessionOf? address =
    if l.sessionOf? address = some candidate.session then none else l.sessionOf? address
  free : ∀ session, next.registry.session? candidate.session = some session →
    next.sessionOf? session.address = none
  waiting : next.waiting = l.waiting ++ [candidate.call]

/-- What is true of a session that has been reclaimed ever after: the listener has closed it once,
it has left the table, no accept call returns it, and whoever is registered under its address is
newer. -/
structure Reclaimed (l : Listener) (number : Nat) : Prop where
  own : l.own number = 1
  retired : l.registry.Retired number
  unreturned : ∀ call, .returned call number ∉ l.events
  newer : ∀ session other, l.registry.session? number = some session →
    l.sessionOf? session.address = some other → number < other

/-- The first call that waits takes the first session in the queue, and its time begins. -/
theorem exists_candidate {l next : Listener} (enabled : l.move? .pull = some next) :
    ∃ candidate : Candidate, next.inHand = l.inHand ++ [candidate] ∧
      l.waiting.head? = some candidate.call ∧ l.queue.head? = some candidate.session ∧
        candidate.deadline = l.now + l.setup.config.handshakeTimeout.nanos := by
  cases moved_of_move? enabled with
  | pulled waiting queue =>
      rw [waiting, queue]
      exact ⟨_, rfl, rfl, rfl, rfl⟩

/-- When the time of a candidate is up its call may reclaim it. -/
theorem exists_reclaims {l : Listener} (closes : l.ClosesOnce) (roster : l.Roster) {index : Nat}
    {candidate : Candidate} (at? : l.inHand[index]? = some candidate) (running : l.shutdown = false)
    (incomplete : l.sessionIs candidate.session Session.isComplete = false)
    (due : candidate.deadline ≤ l.now) :
    ∃ next, l.move? (.resolve index) = some next ∧ l.Reclaims next candidate := by
  have tracked := closes.tracked
  have found := List.mem_of_getElem? at?
  rcases tracked.placed.known found with ⟨session, known⟩
  have registered := roster.listed running known ((awaits_of_inHand found).unserved tracked.placed)
  have table : ∀ address, ((l.registry.closeSession candidate.session).1.unregister
      candidate.session).1.table.find? address =
        if l.sessionOf? address = some candidate.session then none else l.sessionOf? address := by
    intro address
    rw [(tracked.sound.closeSession candidate.session).find?_unregister,
      Registry.table_closeSession]
    rfl
  refine ⟨_, (Moved.expired at? running incomplete due).enabled, ?_⟩
  constructor
  · exact due
  · exact incomplete
  · apply (Registry.closes_unregister_closeSession known candidate.session).trans
    rw [if_pos rfl]
  · exact mem_events_record _ _
  · exact table
  · intro later known'
    have same : later.address = session.address := by
      rw [record, Registry.session?_unregister, Registry.session?_closeSession, if_pos rfl,
        known] at known'
      cases known'
      rfl
    apply (table later.address).trans
    rw [same, if_pos registered]
  · rfl

/-- The call that has reclaimed its candidate is under way. -/
theorem Reclaims.pending {l next : Listener} {candidate : Candidate}
    (reclaims : l.Reclaims next candidate) : next.isPending candidate.call = true := by
  rw [← mem_callers, callers, reclaims.waiting]
  exact List.mem_append_left _ (List.mem_append_right _ List.mem_cons_self)

/-- What has been reclaimed stays so. -/
theorem Reclaims.follow {l next last : Listener} {candidate : Candidate} {steps : List Step}
    (reclaims : l.Reclaims next candidate) (closes : next.ClosesOnce)
    (followed : next.follow steps = some last) : last.Reclaimed candidate.session := by
  have later := closes.follow followed
  have met := closes.tracked.expired_iff.mp reclaims.told
  have still := fates_follow closes.tracked followed met
  constructor
  · have once := later.once candidate.session
    have some : 0 < last.own candidate.session := by
      rw [own, List.countP_pos_iff]
      exact ⟨_, later.tracked.expired_iff.mpr still, decide_eq_true rfl⟩
    omega
  · exact later.tracked.borne _ still
  · intro call returned
    cases later.tracked.placed.fate_unique (later.tracked.returned_iff.mp returned) still
  · intro session other known registered
    rcases closes.tracked.borne _ met with ⟨before, was, _, _⟩
    have advances := advances_follow followed
    rcases advances.sessions was with ⟨same, is, advance⟩
    rw [known] at is
    cases is
    rcases advances.entries registered with earlier | unknown
    · rw [advance.address] at earlier
      cases earlier.symm.trans (reclaims.free before was)
    · have old := (List.getElem?_eq_some_iff.mp was).1
      exact Nat.lt_of_lt_of_le old (List.getElem?_eq_none_iff.mp unknown)

/-- A schedule in which the call that has a candidate in hand reclaims it.  The session stays
reclaimed from this step on, and unless the call is abandoned it stays under way until it is
answered. -/
inductive Expiry (l : Listener) (candidate : Candidate) : List Step → Listener → Prop
  | intro {first rest : List Step} {index : Nat} {before next last : Listener}
      (reached : l.follow first = some before) (found : before.inHand[index]? = some candidate)
      (resolved : before.move? (.resolve index) = some next)
      (reclaims : before.Reclaims next candidate)
      (reclaimed : ∀ more final, next.follow more = some final →
        final.Reclaimed candidate.session)
      (pending : ∀ more final, next.follow more = some final →
        .command (.abandon candidate.call) ∉ more →
          final.isPending candidate.call = true ∨ final.Answered candidate.call)
      (rested : next.follow rest = some last) :
      Expiry l candidate (first ++ .move (.resolve index) :: rest) last

theorem Expiry.cons {l next last : Listener} {candidate : Candidate} {step : Step}
    {steps : List Step} (after : l.after? step = some next)
    (expiry : next.Expiry candidate steps last) : l.Expiry candidate (step :: steps) last := by
  cases expiry with
  | intro reached found resolved reclaims reclaimed pending rested =>
      have reached := follow_cons_eq_some_iff.mpr ⟨next, after, reached⟩
      exact .intro reached found resolved reclaims reclaimed pending rested

/-- After an expiry the session is reclaimed. -/
theorem Expiry.reclaimed {l last : Listener} {candidate : Candidate} {steps : List Step}
    (expiry : l.Expiry candidate steps last) : last.Reclaimed candidate.session := by
  cases expiry with
  | intro _ _ _ _ reclaimed _ rested => exact reclaimed _ last rested

/-- A candidate that is not complete although its time is up has been reclaimed by the call that
had it in hand. -/
theorem expiry_of_due {l last : Listener} {steps : List Step}
    (followed : l.follow steps = some last) (closes : l.ClosesOnce) (roster : l.Roster)
    {candidate : Candidate} (found : candidate ∈ l.inHand)
    (patient : .command (.abandon candidate.call) ∉ steps) (settled : last.Settled)
    (running : last.shutdown = false) (due : candidate.deadline ≤ last.now)
    (incomplete : last.sessionIs candidate.session Session.isComplete = false) :
    l.Expiry candidate steps last := by
  induction steps generalizing l with
  | nil =>
      cases followed
      rcases List.getElem?_of_mem found with ⟨index, at?⟩
      exact absurd (Moved.expired at? running incomplete due) settled.not_moved
  | cons step steps ih =>
      rcases follow_cons_eq_some_iff.mp followed with ⟨next, after, rest⟩
      have went := went_of_after? after
      have later := went.closesOnce closes
      cases went.parts found with
      | stays still =>
          have patient := List.not_mem_of_not_mem_cons patient
          exact (ih rest later (went.roster closes roster) still patient).cons after
      | abandoned => exact absurd rfl (List.ne_of_not_mem_cons patient)
      | dropped shut => cases (follow_shutdown shut followed).symm.trans running
      | returned _ complete =>
          have complete := sessionIs_mono (advances_follow followed) Session.Advances.completed
            complete
          cases complete.symm.trans incomplete
      | @expired index at? running incomplete due =>
          rcases exists_reclaims closes roster at? running incomplete due with
            ⟨reached, enabled, reclaims⟩
          rw [after?] at after
          rw [after] at enabled
          cases enabled
          change l.Expiry candidate ([] ++ .move (.resolve index) :: steps) last
          refine .intro rfl at? after reclaims ?_ ?_ rest
          · exact fun more final goes => reclaims.follow later goes
          · exact fun more final goes => follow_pending goes later.tracked reclaims.pending

/-! ## The next candidate and the next session -/

/-- While an accept call waits for a candidate in a settled listener, nobody is in line. -/
theorem Settled.no_candidate {l : Listener} (settled : l.Settled) (running : l.shutdown = false)
    (waits : l.waiting ≠ []) : l.queue = [] ∧ ∀ number, l.loop ≠ .holding number := by
  have empty : l.queue = [] := by
    cases waiting : l.waiting with
    | nil => exact absurd waiting waits
    | cons call calls =>
        cases queue : l.queue with
        | nil => rfl
        | cons session sessions =>
            exact absurd (Moved.pulled waiting queue running) settled.not_moved
  refine ⟨empty, ?_⟩
  intro number holding
  have full := (settled.full holding).2
  have room := l.setup.capacity_pos
  rw [empty, Setup.capacity] at full
  exact Nat.not_lt_zero _ (Nat.lt_of_lt_of_le room full)

/-- A peer without a session gets one when it ends a handshake. -/
theorem registry_handle {l : Listener} {peer server : Address} {datagram : Bytes} {mtu : UInt16}
    {guid : Int64} {session : Session} (free : l.sessionOf? peer = none)
    (decoded : Message.decodeInbound datagram = .ok (.openConnectionRequest2 server mtu guid))
    (reached : l.setup.link.reaches peer = true)
    (planned : (l.setup.plan l.created).session? peer mtu guid = some session) :
    (l.handle peer datagram).registry = (l.enroll session).registry := by
  rw [handle_request2_of_planned free decoded reached planned]
  exact registry_offer _ _

/-- In a running listener that reads, a peer without a session that ends a handshake gets one. -/
theorem exists_negotiation {l : Listener} {peer server : Address} {datagram : Bytes}
    {deliveries : List Delivery} {mtu : UInt16} {guid : Int64} {session : Session}
    (running : l.shutdown = false) (reading : l.loop = .reading)
    (backlog : l.backlog = { peer, datagram } :: deliveries) (free : l.sessionOf? peer = none)
    (decoded : Message.decodeInbound datagram = .ok (.openConnectionRequest2 server mtu guid))
    (reached : l.setup.link.reaches peer = true)
    (planned : (l.setup.plan l.created).session? peer mtu guid = some session) :
    ∃ next, l.move? .handle = some next ∧ next.sessionOf? peer = some l.created ∧
      next.registry.session? l.created = some session := by
  refine ⟨_, (Moved.handled backlog running reading).enabled, ?_⟩
  have registry := registry_handle (l := { l with backlog := deliveries }) free decoded reached
    planned
  have address : session.address = peer := (Plan.fresh_of_session? planned).1
  rw [sessionOf?, registry, ← address]
  constructor
  · exact (sessionOf?_enroll { l with backlog := deliveries } session _).trans (if_pos rfl)
  · exact (session?_enroll { l with backlog := deliveries } session _).trans (if_pos rfl)

/-! ## Completion and time -/

/-- Along every schedule the sessions that accept calls have returned are complete, and a listener
that has been closed, or that nothing refers to any more, returns no more.  A candidate that is
complete is returned by the call that has it in hand.  The time of a candidate runs from when it is
taken from the queue; if it is not complete when the time is up, its call closes it and takes it
out of the table, for good, and stays under way for the next candidate, which is there only when
somebody is in line.  A peer without a session gets a new one when it ends a handshake. -/
theorem candidate_returned_or_reclaimed {setup : Setup} {steps : List Step} {l : Listener}
    (followed : (start setup).follow steps = some l) :
    (∀ call number, .returned call number ∈ l.events →
      l.sessionIs number Session.isComplete = true) ∧
    (l.closed = true ∨ l.released = true ∧ l.hasPendingCall = false →
      ∀ later last call number, l.follow later = some last →
        .returned call number ∈ last.events → .returned call number ∈ l.events) ∧
    (∀ candidate ∈ l.inHand, l.shutdown = false →
      l.sessionIs candidate.session Session.isComplete = true →
      ∀ later last, l.follow later = some last → .command .close ∉ later →
        .command (.abandon candidate.call) ∉ later → last.Settled →
          .returned candidate.call candidate.session ∈ last.events) ∧
    (∀ middle, l.move? .pull = some middle →
      ∃ candidate, middle.inHand = l.inHand ++ [candidate] ∧
        l.waiting.head? = some candidate.call ∧ l.queue.head? = some candidate.session ∧
        candidate.deadline = l.now + setup.config.handshakeTimeout.nanos ∧
        ∀ later last, middle.follow later = some last →
          .command (.abandon candidate.call) ∉ later → last.Settled → last.shutdown = false →
          candidate.deadline ≤ last.now →
          last.sessionIs candidate.session Session.isComplete = false →
            middle.Expiry candidate later last) ∧
    (l.Settled → l.shutdown = false → l.waiting ≠ [] →
      l.queue = [] ∧ ∀ number, l.loop ≠ .holding number) ∧
    (∀ peer server datagram deliveries mtu guid session, l.shutdown = false →
      l.loop = .reading → l.backlog = { peer, datagram } :: deliveries → l.sessionOf? peer = none →
      Message.decodeInbound datagram = .ok (.openConnectionRequest2 server mtu guid) →
      l.setup.link.reaches peer = true →
      (l.setup.plan l.created).session? peer mtu guid = some session →
        ∃ next, l.move? .handle = some next ∧ next.sessionOf? peer = some l.created ∧
          next.registry.session? l.created = some session) := by
  obtain ⟨closes, roster⟩ := roster_follow followed
  have tracked := closes.tracked
  refine ⟨?_, ?_, ?_, ?_, ?_, ?_⟩
  · intro call number returned
    exact roster.complete (tracked.returned_iff.mp returned)
  · intro dormant later last call number went returned
    have dormant : l.Dormant := by
      rcases dormant with closed | ⟨released, idle⟩
      · exact .inl (closes.shut closed)
      · refine .inr ⟨released, ?_⟩
        by_contra some
        cases idle.symm.trans (hasPendingCall_iff.mpr some)
    have met := (closes.follow went).tracked.returned_iff.mp returned
    exact tracked.returned_iff.mpr (follow_dormant went dormant met)
  · intro candidate found running complete later last went unclosed patient settled
    have met := returned_of_complete went tracked found running complete unclosed patient settled
    exact (closes.follow went).tracked.returned_iff.mpr met
  · intro middle enabled
    have went : Went l (.move .pull) middle := went_of_after? enabled
    have roster := went.roster closes roster
    have closes := went.closesOnce closes
    rcases exists_candidate enabled with ⟨candidate, inHand, waiting, queue, deadline⟩
    have same : l.setup = setup := setup_follow followed
    refine ⟨candidate, inHand, waiting, queue, same ▸ deadline, ?_⟩
    intro later last reached patient settled running due incomplete
    have found : candidate ∈ middle.inHand := inHand ▸ List.mem_append_right _ List.mem_cons_self
    exact expiry_of_due reached closes roster found patient settled running due incomplete
  · exact Settled.no_candidate
  · intro peer server datagram deliveries mtu guid session running reading backlog free decoded
      reached planned
    exact exists_negotiation running reading backlog free decoded reached planned

/-- The session of a client has not completed when its time is up: it leaves the table although
closing it fails, and its call waits for the next one. -/
theorem candidate_returned_or_reclaimed_of_silence :
    ∃ l last, (start .stubborn).follow (handshake (.v4 0x7F000001 4000) ++ [.command .accept]) =
        some l ∧
      l.follow [.move .pull, .command (.advance 10000000000), .move (.resolve 0)] = some last ∧
      last.Reclaimed 0 ∧ last.waiting = [0] := by
  have before? : ((start .stubborn).follow
      (handshake (.v4 0x7F000001 4000) ++ [.command .accept])).any (fun l =>
        l.queue = [0] ∧ l.waiting = [0] ∧ l.now = 0 ∧
          (l.follow [.move .pull, .command (.advance 10000000000), .move (.resolve 0)]).any
            fun last =>
              last.step?.isNone ∧ last.shutdown = false ∧ last.now = 10000000000 ∧
                last.sessionIs 0 Session.isComplete = false ∧ last.waiting = [0]) = true := by
    decide +kernel
  rcases (Option.any_eq_true _ _).mp before? with ⟨l, followed, facts⟩
  rcases of_decide_eq_true facts with ⟨queue, waiting, start, after?⟩
  rcases (Option.any_eq_true _ _).mp after? with ⟨last, reached, facts⟩
  rcases of_decide_eq_true facts with ⟨quiet, running, now, incomplete, waits⟩
  have settled := step?_eq_none_iff.mp (Option.isNone_iff_eq_none.mp quiet)
  refine ⟨l, last, followed, reached, ?_, waits⟩
  rcases follow_cons_eq_some_iff.mp reached with ⟨middle, enabled, rest⟩
  rcases (candidate_returned_or_reclaimed followed).2.2.2.1 middle enabled with
    ⟨⟨call, session, deadline⟩, _, first, head, due, course⟩
  rw [waiting] at first
  rw [queue] at head
  rw [start] at due
  cases first
  cases head
  cases due
  exact (course _ last rest (by simp) settled running (Nat.le_of_eq now.symm) incomplete).reclaimed

end Listener

end Anteroom
