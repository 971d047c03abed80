import Anteroom.Proofs.Order
import Anteroom.Proofs.Pongs
import Anteroom.Proofs.Recast

/-!
# The read loop goes on

Whatever bytes a datagram has, and whatever comes of it, the read loop goes on
with the next one.  It ends when the listener shuts down, which takes that the
listener is closed or let go of, or when the creation of a session fails.  Until
then every datagram that arrives is handled once, in the order of arrival, and
once the listener has settled none is left, unless the read loop is held up.
-/

namespace Anteroom

theorem Plan.eq_fails {plan : Plan} {peer : Address} {mtu : UInt16} {guid : Int64}
    (planned : plan.session? peer mtu guid = none) : plan = .fails := by
  cases plan with
  | fails => rfl
  | raw | scripted => cases planned

namespace Listener

/-! ## What ends a read loop -/

/-- Taking the datagram ends the read loop: it ends the handshake of a peer without a session, and
the creation of the session fails. -/
structure Breaks (l : Listener) (delivery : Delivery) : Prop where
  unregistered : l.sessionOf? delivery.peer = none
  decoded : ∃ server mtu guid,
    Message.decodeInbound delivery.datagram = .ok (.openConnectionRequest2 server mtu guid)
  reached : l.setup.link.reaches delivery.peer = true
  fails : l.setup.plan l.created = .fails

theorem Handled.breaks {l next : Listener} {peer : Address} {datagram : Bytes}
    (handled : Handled l peer datagram next) (reading : l.loop = .reading)
    (failed : next.loop = .failed) : l.Breaks ⟨peer, datagram⟩ := by
  have going : l.loop ≠ .failed := by
    rw [reading]
    exact nofun
  cases handled with
  | failed unregistered decoded reached planned =>
      exact ⟨unregistered, ⟨_, _, _, decoded⟩, reached, Plan.eq_fails planned⟩
  | negotiated =>
      rw [offer] at failed
      split at failed
      · exact absurd failed going
      · cases failed
  | _ => exact absurd failed going

/-- Only a datagram whose session cannot be created makes a read loop fail. -/
theorem Went.breaks {l next : Listener} {step : Step} (went : Went l step next)
    (failed : next.loop = .failed) :
    l.loop = .failed ∨ ∃ delivery, l.taken? step = some delivery ∧ l.Breaks delivery := by
  cases went with
  | command issued => cases issued <;> exact .inl failed
  | move moved =>
      cases moved with
      | stopped | enqueued => cases failed
      | @handled delivery deliveries backlog running reading =>
          refine .inr ⟨delivery, (by rw [taken?, backlog]; rfl : _ = some delivery), ?_⟩
          have breaks := (handled_handle { l with backlog := deliveries } delivery.peer
            delivery.datagram).breaks reading failed
          exact ⟨breaks.unregistered, breaks.decoded, breaks.reached, breaks.fails⟩
      | _ => exact .inl failed
  | closeSessions => exact .inl failed

theorem breaks_follow {l last : Listener} {steps : List Step}
    (followed : l.follow steps = some last) (failed : last.loop = .failed) :
    l.loop = .failed ∨ ∃ reading ∈ l.readings steps, reading.1.Breaks reading.2 := by
  induction steps generalizing l with
  | nil =>
      cases followed
      exact .inl failed
  | cons step steps ih =>
      rcases follow_cons_eq_some_iff.mp followed with ⟨next, after, rest⟩
      rw [readings_cons after]
      rcases ih rest with before | ⟨reading, member, breaks⟩
      · rcases (went_of_after? after).breaks before with earlier | ⟨delivery, takes, breaks⟩
        · exact .inl earlier
        · refine .inr ⟨(l, delivery), List.mem_append_left _ ?_, breaks⟩
          rw [takes]
          exact List.mem_singleton.mpr rfl
      · exact .inr ⟨reading, List.mem_append_right _ member, breaks⟩

theorem setup_reading {l last : Listener} {steps : List Step}
    (followed : l.follow steps = some last) {reading : Listener × Delivery}
    (member : reading ∈ l.readings steps) : reading.1.setup = l.setup := by
  induction steps generalizing l with
  | nil => cases member
  | cons step steps ih =>
      rcases follow_cons_eq_some_iff.mp followed with ⟨next, after, rest⟩
      rw [readings_cons after] at member
      rcases List.mem_append.mp member with now | later
      · rcases List.mem_map.mp now with ⟨delivery, _, rfl⟩
        rfl
      · exact (ih rest later).trans (went_of_after? after).setup

/-- Nothing ends a read loop for which every session can be created. -/
theorem unbroken_of_plan {setup : Setup} {steps : List Step} {l : Listener}
    (followed : (start setup).follow steps = some l)
    (creates : ∀ number, setup.plan number ≠ .fails) :
    ∀ reading ∈ (start setup).readings steps, ¬ reading.1.Breaks reading.2 := by
  intro reading member breaks
  apply creates reading.1.created
  have same : reading.1.setup = setup := setup_reading followed member
  exact same ▸ breaks.fails

/-- A read loop stops in a shutdown only, and a listener shuts down only after it has been closed
or let go of. -/
structure Wanted (l : Listener) : Prop where
  stopped : l.loop = .stopped → l.shutdown = true
  shut : l.shutdown = true → l.closed = true ∨ l.released = true

theorem wanted_start (setup : Setup) : (start setup).Wanted where
  stopped := nofun
  shut := nofun

theorem Went.wanted {l next : Listener} {step : Step} (went : Went l step next)
    (wanted : l.Wanted) : next.Wanted := by
  constructor
  · intro stopped
    cases went.looped with
    | same loop => exact went.shutdown (wanted.stopped (loop ▸ stopped))
    | stopped shut => exact went.shutdown shut
    | resumed _ loop => cases loop.symm.trans stopped
    | handled _ loop =>
        rcases loop with loop | loop | loop <;> cases loop.symm.trans stopped
  · intro shut
    cases went with
    | command issued =>
        cases issued with
        | closing => exact .inl rfl
        | released => exact .inr rfl
        | _ => exact wanted.shut shut
    | move moved =>
        cases moved with
        | released released => exact .inr released
        | handled =>
            rw [(handled_handle _ _ _).eq_update] at shut ⊢
            exact wanted.shut shut
        | _ => exact wanted.shut shut
    | closeSessions => exact wanted.shut shut

theorem wanted_follow {setup : Setup} {steps : List Step} {l : Listener}
    (followed : (start setup).follow steps = some l) : l.Wanted :=
  follow_induction (fun _ _ _ _ wanted went => went.wanted wanted) (wanted_start setup) followed

/-- While the listener is neither closed nor let go of, the read loop ends only if the creation of a
session fails. -/
theorem not_ended {setup : Setup} {steps : List Step} {l : Listener}
    (followed : (start setup).follow steps = some l) (unclosed : l.closed = false)
    (held : l.released = false)
    (unbroken : ∀ reading ∈ (start setup).readings steps, ¬ reading.1.Breaks reading.2) :
    l.shutdown = false ∧ l.loop.ended = false := by
  have wanted := wanted_follow followed
  have running : l.shutdown = false := by
    rw [Bool.eq_false_iff]
    intro shut
    rcases wanted.shut shut with closed | released
    · cases unclosed.symm.trans closed
    · cases held.symm.trans released
  refine ⟨running, ?_⟩
  cases loop : l.loop with
  | reading | holding => rfl
  | failed =>
      rcases breaks_follow followed loop with before | ⟨reading, member, breaks⟩
      · cases before
      · exact absurd breaks (unbroken reading member)
  | stopped => cases running.symm.trans (wanted.stopped loop)

/-! ## Datagrams are handled in the order of arrival -/

/-- What the read loop takes in a step is told with the session registered for its sender. -/
theorem Went.handlings {l next : Listener} {step : Step} (went : Went l step next) :
    next.handlings = l.handlings ++
      (l.taken? step).toList.map fun delivery => (delivery, l.sessionOf? delivery.peer) := by
  by_cases handles : step = .move .handle
  · subst handles
    cases went with
    | move moved =>
        cases moved with
        | @handled delivery deliveries backlog =>
            rw [taken?, backlog]
            exact (handled_handle { l with backlog := deliveries } delivery.peer
              delivery.datagram).handlings
  · rcases went.told with ⟨events, tells⟩
    rw [(tells.handlings handles).2]
    cases taken : l.taken? step with
    | none => exact (List.append_nil _).symm
    | some delivery =>
        cases step with
        | move move =>
            cases move with
            | handle => exact absurd rfl handles
            | _ => cases taken
        | _ => cases taken

theorem handlings_follow {l last : Listener} {steps : List Step}
    (followed : l.follow steps = some last) :
    last.handlings = l.handlings ++
      (l.readings steps).map fun reading =>
        (reading.2, reading.1.sessionOf? reading.2.peer) := by
  induction steps generalizing l with
  | nil =>
      cases followed
      exact (List.append_nil _).symm
  | cons step steps ih =>
      rcases follow_cons_eq_some_iff.mp followed with ⟨next, after, rest⟩
      rw [ih rest, (went_of_after? after).handlings, readings_cons after, List.map_append,
        List.append_assoc, List.map_map]
      rfl

/-- The datagrams that were handled, and then those in the backlog, are those that have arrived. -/
theorem handlings_append_backlog {setup : Setup} {steps : List Step} {l : Listener}
    (followed : (start setup).follow steps = some l) :
    l.handlings.map Prod.fst ++ l.backlog = steps.filterMap Step.arrival? := by
  have handled : l.handlings.map Prod.fst = ((start setup).readings steps).map Prod.snd := by
    rw [handlings_follow followed, List.map_append, List.map_map]
    rfl
  rw [handled]
  exact readings_append_backlog followed

/-! ## A settled read loop -/

/-- A settled listener whose read loop reads has handled everything. -/
theorem Settled.backlog_eq_nil {l : Listener} (settled : l.Settled) (running : l.shutdown = false)
    (reading : l.loop = .reading) : l.backlog = [] := by
  cases backlog : l.backlog with
  | nil => rfl
  | cons delivery deliveries =>
      exact absurd (Moved.handled backlog running reading) settled.not_moved

/-- In a settled listener whose read loop reads, a datagram that arrives is handled first. -/
theorem Settled.deliver_eq {l : Listener} (settled : l.Settled) (running : l.shutdown = false)
    (reading : l.loop = .reading) (peer : Address) (datagram : Bytes) :
    l.deliver peer datagram = (l.handle peer datagram.received).settle := by
  have empty := settled.backlog_eq_nil running reading
  have arrived : (l.arrive peer datagram).backlog = [{ peer, datagram := datagram.received }] := by
    rw [arrive, empty]
    rfl
  have handled : Moved (l.arrive peer datagram) .handle _ := .handled arrived running reading
  cases step : (l.arrive peer datagram).step? with
  | none => exact absurd handled (step?_eq_none_iff.mp step).not_moved
  | some next =>
      rcases exists_move?_of_step? step with ⟨move, enabled⟩
      by_cases handles : move = .handle
      · subst handles
        have same : ({ l.arrive peer datagram with backlog := [] } : Listener) = l := by
          rw [← empty]
          rfl
        rw [handled.enabled, same] at enabled
        cases enabled
        exact settle_of_step? step
      · rcases (moved_of_move? enabled).recast handles with ⟨entries, moves⟩
        exact absurd (moves l.backlog l.history) settled.not_moved

/-- If handling a datagram changes the history alone, nothing else comes of its arrival. -/
theorem Settled.deliver_eq_recordAll {l : Listener} (settled : l.Settled)
    (running : l.shutdown = false) (reading : l.loop = .reading) {peer : Address} {datagram : Bytes}
    {events : List Event} (handled : l.handle peer datagram.received = l.recordAll events) :
    l.deliver peer datagram = l.recordAll events := by
  rw [settled.deliver_eq running reading, handled]
  exact (settled.update l.board _).settle_eq

/-- In a settled listener whose read loop reads, a ping from a peer without a session is answered,
and nothing else happens. -/
theorem Settled.deliver_ping {l : Listener} (settled : l.Settled) (running : l.shutdown = false)
    (reading : l.loop = .reading) {peer : Address} {datagram : Bytes}
    {sendTimestamp clientGuid : Int64} (unregistered : l.sessionOf? peer = none)
    (decoded : Message.decodeInbound datagram.received =
      .ok (.unconnectedPing sendTimestamp clientGuid)) :
    l.deliver peer datagram =
      l.recordAll [.handled peer datagram.received none,
        if l.setup.link.reaches peer then .sent peer (l.pong sendTimestamp) none
        else .reported peer (.send "unconnected pong" Link.fault)] := by
  apply settled.deliver_eq_recordAll running reading
  exact handle_ping unregistered decoded

/-- Along every schedule that leaves the listener neither closed nor let go of, and in which no
creation of a session has failed, the read loop has not ended.  What it has handled are the
datagrams that have arrived, each cut to 1500 bytes, once and in this order, up to those that wait
in the backlog.  When the listener has settled, the read loop is held up by a full queue, or nothing
waits and a ping from a peer without a session is answered at once. -/
theorem read_loop_goes_on {setup : Setup} {steps : List Step} {l : Listener}
    (followed : (start setup).follow steps = some l) (unclosed : l.closed = false)
    (held : l.released = false)
    (unbroken : ∀ reading ∈ (start setup).readings steps, ¬ reading.1.Breaks reading.2) :
    l.loop.ended = false ∧
    l.handlings.map Prod.fst ++ l.backlog = steps.filterMap Step.arrival? ∧
    (l.Settled →
      (∃ session, l.loop = .holding session ∧ setup.capacity ≤ l.queue.length) ∨
      (l.backlog = [] ∧ ∀ peer datagram sendTimestamp clientGuid, l.sessionOf? peer = none →
        Message.decodeInbound (datagram.take 1500) =
          .ok (.unconnectedPing sendTimestamp clientGuid) →
        l.perform (.deliver peer datagram) =
          l.recordAll [.handled peer (datagram.take 1500) none,
            if setup.link.reaches peer then .sent peer (l.pong sendTimestamp) none
            else .reported peer (.send "unconnected pong" Link.fault)])) := by
  obtain ⟨running, going⟩ := not_ended followed unclosed held unbroken
  have same : l.setup = setup := setup_follow followed
  refine ⟨going, handlings_append_backlog followed, ?_⟩
  intro settled
  cases loop : l.loop with
  | holding session =>
      refine .inl ⟨session, rfl, ?_⟩
      rw [← same]
      exact (settled.full loop).2
  | reading =>
      refine .inr ⟨settled.backlog_eq_nil running loop, ?_⟩
      intro peer datagram sendTimestamp clientGuid unregistered decoded
      rw [← same]
      exact settled.deliver_ping running loop unregistered decoded
  | failed | stopped =>
      rw [loop] at going
      cases going

/-- The read loop has held the session of the second client, and a ping has come meanwhile. -/
theorem read_loop_goes_on_of_backlog :
    ∃ l, (start .narrow).follow (handshake (.v4 0x7F000001 4000) ++
        handshake (.v4 0x7F000001 4001) ++
        [.command (.deliver (.v4 0x7F000001 4002) (Probe.request 5 9)), .command .accept,
          .move .pull, .move .enqueue, .move .handle]) = some l ∧
      l.Settled ∧ l.loop.ended = false ∧ l.handlings.length = 3 ∧
      l.perform (.deliver (.v4 0x7F000001 4003) (Probe.request 6 9)) =
        l.recordAll [.handled (.v4 0x7F000001 4003) (Probe.request 6 9) none,
          .sent (.v4 0x7F000001 4003) (l.pong 6) none] := by
  have some? : ((start .narrow).follow (handshake (.v4 0x7F000001 4000) ++
      handshake (.v4 0x7F000001 4001) ++
      [.command (.deliver (.v4 0x7F000001 4002) (Probe.request 5 9)), .command .accept,
        .move .pull, .move .enqueue, .move .handle])).any (fun l =>
          l.step?.isNone ∧ l.closed = false ∧ l.released = false ∧ l.loop = .reading ∧
            l.handlings.length = 3 ∧ l.sessionOf? (.v4 0x7F000001 4003) = none) = true := by
    decide +kernel
  rcases (Option.any_eq_true _ _).mp some? with ⟨l, followed, facts⟩
  rcases of_decide_eq_true facts with ⟨quiet, unclosed, held, reading, count, unregistered⟩
  have settled := step?_eq_none_iff.mp (Option.isNone_iff_eq_none.mp quiet)
  obtain ⟨going, _, answers⟩ := read_loop_goes_on followed unclosed held
    (unbroken_of_plan followed fun _ => nofun)
  refine ⟨l, followed, settled, going, count, ?_⟩
  rcases answers settled with ⟨session, holding, _⟩ | ⟨_, answers⟩
  · cases reading.symm.trans holding
  · exact answers _ _ 6 9 unregistered rfl

end Listener

end Anteroom
