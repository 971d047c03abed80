import Anteroom.Proofs.Calls
import Anteroom.Proofs.Forwarding

/-!
# The order of sessions

Sessions are in line for an accept call in the order in which they have been
created: first those in the queue, then the one that the read loop holds.  A
new session goes to the end of the line and accept calls take the first, so the
sessions that have been taken, those in line and those that a shutdown has
discarded are all sessions in order.  The read loop holds a session when the
queue is full, and then it takes no datagram until an accept call has made
room.
-/

namespace Anteroom

/-- The default configuration but for a queue of one session, with raw sessions only. -/
def Setup.narrow : Setup :=
  .ofConfig 7 { acceptQueueCapacity := 1 } Link.routed fun _ => .raw

namespace Listener

/-- The sessions that accept calls have taken from the queue, in this order. -/
def pulled (l : Listener) : List Nat :=
  l.events.filterMap Event.pulled?

/-- The sessions in line for an accept call. -/
def line (l : Listener) : List Nat :=
  l.queue ++ l.loop.held?.toList

/-- The sessions that no accept call has taken and no shutdown has discarded. -/
def unpulled (l : Listener) : List Nat :=
  (List.range l.created).filter fun number =>
    number ∉ l.pulled ∧ (number, Fate.discarded) ∉ l.fates

theorem PullFree.pulled_eq {l next : Listener} (free : l.PullFree next) :
    next.pulled = l.pulled := by
  rcases free with ⟨events, history, silent⟩
  have nothing : events.filterMap Event.pulled? = [] := List.filterMap_eq_nil_iff.mpr silent
  have told : next.events = l.events ++ events := by
    rw [Listener.events, history, List.map_append, List.map_map]
    exact congrArg (l.events ++ ·) (List.map_id events)
  rw [pulled, told, List.filterMap_append, nothing, List.append_nil, pulled]

/-! ## What a step does to the line -/

/-- What a step does to the sessions in line: nothing, a new one joins at the end, the first one is
taken, or a shutdown discards some from the end. -/
inductive Lined (l next : Listener) : Prop
  | still (line : next.line = l.line) (created : next.created = l.created)
      (pulled : next.pulled = l.pulled)
  | joined (running : l.shutdown = false) (line : next.line = l.line ++ [l.created])
      (created : next.created = l.created + 1) (pulled : next.pulled = l.pulled)
  | taken {session : Nat} (line : l.line = session :: next.line)
      (created : next.created = l.created) (pulled : next.pulled = l.pulled ++ [session])
  | discarded {sessions : List Nat} (line : l.line = next.line ++ sessions)
      (created : next.created = l.created) (pulled : next.pulled = l.pulled)
      (fates : next.fates = l.fates ++ sessions.map (·, .discarded))

/-- A session that is offered goes to the end of the line. -/
theorem line_offer {l : Listener} (reading : l.loop = .reading) (session : Nat) :
    (l.offer session).line = l.line ++ [session] := by
  rw [offer]
  split
  · simp [line, reading, ReadLoop.held?]
  · simp [line, reading, ReadLoop.held?]

theorem Handled.lined {l next : Listener} {peer : Address} {datagram : Bytes}
    (handled : Handled l peer datagram next) (running : l.shutdown = false)
    (reading : l.loop = .reading) : Lined l next := by
  have pulled := handled.pullFree.pulled_eq
  cases handled with
  | forwarded => exact .still rfl (Registry.length_modify ..) pulled
  | failed =>
      refine .still ?_ rfl pulled
      rw [line, line, reading]
      rfl
  | @negotiated server mtu guid session =>
      refine .joined running ?_ ?_ pulled
      · exact line_offer (l := (l.enroll session).recordAll _) reading l.created
      · exact (created_offer _ _).trans (created_enroll l session)
  | _ => exact .still rfl rfl pulled

theorem Moved.lined {l next : Listener} {move : Move} (moved : Moved l move next) :
    Lined l next := by
  by_cases other : move = .pull
  · subst other
    cases moved with
    | @pulled call session calls sessions waiting queue =>
        have first : l.line = session :: (sessions ++ l.loop.held?.toList) := by
          rw [line, queue]
          rfl
        refine .taken first rfl ?_
        rw [Listener.pulled, events_record, List.filterMap_append]
        rfl
  have pulled := (moved.pullFree other).pulled_eq
  cases moved with
  | pulled => exact absurd rfl other
  | stopped shut =>
      refine .discarded ?_ rfl pulled rfl
      rw [line, line]
      exact congrArg (· ++ _) (List.append_nil _).symm
  | drained shut ended =>
      refine .discarded ?_ rfl pulled rfl
      have idle : l.loop.held? = none := by
        cases loop : l.loop with
        | holding session =>
            rw [loop] at ended
            cases ended
        | _ => rfl
      simp [line, idle]
  | expired => exact .still rfl (created_retire l _) pulled
  | @evicted index number =>
      have sessions := Registry.sessions_unregister l.registry number
      exact .still rfl (congrArg List.length sessions) pulled
  | enqueued holding =>
      refine .still ?_ rfl pulled
      simp [line, holding, ReadLoop.held?]
  | @handled delivery deliveries backlog running reading =>
      have handled :=
        handled_handle { l with backlog := deliveries } delivery.peer delivery.datagram
      cases handled.lined running reading with
      | still line created pulled => exact .still line created pulled
      | joined running line created pulled => exact .joined running line created pulled
      | taken line created pulled => exact .taken line created pulled
      | discarded line created pulled fates => exact .discarded line created pulled fates
  | _ => exact .still rfl rfl pulled

theorem Went.lined {l next : Listener} {step : Step} (went : Went l step next) : Lined l next := by
  cases went with
  | command issued =>
      have line : next.line = l.line := by cases issued <;> rfl
      exact .still line issued.created issued.pullFree.pulled_eq
  | move moved => exact moved.lined
  | closeSessions stopped =>
      have pulled := (Went.closeSessions stopped).pullFree nofun
      exact .still rfl (Registry.length_closeEach ..) pulled.pulled_eq

/-! ## The line is in order -/

theorem Handled.room {l next : Listener} {peer : Address} {datagram : Bytes}
    (handled : Handled l peer datagram next) (room : l.queue.length ≤ l.setup.capacity) :
    next.queue.length ≤ l.setup.capacity := by
  cases handled with
  | negotiated =>
      rw [offer]
      split
      · rename_i free
        rw [List.length_append]
        exact free
      · exact room
  | _ => exact room

/-- The queue is never longer than it may be. -/
theorem Went.room {l next : Listener} {step : Step} (went : Went l step next)
    (room : l.queue.length ≤ l.setup.capacity) : next.queue.length ≤ next.setup.capacity := by
  rw [went.setup]
  cases went with
  | command issued => cases issued <;> exact room
  | move moved =>
      cases moved with
      | drained => exact Nat.zero_le _
      | pulled waiting queue =>
          rw [queue] at room
          exact Nat.le_of_succ_le room
      | enqueued holding running free =>
          rw [List.length_append]
          exact free
      | @handled delivery deliveries =>
          exact (handled_handle { l with backlog := deliveries } _ _).room room
      | _ => exact room
  | closeSessions => exact room

/-- The sessions that have been taken, those in line and those that a shutdown has discarded in
line are all sessions in order, and the queue has room for those that are in it. -/
structure InOrder (l : Listener) : Prop where
  room : l.queue.length ≤ l.setup.capacity
  order : ∃ dropped : List Nat, l.pulled ++ l.line ++ dropped = List.range l.created ∧
    ∀ number ∈ dropped, (number, .discarded) ∈ l.fates

theorem inOrder_start (setup : Setup) : (start setup).InOrder where
  room := Nat.zero_le _
  order := ⟨[], rfl, List.forall_mem_nil _⟩

theorem Went.inOrder {l next : Listener} {step : Step} (went : Went l step next)
    (tracked : l.Tracked) (inOrder : l.InOrder) : next.InOrder := by
  refine ⟨went.room inOrder.room, ?_⟩
  rcases inOrder.order with ⟨dropped, order, discarded⟩
  have kept : ∀ number ∈ dropped, (number, .discarded) ∈ next.fates :=
    fun number member => went.fates tracked (discarded number member)
  cases went.lined with
  | still line created pulled =>
      refine ⟨dropped, ?_, kept⟩
      rw [line, created, pulled, order]
  | joined running line created pulled =>
      -- While the listener runs, nothing has been discarded.
      have none : dropped = [] := by
        rw [List.eq_nil_iff_forall_not_mem]
        intro number member
        have shut : l.shutdown = true := tracked.borne _ (discarded number member)
        rw [running] at shut
        cases shut
      refine ⟨[], ?_, List.forall_mem_nil _⟩
      rw [none, List.append_nil] at order
      rw [line, created, pulled, List.append_nil, ← List.append_assoc, order, List.range_succ]
  | @taken session line created pulled =>
      refine ⟨dropped, ?_, kept⟩
      rw [created, pulled, ← order, line, List.append_assoc l.pulled]
      rfl
  | @discarded sessions line created pulled fates =>
      refine ⟨sessions ++ dropped, ?_, ?_⟩
      · rw [created, pulled, ← order, line]
        simp only [List.append_assoc]
      · intro number member
        rcases List.mem_append.mp member with new | before
        · rw [fates]
          exact List.mem_append_right _ (List.mem_map_of_mem new)
        · exact kept number before

theorem inOrder_follow {setup : Setup} {steps : List Step} {l : Listener}
    (followed : (start setup).follow steps = some l) : l.Tracked ∧ l.InOrder := by
  apply follow_induction (P := fun l => l.Tracked ∧ l.InOrder) _
    ⟨tracked_start setup, inOrder_start setup⟩ followed
  rintro step _ l next ⟨tracked, inOrder⟩ went
  exact ⟨went.tracked tracked, went.inOrder tracked inOrder⟩

theorem awaits_of_line {l : Listener} {number : Nat} (inLine : number ∈ l.line) :
    l.Awaits number := by
  rcases List.mem_append.mp inLine with waits | holding
  · exact .queued waits
  · exact .held (held?_eq_some_iff.mp (Option.mem_toList.mp holding))

/-- The sessions in line are those that nobody has taken and no shutdown has discarded. -/
theorem InOrder.unpulled_eq {l : Listener} (inOrder : l.InOrder) (placed : l.Placed) :
    l.unpulled = l.line := by
  rcases inOrder.order with ⟨dropped, order, discarded⟩
  have distinct : (l.pulled ++ l.line ++ dropped).Nodup := order ▸ List.nodup_range
  have apart : ∀ number ∈ l.pulled, number ∉ l.line := by
    intro number taken inLine
    rw [List.append_assoc] at distinct
    exact (List.nodup_append.mp distinct).2.2 number taken number
      (List.mem_append_left _ inLine) rfl
  have taken : l.pulled.filter (fun number =>
      number ∉ l.pulled ∧ (number, Fate.discarded) ∉ l.fates) = [] := by
    rw [List.filter_eq_nil_iff]
    intro number member
    simp [member]
  have inLine : l.line.filter (fun number =>
      number ∉ l.pulled ∧ (number, Fate.discarded) ∉ l.fates) = l.line := by
    rw [List.filter_eq_self]
    intro number member
    have untaken : number ∉ l.pulled := fun pulled => apart number pulled member
    simp [untaken, (awaits_of_line member).not_met placed]
  have dropped : dropped.filter (fun number =>
      number ∉ l.pulled ∧ (number, Fate.discarded) ∉ l.fates) = [] := by
    rw [List.filter_eq_nil_iff]
    intro number member
    simp [discarded number member]
  rw [unpulled, ← order, List.filter_append, List.filter_append, taken, inLine, dropped,
    List.append_nil, List.nil_append]

/-- Accept calls take the sessions in the order of their creation. -/
theorem InOrder.pulled_eq {l : Listener} (inOrder : l.InOrder) :
    l.pulled = List.range l.pulled.length := by
  rcases inOrder.order with ⟨dropped, order, _⟩
  have length : l.pulled.length ≤ l.created := by
    rw [← List.length_range (n := l.created), ← order, List.append_assoc, List.length_append]
    exact Nat.le_add_right _ _
  calc
    l.pulled = (l.pulled ++ l.line ++ dropped).take l.pulled.length := by
      rw [List.append_assoc, List.take_left]
    _ = List.range l.pulled.length := by
      rw [order, List.take_range, Nat.min_eq_left length]

/-! ## The read loop that is held up -/

/-- What a step does to the read loop. -/
inductive Looped (l next : Listener) (step : Step) : Prop
  | same (loop : next.loop = l.loop) (queue : next.queue.length ≤ l.queue.length)
      (idle : l.taken? step = none)
  | stopped (shut : l.shutdown = true) (loop : next.loop = .stopped)
      (idle : l.taken? step = none)
  | resumed {session : Nat} (holding : l.loop = .holding session) (loop : next.loop = .reading)
      (idle : l.taken? step = none)
  | handled {delivery : Delivery} (reading : l.loop = .reading)
      (loop : next.loop = .reading ∨ next.loop = .failed ∨ next.loop = .holding l.created)
      (takes : l.taken? step = some delivery)

theorem Handled.loop {l next : Listener} {peer : Address} {datagram : Bytes}
    (handled : Handled l peer datagram next) (reading : l.loop = .reading) :
    next.loop = .reading ∨ next.loop = .failed ∨ next.loop = .holding l.created := by
  cases handled with
  | failed => exact .inr (.inl rfl)
  | negotiated =>
      rw [offer]
      split
      · exact .inl reading
      · exact .inr (.inr rfl)
  | _ => exact .inl reading

theorem Went.looped {l next : Listener} {step : Step} (went : Went l step next) :
    Looped l next step := by
  cases went with
  | command issued => cases issued <;> exact .same rfl (Nat.le_refl _) rfl
  | move moved =>
      cases moved with
      | stopped shut => exact .stopped shut rfl rfl
      | drained => exact .same rfl (Nat.zero_le _) rfl
      | pulled waiting queue =>
          refine .same rfl ?_ rfl
          rw [queue]
          exact Nat.le_succ _
      | enqueued holding => exact .resumed holding rfl rfl
      | @handled delivery deliveries backlog running reading =>
          have loop := (handled_handle { l with backlog := deliveries } delivery.peer
            delivery.datagram).loop reading
          refine .handled reading loop (?_ : _ = some delivery)
          rw [taken?, backlog]
          rfl
      | _ => exact .same rfl (Nat.le_refl _) rfl
  | closeSessions => exact .same rfl (Nat.le_refl _) rfl

theorem Went.created_le {l next : Listener} {step : Step} (went : Went l step next) :
    l.created ≤ next.created := by
  cases went.lined <;> omega

theorem created_le_follow {l last : Listener} {steps : List Step}
    (followed : l.follow steps = some last) : l.created ≤ last.created := by
  apply follow_induction (P := fun s => l.created ≤ s.created) _ (Nat.le_refl _) followed
  intro step _ s next before went
  exact Nat.le_trans before went.created_le

/-- A session that is not in line will not be again. -/
theorem Went.not_mem_line {l next : Listener} {step : Step} (went : Went l step next) {number : Nat}
    (known : number < l.created) (out : number ∉ l.line) : number ∉ next.line := by
  cases went.lined with
  | still line => rwa [line]
  | joined running line =>
      rw [line, List.mem_append, List.mem_singleton]
      rintro (inLine | rfl)
      · exact out inLine
      · exact Nat.lt_irrefl _ known
  | taken line =>
      rw [line] at out
      exact fun inLine => out (List.mem_cons_of_mem _ inLine)
  | discarded line =>
      rw [line] at out
      exact fun inLine => out (List.mem_append_left _ inLine)

theorem follow_not_mem_line {l last : Listener} {steps : List Step}
    (followed : l.follow steps = some last) {number : Nat} (known : number < l.created)
    (out : number ∉ l.line) : number ∉ last.line := by
  suffices both : number < last.created ∧ number ∉ last.line from both.2
  apply follow_induction (P := fun s => number < s.created ∧ number ∉ s.line) _ ⟨known, out⟩
    followed
  rintro step - s next ⟨known, out⟩ went
  exact ⟨Nat.lt_of_lt_of_le known went.created_le, went.not_mem_line known out⟩

/-- The read loop holds no session for the second time. -/
theorem follow_left {l last : Listener} {steps : List Step} (followed : l.follow steps = some last)
    {number : Nat} (old : number < l.created) (left : l.loop ≠ .holding number) :
    last.loop ≠ .holding number := by
  suffices both : number < last.created ∧ last.loop ≠ .holding number from both.2
  apply follow_induction (P := fun s => number < s.created ∧ s.loop ≠ .holding number) _
    ⟨old, left⟩ followed
  rintro step _ s next ⟨old, left⟩ went
  refine ⟨Nat.lt_of_lt_of_le old went.created_le, ?_⟩
  intro holding
  cases went.looped with
  | same loop => exact left (loop.symm.trans holding)
  | stopped _ loop => cases loop.symm.trans holding
  | resumed _ loop => cases loop.symm.trans holding
  | handled _ loop =>
      rcases loop with loop | loop | loop
      · cases loop.symm.trans holding
      · cases loop.symm.trans holding
      · cases loop.symm.trans holding
        exact Nat.lt_irrefl _ old

/-- While the read loop holds a session it takes no datagram, and the queue does not grow. -/
theorem follow_holding {l last : Listener} {steps : List Step}
    (followed : l.follow steps = some last) {number : Nat} (old : number < l.created)
    (holding : l.loop = .holding number) (still : last.loop = .holding number) :
    l.readings steps = [] ∧ last.queue.length ≤ l.queue.length := by
  induction steps generalizing l with
  | nil =>
      cases followed
      exact ⟨rfl, Nat.le_refl _⟩
  | cons step steps ih =>
      rcases follow_cons_eq_some_iff.mp followed with ⟨next, after, rest⟩
      have went := went_of_after? after
      have old := Nat.lt_of_lt_of_le old went.created_le
      have back : next.loop = .holding number := by
        by_contra left
        exact follow_left rest old left still
      cases went.looped with
      | same loop queue idle =>
          rcases ih rest old back with ⟨quiet, shrinks⟩
          refine ⟨?_, Nat.le_trans shrinks queue⟩
          rw [readings_cons after, idle, quiet]
          rfl
      | stopped _ loop => cases loop.symm.trans back
      | resumed _ loop => cases loop.symm.trans back
      | handled reading => cases reading.symm.trans holding

/-- A read loop that takes no datagram goes on holding its session, or reads, or stops. -/
theorem follow_idle {l last : Listener} {steps : List Step} (followed : l.follow steps = some last)
    {number : Nat} (quiet : l.readings steps = [])
    (before : l.shutdown = true ∨ l.loop = .reading ∨ l.loop = .holding number) :
    last.shutdown = true ∨ last.loop = .reading ∨ last.loop = .holding number := by
  induction steps generalizing l with
  | nil =>
      cases followed
      exact before
  | cons step steps ih =>
      rcases follow_cons_eq_some_iff.mp followed with ⟨next, after, rest⟩
      have went := went_of_after? after
      rw [readings_cons after, List.append_eq_nil_iff, List.map_eq_nil_iff] at quiet
      apply ih rest quiet.2
      rcases before with shut | loop
      · exact .inl (went.shutdown shut)
      · cases went.looped with
        | same same => exact .inr (same ▸ loop)
        | stopped shut => exact .inl (went.shutdown shut)
        | resumed _ reading => exact .inr (.inl reading)
        | handled _ _ takes =>
            rw [takes] at quiet
            cases quiet.1

/-- A read loop that holds a session resumes once there is room in the queue. -/
theorem follow_resumed {l last : Listener} {steps : List Step}
    (followed : l.follow steps = some last) {number : Nat} (old : number < l.created)
    (holding : l.loop = .holding number) (room : l.queue.length < l.setup.capacity)
    (settled : last.Settled) (running : last.shutdown = false) :
    last.loop ≠ .holding number ∧ (l.backlog ≠ [] → l.readings steps ≠ []) := by
  have left : last.loop ≠ .holding number := by
    intro still
    have shrinks := (follow_holding followed old holding still).2
    have full := (settled.full still).2
    rw [setup_follow followed] at full
    omega
  refine ⟨left, ?_⟩
  intro waits quiet
  have reading : last.loop = .reading := by
    rcases follow_idle followed quiet (.inr (.inr holding)) with shut | reading | still
    · cases shut.symm.trans running
    · exact reading
    · exact absurd still left
  have backlog : last.backlog = l.backlog ++ steps.filterMap Step.arrival? := by
    rw [← readings_append_backlog followed, quiet]
    rfl
  cases arrived : last.backlog with
  | nil => exact waits (List.append_eq_nil_iff.mp (backlog.symm.trans arrived)).1
  | cons delivery deliveries => exact settled.not_moved (.handled arrived running reading)

/-! ## One call after the other -/

theorem mem_returned {l : Listener} {number : Nat} :
    number ∈ l.returned ↔ ∃ call, (number, Fate.returned call) ∈ l.fates := by
  rw [returned, List.mem_filterMap]
  constructor
  · rintro ⟨⟨other, fate⟩, met, same⟩
    cases fate with
    | returned call =>
        cases same
        exact ⟨call, met⟩
    | _ => cases same
  · rintro ⟨call, met⟩
    exact ⟨_, met, rfl⟩

/-- What has been returned has been taken from the queue. -/
theorem InOrder.mem_pulled {l : Listener} (inOrder : l.InOrder) (placed : l.Placed) {number : Nat}
    (returned : number ∈ l.returned) : number ∈ l.pulled := by
  rcases mem_returned.mp returned with ⟨call, met⟩
  rcases inOrder.order with ⟨dropped, order, discarded⟩
  have created : number ∈ List.range l.created := by
    apply placed.mem_iff.mp
    exact List.mem_map_of_mem (mem_whereabouts.mpr (.inr (.inr (.inr ⟨_, met, rfl⟩))))
  rw [← order] at created
  rcases List.mem_append.mp created with front | out
  · rcases List.mem_append.mp front with taken | inLine
    · exact taken
    · exact absurd met ((awaits_of_line inLine).not_met placed _)
  · cases placed.fate_unique met (discarded number out)

/-- The first session in line is newer than all that have been taken. -/
theorem InOrder.lt_of_mem_pulled {l : Listener} (inOrder : l.InOrder) {session : Nat}
    {sessions : List Nat} (queue : l.queue = session :: sessions) {number : Nat}
    (taken : number ∈ l.pulled) : number < session := by
  rcases inOrder.order with ⟨dropped, order, _⟩
  have sorted : (l.pulled ++ l.line ++ dropped).Pairwise (· < ·) :=
    order ▸ List.pairwise_lt_range
  rw [List.append_assoc] at sorted
  apply (List.pairwise_append.mp sorted).2.2 number taken session
  rw [line, queue]
  exact List.mem_cons_self

theorem InOrder.lt_created {l : Listener} (inOrder : l.InOrder) {number : Nat}
    (inLine : number ∈ l.line) : number < l.created := by
  rcases inOrder.order with ⟨dropped, order, _⟩
  rw [← List.mem_range, ← order]
  exact List.mem_append_left _ (List.mem_append_right _ inLine)

theorem returned_eq_append {l next : Listener} {fates : List (Nat × Fate)}
    (met : next.fates = l.fates ++ fates) :
    next.returned = l.returned ++ fates.filterMap Fate.returned? := by
  rw [Listener.returned, met, List.filterMap_append]
  rfl

/-- Of accept calls made one after the other at most one is under way, and what has been returned
is older than what it has in hand. -/
structure InTurn (l : Listener) : Prop where
  single : l.callers.length ≤ 1
  sorted : l.returned.Pairwise (· < ·)
  before : ∀ number ∈ l.returned, ∀ candidate ∈ l.inHand, number < candidate.session

/-- A step that returns no session and hands none over. -/
theorem InTurn.keep {l next : Listener} {fates : List (Nat × Fate)} (inTurn : l.InTurn)
    (single : next.callers.length ≤ 1) (met : next.fates = l.fates ++ fates)
    (unreturned : fates.filterMap Fate.returned? = [])
    (inHand : ∀ candidate ∈ next.inHand, candidate ∈ l.inHand) : next.InTurn := by
  have same : next.returned = l.returned := by
    rw [returned_eq_append met, unreturned, List.append_nil]
  refine ⟨single, ?_, ?_⟩
  · rw [same]
    exact inTurn.sorted
  · rw [same]
    intro number returned candidate found
    exact inTurn.before number returned candidate (inHand candidate found)

/-- A step that returns a session, which the only accept call has in hand. -/
theorem InTurn.accept {l next : Listener} {index : Nat} {candidate : Candidate}
    (inTurn : l.InTurn) (single : next.callers.length ≤ 1)
    (found : l.inHand[index]? = some candidate)
    (met : next.fates = l.fates ++ [(candidate.session, .returned candidate.call)])
    (inHand : next.inHand = l.inHand.eraseIdx index) : next.InTurn := by
  have returned : next.returned = l.returned ++ [candidate.session] := returned_eq_append met
  have nobody : next.inHand = [] := by
    have length := (callers_eraseIdx found).length_eq
    have alone := inTurn.single
    rw [length, List.length_cons, List.length_append, List.length_map] at alone
    rw [inHand]
    exact List.eq_nil_of_length_eq_zero (by omega)
  refine ⟨single, ?_, ?_⟩
  · rw [returned, List.pairwise_append]
    refine ⟨inTurn.sorted, List.pairwise_singleton _ _, ?_⟩
    intro number earlier session same
    rw [List.mem_singleton.mp same]
    exact inTurn.before number earlier candidate (List.mem_of_getElem? found)
  · rw [nobody]
    exact fun _ _ => List.forall_mem_nil _

theorem Went.single {l next : Listener} {step : Step} (went : Went l step next)
    (single : l.callers.length ≤ 1) (alone : step = .command .accept → l.hasPendingCall = false) :
    next.callers.length ≤ 1 := by
  cases went.called with
  | same callers =>
      rw [callers.length_eq]
      exact single
  | started command held callers =>
      have none : l.callers = [] := by
        by_contra some
        rw [hasPendingCall_iff.mpr some] at alone
        cases alone command
      rw [callers.length_eq, none]
      exact Nat.le_refl 1
  | ended callers =>
      have length := callers.length_eq
      rw [List.length_cons] at length
      omega

theorem Went.inTurn {l next : Listener} {step : Step} (went : Went l step next)
    (placed : l.Placed) (inOrder : l.InOrder) (inTurn : l.InTurn)
    (alone : step = .command .accept → l.hasPendingCall = false) : next.InTurn := by
  have single := went.single inTurn.single alone
  cases went.served with
  | abandon issued =>
      cases issued with
      | lost => exact inTurn.keep single rfl rfl fun _ => List.mem_of_mem_erase
      | _ => exact inTurn.keep single (List.append_nil _).symm rfl fun _ => id
  | pull moved =>
      cases moved with
      | pulled waiting queue =>
          refine ⟨single, inTurn.sorted, ?_⟩
          intro number returned candidate found
          rcases List.mem_append.mp found with before | new
          · exact inTurn.before number returned candidate before
          · cases List.mem_singleton.mp new
            exact inOrder.lt_of_mem_pulled queue (inOrder.mem_pulled placed returned)
  | resolve moved =>
      cases moved with
      | dropped => exact inTurn.keep single rfl rfl fun _ => List.mem_of_mem_eraseIdx
      | expired => exact inTurn.keep single rfl rfl fun _ => List.mem_of_mem_eraseIdx
      | @accepted index candidate found =>
          exact inTurn.accept single found rfl rfl
  | other untouched =>
      rcases untouched.fates with ⟨sessions, fates⟩
      refine inTurn.keep single fates ?_ fun _ member => untouched.inHand ▸ member
      simp [Fate.returned?]

theorem inTurn_start (setup : Setup) : (start setup).InTurn where
  single := Nat.zero_le 1
  sorted := .nil
  before := List.forall_mem_nil _

/-- Accept calls made one after the other return sessions in the order of their creation. -/
theorem inTurn_follow {l last : Listener} {steps : List Step}
    (followed : l.follow steps = some last)
    (alone : ∀ first rest middle, steps = first ++ .command .accept :: rest →
      l.follow first = some middle → middle.hasPendingCall = false)
    (tracked : l.Tracked) (inOrder : l.InOrder) (inTurn : l.InTurn) : last.InTurn := by
  induction steps generalizing l with
  | nil =>
      cases followed
      exact inTurn
  | cons step steps ih =>
      rcases follow_cons_eq_some_iff.mp followed with ⟨next, after, later⟩
      have went := went_of_after? after
      refine ih later ?_ (went.tracked tracked) (went.inOrder tracked inOrder) ?_
      · rintro first rest middle rfl reached
        exact alone (step :: first) rest middle rfl
          (follow_cons_eq_some_iff.mpr ⟨next, after, reached⟩)
      · apply went.inTurn tracked.placed inOrder inTurn
        rintro rfl
        exact alone [] steps l rfl rfl

/-! ## Order and back-pressure -/

/-- A settled read loop of a running listener holds a session exactly if one session more than the
queue may have has not been taken. -/
theorem InOrder.holding_iff {l : Listener} (inOrder : l.InOrder) (settled : l.Settled) :
    (∃ number, l.loop = .holding number) ↔ l.line.length = l.setup.capacity + 1 := by
  have room := inOrder.room
  rw [line, List.length_append]
  constructor
  · rintro ⟨number, holding⟩
    have full := (settled.full holding).2
    rw [holding]
    simp only [ReadLoop.held?, Option.toList_some, List.length_singleton]
    omega
  · intro length
    cases loop : l.loop with
    | holding number => exact ⟨number, rfl⟩
    | _ =>
        rw [loop] at length
        simp only [ReadLoop.held?, Option.toList_none, List.length_nil] at length
        omega

theorem InOrder.length_line_le {l : Listener} (inOrder : l.InOrder) :
    l.line.length ≤ l.setup.capacity + 1 := by
  have room := inOrder.room
  have held : l.loop.held?.toList.length ≤ 1 := by
    cases l.loop.held? with
    | none => exact Nat.zero_le 1
    | some number => exact Nat.le_refl 1
  rw [line, List.length_append]
  omega

/-- Along every schedule accept calls take the sessions in the order of their creation, and if
they are made one after the other they return them in this order.  Those that have not been taken
or discarded are in line: never more in the queue than it may have, and at most one more with the
read loop, which holds one exactly if there is one more.  While the read loop holds a session it
takes no datagram; once an accept call takes a session from the queue it resumes. -/
theorem pulled_eq_range {setup : Setup} {steps : List Step} {l : Listener}
    (followed : (start setup).follow steps = some l) :
    l.pulled = List.range l.pulled.length ∧
    ((∀ first rest middle, steps = first ++ .command .accept :: rest →
        (start setup).follow first = some middle → middle.hasPendingCall = false) →
      (l.events.filterMap Event.returned?).Pairwise (· < ·)) ∧
    l.unpulled = l.line ∧ l.queue.length ≤ setup.capacity ∧
    l.unpulled.length ≤ setup.capacity + 1 ∧
    (l.Settled →
      ((∃ number, l.loop = .holding number) ↔ l.unpulled.length = setup.capacity + 1)) ∧
    (∀ number, l.loop = .holding number →
      (∀ later last, l.follow later = some last → last.loop = .holding number →
        l.readings later = []) ∧
      (∀ next later last, l.move? .pull = some next → next.follow later = some last →
        last.Settled → last.shutdown = false →
          last.loop ≠ .holding number ∧ (next.backlog ≠ [] → next.readings later ≠ []))) := by
  obtain ⟨tracked, inOrder⟩ := inOrder_follow followed
  have same : l.setup = setup := setup_follow followed
  have unpulled := inOrder.unpulled_eq tracked.placed
  rw [unpulled, ← same]
  refine ⟨inOrder.pulled_eq, ?_, rfl, inOrder.room, inOrder.length_line_le, inOrder.holding_iff, ?_⟩
  · intro alone
    rw [tracked.returned_eq]
    exact (inTurn_follow followed (same ▸ alone) (tracked_start _) (inOrder_start _)
      (inTurn_start _)).sorted
  · intro number holding
    have old : number < l.created := by
      apply inOrder.lt_created
      rw [line, holding]
      exact List.mem_append_right _ List.mem_cons_self
    constructor
    · intro later last went still
      exact (follow_holding went old holding still).1
    · intro next later last enabled went settled running
      cases moved_of_move? enabled with
      | pulled waiting queue =>
          have room := inOrder.room
          rw [queue] at room
          exact follow_resumed went old holding room settled running

/-- The queue has room for the session of the first client, and the read loop holds that of the
second one; it does so until an accept call has taken the first. -/
theorem pulled_eq_range_of_handshakes :
    ∃ l, (start .narrow).follow
        (handshake (.v4 0x7F000001 4000) ++ handshake (.v4 0x7F000001 4001)) = some l ∧
      l.Settled ∧ l.loop = .holding 1 ∧ l.unpulled = [0, 1] ∧
      l.unpulled.length = Setup.narrow.capacity + 1 ∧
      ∀ later last, l.follow later = some last → last.loop = .holding 1 →
        l.readings later = [] := by
  have some? : ((start .narrow).follow (handshake (.v4 0x7F000001 4000) ++
      handshake (.v4 0x7F000001 4001))).any (fun l =>
        l.step?.isNone ∧ l.loop = .holding 1 ∧ l.queue = [0]) = true := by
    decide +kernel
  rcases (Option.any_eq_true _ _).mp some? with ⟨l, followed, facts⟩
  rcases of_decide_eq_true facts with ⟨quiet, holding, queue⟩
  have settled := step?_eq_none_iff.mp (Option.isNone_iff_eq_none.mp quiet)
  obtain ⟨_, _, unpulled, _, _, held, stays⟩ := pulled_eq_range followed
  refine ⟨l, followed, settled, holding, ?_, (held settled).mp ⟨1, holding⟩, (stays 1 holding).1⟩
  rw [unpulled, line, queue, holding]
  rfl

end Listener

end Anteroom
