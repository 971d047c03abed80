import Anteroom.Proofs.Issued
import Anteroom.Proofs.Settling

/-!
# Schedules

Settling makes the moves of a listener in one fixed order.  A schedule leaves
the order open: it is any list of steps, each of which is a command that has
its effect at once, an enabled move, or the closing of the sessions, which goes
on once a closed listener has nothing left that runs.  So what holds along
every schedule holds however the parties of a listener are interleaved, and in
the middle of settling as well as after it.  Every run is one of the schedules.
-/

namespace Anteroom

/-- A step of a schedule. -/
inductive Step
  /-- A command has its effect. -/
  | command (command : Command)
  /-- One of the parties acts. -/
  | move (move : Move)
  /-- The closing of the listener closes the sessions. -/
  | closeSessions

/-- The command of a step. -/
def Step.command? : Step → Option Command
  | .command given => some given
  | _ => none

/-- The default configuration, with raw sessions only. -/
def Setup.plain : Setup :=
  .ofConfig 7 {} Link.routed fun _ => .raw

namespace Listener

/-- Whether closing goes on to the sessions: everything that runs in the background has ended,
and the queue is empty. -/
def isStopped (l : Listener) : Bool :=
  l.closed && l.loop.ended && l.hijacks.isEmpty && l.queue.isEmpty

/-- The listener after a step, if the step is possible. -/
def after? (l : Listener) : Step → Option Listener
  | .command command => some (l.issue command)
  | .move move => l.move? move
  | .closeSessions => if l.isStopped then some l.closeSessions.1 else none

/-- The listener after the steps of a schedule, if all of them are possible. -/
def follow (l : Listener) : List Step → Option Listener
  | [] => some l
  | step :: steps =>
      match l.after? step with
      | some next => next.follow steps
      | none => none

@[simp]
theorem follow_nil (l : Listener) : l.follow [] = some l :=
  rfl

theorem follow_cons_eq_some_iff {l last : Listener} {step : Step} {steps : List Step} :
    l.follow (step :: steps) = some last ↔
      ∃ next, l.after? step = some next ∧ next.follow steps = some last := by
  rw [follow]
  cases l.after? step with
  | none => simp
  | some next => simp

theorem follow_append_eq_some_iff {l last : Listener} {first second : List Step} :
    l.follow (first ++ second) = some last ↔
      ∃ middle, l.follow first = some middle ∧ middle.follow second = some last := by
  induction first generalizing l with
  | nil => simp
  | cons step steps ih =>
      simp only [List.cons_append, follow_cons_eq_some_iff, ih]
      constructor
      · rintro ⟨next, after, middle, followed, rest⟩
        exact ⟨middle, ⟨next, after, followed⟩, rest⟩
      · rintro ⟨middle, ⟨next, after, followed⟩, rest⟩
        exact ⟨next, after, middle, followed, rest⟩

/-! ## What a step does -/

theorem record_foldl (l : Listener) (events : List Event) :
    events.foldl record l = l.recordAll events := by
  induction events generalizing l with
  | nil => exact (recordAll_nil l).symm
  | cons event events ih =>
      rw [List.foldl_cons, ih, record_eq_recordAll, recordAll_recordAll]
      rfl

/-- Closing the sessions reports each of them, closes them, and empties the table. -/
theorem closeSessions_eq (l : Listener) :
    l.closeSessions =
      (({ l with registry := l.registry.closeAll.1.clear } : Listener).recordAll
        (l.registry.table.numbers.map .shut), l.registry.closeAll.2) := by
  have recorded : l.registry.table.numbers.foldl (fun l session => l.record (.shut session)) l =
      l.recordAll (l.registry.table.numbers.map .shut) := by
    rw [← record_foldl, List.foldl_map]
  rw [closeSessions, recorded]
  rfl

theorem closeSessions_fst (l : Listener) :
    l.closeSessions.1 =
      ({ l with registry := l.registry.closeAll.1.clear } : Listener).recordAll
        (l.registry.table.numbers.map .shut) := by
  rw [closeSessions_eq]

theorem closeSessions_snd (l : Listener) : l.closeSessions.2 = l.registry.closeAll.2 := by
  rw [closeSessions_eq]

/-- What a step leads to. -/
inductive Went (l : Listener) : Step → Listener → Prop
  | command {command : Command} {next : Listener} (issued : Issued l command next) :
      Went l (.command command) next
  | move {move : Move} {next : Listener} (moved : Moved l move next) : Went l (.move move) next
  | closeSessions (stopped : l.isStopped = true) :
      Went l .closeSessions
        (({ l with registry := l.registry.closeAll.1.clear } : Listener).recordAll
          (l.registry.table.numbers.map .shut))

/-- A step that is possible leads to one of the listed states. -/
theorem went_of_after? {l next : Listener} {step : Step} (after : l.after? step = some next) :
    Went l step next := by
  cases step with
  | command command =>
      cases after
      exact .command (issued_issue l command)
  | move move => exact .move (moved_of_move? after)
  | closeSessions =>
      rw [after?] at after
      split at after
      · rename_i stopped
        cases after
        rw [closeSessions_fst]
        exact .closeSessions stopped
      · cases after

/-- What every step of a schedule keeps holds after it. -/
theorem follow_induction {P : Listener → Prop} {steps : List Step}
    (keeps : ∀ step ∈ steps, ∀ {l next : Listener}, P l → Went l step next → P next)
    {l last : Listener} (holds : P l) (followed : l.follow steps = some last) : P last := by
  induction steps generalizing l with
  | nil =>
      cases followed
      exact holds
  | cons step steps ih =>
      rcases follow_cons_eq_some_iff.mp followed with ⟨next, after, rest⟩
      have first : P next := keeps step List.mem_cons_self holds (went_of_after? after)
      exact ih (fun later member => keeps later (List.mem_cons_of_mem step member)) first rest

/-- The setup is fixed. -/
theorem Went.setup {l next : Listener} {step : Step} (went : Went l step next) :
    next.setup = l.setup := by
  cases went with
  | command issued => cases issued <;> rfl
  | move moved =>
      cases moved with
      | handled => rw [(handled_handle _ _ _).eq_update]
      | _ => rfl
  | closeSessions => rfl

theorem setup_follow {l last : Listener} {steps : List Step}
    (followed : l.follow steps = some last) : last.setup = l.setup := by
  apply follow_induction (P := fun s => s.setup = l.setup) _ rfl followed
  intro step _ s next same went
  exact went.setup.trans same

/-! ## Closing and shutting down -/

/-- No move opens a closed listener again. -/
theorem Moved.closed {l next : Listener} {move : Move} (moved : Moved l move next) :
    next.closed = l.closed := by
  cases moved with
  | handled => rw [(handled_handle _ _ _).eq_update]
  | _ => rfl

/-- No move takes a shutdown back. -/
theorem Moved.shutdown {l next : Listener} {move : Move} (moved : Moved l move next)
    (shut : l.shutdown = true) : next.shutdown = true := by
  cases moved with
  | released => rfl
  | handled _ running => exact absurd (running.symm.trans shut) (by decide)
  | _ => exact shut

/-- A settled listener that shuts down has nothing left: the read loop and all hijacks have ended,
no session is queued, and no accept call is under way. -/
theorem Settled.nothing_left {l : Listener} (settled : l.Settled) (shut : l.shutdown = true) :
    l.loop.ended = true ∧ l.hijacks = [] ∧ l.queue = [] ∧ l.waiting = [] ∧ l.inHand = [] := by
  have ended : l.loop.ended = true := by
    cases going : l.loop.ended with
    | true => rfl
    | false => exact absurd (Moved.stopped shut going) settled.not_moved
  have noHijack : l.hijacks = [] := by
    cases hijacks : l.hijacks with
    | nil => rfl
    | cons hijack others =>
        have found : l.hijacks[0]? = some hijack := by rw [hijacks]; rfl
        exact absurd (Moved.hijackEnded found shut) settled.not_moved
  have noQueue : l.queue = [] := by
    by_cases full : l.queue = []
    · exact full
    · exact absurd (Moved.drained shut ended full) settled.not_moved
  have noWaiting : l.waiting = [] := by
    cases waiting : l.waiting with
    | nil => rfl
    | cons call calls => exact absurd (Moved.refused waiting (.inl shut)) settled.not_moved
  have noCandidate : l.inHand = [] := by
    cases inHand : l.inHand with
    | nil => rfl
    | cons candidate others =>
        have found : l.inHand[0]? = some candidate := by rw [inHand]; rfl
        exact absurd (Moved.dropped found shut) settled.not_moved
  exact ⟨ended, noHijack, noQueue, noWaiting, noCandidate⟩

/-! ## Runs are schedules -/

theorem exists_follow_settleWithin (count : Nat) (l : Listener) :
    ∃ moves : List Move, l.follow (moves.map .move) = some (settleWithin count l) := by
  induction count generalizing l with
  | zero => exact ⟨[], rfl⟩
  | succ count ih =>
      rw [settleWithin]
      cases quiet : l.step? with
      | none => exact ⟨[], rfl⟩
      | some next =>
          rcases exists_move?_of_step? quiet with ⟨move, enabled⟩
          rcases ih next with ⟨moves, followed⟩
          exact ⟨move :: moves, follow_cons_eq_some_iff.mpr ⟨next, enabled, followed⟩⟩

/-- Settling is a schedule of moves. -/
theorem exists_follow_settle (l : Listener) :
    ∃ moves : List Move, l.follow (moves.map .move) = some l.settle :=
  exists_follow_settleWithin l.work l

/-- What every move keeps holds after settling. -/
theorem settle_induction {P : Listener → Prop}
    (keeps : ∀ {l next : Listener} {move : Move}, P l → Moved l move next → P next)
    {l : Listener} (holds : P l) : P l.settle := by
  suffices within : ∀ count (l : Listener), P l → P (settleWithin count l) from
    within l.work l holds
  intro count
  induction count with
  | zero =>
      intro l holds
      exact holds
  | succ count ih =>
      intro l holds
      rw [settleWithin]
      cases quiet : l.step? with
      | none => exact holds
      | some next =>
          rcases exists_move?_of_step? quiet with ⟨move, enabled⟩
          exact ih next (keeps holds (moved_of_move? enabled))

/-- Once closing has begun, settling stops everything that runs. -/
theorem isStopped_settle_beginClose (l : Listener) : l.beginClose.settle.isStopped = true := by
  have closed : l.beginClose.settle.closed = true :=
    settle_induction (P := fun l => l.closed = true)
      (fun closed moved => moved.closed.trans closed) rfl
  have shut : l.beginClose.settle.shutdown = true :=
    settle_induction (P := fun l => l.shutdown = true) (fun shut moved => moved.shutdown shut) rfl
  rcases (settled_settle l.beginClose).nothing_left shut with ⟨ended, noHijack, noQueue, _, _⟩
  simp [isStopped, closed, ended, noHijack, noQueue]

/-- A command other than closing has its effect, after which the listener may settle. -/
theorem perform_eq_settle_or {l : Listener} {command : Command} (other : command ≠ .close) :
    l.perform command = (l.issue command).settle ∨ l.perform command = l.issue command := by
  cases command with
  | close => exact absurd rfl other
  | accept =>
      simp only [perform, issue, ifHeld]
      split
      · exact .inr rfl
      · exact .inl rfl
  | abandon call =>
      simp only [perform, issue, abandon]
      split
      · exact .inl rfl
      · rename_i idle
        exact .inr (leave_eq_self (Bool.eq_false_iff.mpr idle)).symm
  | closeSession session =>
      simp only [perform, issue, Listener.closeSession, alter]
      cases l.accepted? session with
      | none => exact .inr rfl
      | some value => exact .inl rfl
  | readSession session =>
      simp only [perform, issue, Listener.readSession, alter]
      cases l.accepted? session with
      | none => exact .inr rfl
      | some value => exact .inl rfl
  | hijack names endpoint =>
      simp only [perform, issue, ifHeld, Listener.hijack]
      split
      · exact .inr rfl
      · split
        · exact .inr rfl
        · cases Endpoint.resolve names endpoint with
          | error error => exact .inr rfl
          | ok target => exact .inl rfl
  | sendSession session datagram => exact .inr rfl
  | setPong payload => exact .inr rfl
  | _ => exact .inl rfl

theorem perform_close_of_shut {l : Listener} (shut : l.released = true ∨ l.closed = true) :
    l.perform .close = l := by
  rw [perform, ifHeld, close]
  rcases shut with released | closed
  · rw [released, if_pos rfl]
  · rw [closed, if_pos rfl, ite_self]

/-- Closing stops everything that runs, and then closes the sessions. -/
theorem perform_close {l : Listener} (held : l.released = false) (running : l.closed = false) :
    l.perform .close = l.beginClose.settle.closeSessions.1.settle := by
  rw [perform, ifHeld, close, held, running]
  rfl

/-- A command with the settling that follows it is a schedule. -/
theorem exists_follow_perform (l : Listener) (command : Command) :
    ∃ steps, l.follow steps = some (l.perform command) ∧
      steps.filterMap Step.command? = [command] := by
  by_cases other : command = .close
  · subst other
    by_cases shut : l.released = true ∨ l.closed = true
    · refine ⟨[.command .close], ?_, rfl⟩
      rcases shut with released | closed
      · simp [follow, after?, issue, perform, ifHeld, released]
      · simp [follow, after?, issue, perform, ifHeld, close, closed]
    · simp only [not_or, Bool.not_eq_true] at shut
      rcases shut with ⟨held, running⟩
      rcases exists_follow_settle l.beginClose with ⟨stopping, stopped⟩
      rcases exists_follow_settle l.beginClose.settle.closeSessions.1 with ⟨ending, ended⟩
      have issued : l.issue .close = l.beginClose := by simp [issue, ifHeld, held, running]
      refine ⟨.command .close :: (stopping.map .move ++ .closeSessions :: ending.map .move), ?_, ?_⟩
      · refine follow_cons_eq_some_iff.mpr ⟨l.beginClose, by rw [after?, issued], ?_⟩
        refine follow_append_eq_some_iff.mpr ⟨_, stopped, ?_⟩
        refine follow_cons_eq_some_iff.mpr ⟨_, ?_, perform_close held running ▸ ended⟩
        rw [after?, if_pos (isStopped_settle_beginClose l)]
      · simp [Step.command?]
  · rcases exists_follow_settle (l.issue command) with ⟨moves, settles⟩
    rcases perform_eq_settle_or other with performed | performed
    · refine ⟨.command command :: moves.map .move, ?_, ?_⟩
      · exact follow_cons_eq_some_iff.mpr ⟨_, rfl, performed ▸ settles⟩
      · simp [Step.command?]
    · exact ⟨[.command command], congrArg some performed.symm, rfl⟩

/-- Every run is a schedule of the same commands. -/
theorem exists_follow_run (l : Listener) (commands : List Command) :
    ∃ steps, l.follow steps = some (l.run commands) ∧
      steps.filterMap Step.command? = commands := by
  induction commands generalizing l with
  | nil => exact ⟨[], rfl, rfl⟩
  | cons command commands ih =>
      rcases exists_follow_perform l command with ⟨first, performed, isFirst⟩
      rcases ih (l.perform command) with ⟨rest, followed, isRest⟩
      refine ⟨first ++ rest, follow_append_eq_some_iff.mpr ⟨_, performed, followed⟩, ?_⟩
      rw [List.filterMap_append, isFirst, isRest]
      rfl

/-! ## Runs are settled -/

/-- Of the sessions, whether moves are enabled depends only on which of them are complete and which
are closed; on the board and the history it does not depend. -/
theorem Settled.change {l : Listener} (settled : l.Settled) (board : PongBoard)
    (history : List Entry) {registry : Registry}
    (complete : ∀ number, ({ l with registry } : Listener).sessionIs number Session.isComplete =
      l.sessionIs number Session.isComplete)
    (closed : ∀ number, ({ l with registry } : Listener).sessionIs number Session.isClosed =
      l.sessionIs number Session.isClosed) :
    ({ l with board, history, registry } : Listener).Settled := by
  intro move
  rw [Option.eq_none_iff_forall_ne_some]
  intro next enabled
  cases moved_of_move? enabled with
  | released released running idle => exact settled.not_moved (.released released running idle)
  | stopped shut going => exact settled.not_moved (.stopped shut going)
  | drained shut ended full => exact settled.not_moved (.drained shut ended full)
  | refused waiting hopeless => exact settled.not_moved (.refused waiting hopeless)
  | dropped found shut => exact settled.not_moved (.dropped found shut)
  | accepted found running isComplete =>
      exact settled.not_moved (.accepted found running ((complete _).symm.trans isComplete))
  | expired found running incomplete due =>
      exact settled.not_moved (.expired found running ((complete _).symm.trans incomplete) due)
  | evicted found isClosed =>
      exact settled.not_moved (.evicted found ((closed _).symm.trans isClosed))
  | hijackEnded found shut => exact settled.not_moved (.hijackEnded found shut)
  | hijackWent found running step => exact settled.not_moved (.hijackWent found running step)
  | pulled waiting queue running => exact settled.not_moved (.pulled waiting queue running)
  | enqueued holding running room => exact settled.not_moved (.enqueued holding running room)
  | handled backlog running reading => exact settled.not_moved (.handled backlog running reading)

/-- Whether moves are enabled does not depend on the board and the history. -/
theorem Settled.update {l : Listener} (settled : l.Settled) (board : PongBoard)
    (history : List Entry) : ({ l with board, history } : Listener).Settled :=
  settled.change board history (fun _ => rfl) fun _ => rfl

theorem Settled.record {l : Listener} (settled : l.Settled) (event : Event) :
    (l.record event).Settled :=
  settled.update l.board _

theorem settled_start (setup : Setup) : (start setup).Settled := by
  intro move
  cases move <;> rfl

/-- A command leads from a settled state to a settled state. -/
theorem Settled.perform {l : Listener} (settled : l.Settled) (command : Command) :
    (l.perform command).Settled := by
  cases command with
  | accept =>
      simp only [Listener.perform, ifHeld]
      split
      · exact settled
      · exact settled_settle _
  | abandon call =>
      simp only [Listener.perform, abandon]
      split
      · exact settled_settle _
      · exact settled
  | closeSession session =>
      simp only [Listener.perform, closeSession]
      cases l.accepted? session with
      | none => exact settled
      | some value => exact settled_settle _
  | readSession session =>
      simp only [Listener.perform, readSession]
      cases l.accepted? session with
      | none => exact settled
      | some value => exact settled_settle _
  | sendSession session datagram =>
      simp only [Listener.perform, sendSession]
      cases l.accepted? session with
      | none => exact settled
      | some value =>
          cases sent : value.send l.setup.link datagram with
          | error error => simpa [sent] using settled
          | ok _ => simpa [sent] using settled.record (.sent value.address datagram (some session))
  | setPong payload =>
      simp only [Listener.perform, ifHeld, setPong]
      split
      · exact settled
      · cases l.board.store payload with
        | error error => exact settled
        | ok board => exact settled.update board _
  | hijack names endpoint =>
      simp only [Listener.perform, ifHeld, Listener.hijack]
      split
      · exact settled
      · split
        · exact settled
        · cases Endpoint.resolve names endpoint with
          | error error => exact settled
          | ok target => exact settled_settle _
  | close =>
      simp only [Listener.perform, ifHeld, close]
      split
      · exact settled
      · split
        · exact settled
        · exact settled_settle _
  | _ => exact settled_settle _

/-- Every state that a run leads to is settled. -/
theorem Reachable.settled {setup : Setup} {l : Listener} (reachable : Reachable setup l) :
    l.Settled := by
  rcases reachable with ⟨commands, rfl⟩
  suffices run : ∀ l : Listener, l.Settled → (l.run commands).Settled from
    run _ (settled_start setup)
  intro l settled
  induction commands generalizing l with
  | nil => exact settled
  | cons command commands ih => exact ih _ (settled.perform command)

/-! ## A short schedule -/

/-- The steps in which a client ends its handshake. -/
def handshake (peer : Address) : List Step :=
  [.command (.deliver peer (Message.openConnectionRequest2 (.v4 0x7F000001 19132) 1400 9).encode),
    .move .handle]

end Listener

end Anteroom
