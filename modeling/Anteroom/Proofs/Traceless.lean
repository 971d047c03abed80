import Anteroom.Proofs.Omission
import Anteroom.Proofs.Shutdown

/-!
# Runs without harmless datagrams

A run that some datagrams are left out of settles after each command as the
whole run does: a move that is missing was the taking of one of these datagrams,
and every other one is made at the same place.  So the two runs stay in step.
After each command the operations of the application return the same in both.
-/

namespace Anteroom

/-- The commands that are left when some datagrams are left out, if `arrived` datagrams have arrived
before. -/
def spareCommands (dropped : Nat → Bool) : (arrived : Nat) → List Command → List Command
  | _, [] => []
  | arrived, command :: commands =>
      match command with
      | .deliver .. =>
          let rest := spareCommands dropped (arrived + 1) commands
          if dropped arrived then rest else command :: rest
      | _ => command :: spareCommands dropped arrived commands

namespace Listener

variable {dropped : Nat → Bool}

/-! ## Settling -/

theorem Harmless.of_settle {l : Listener} (harmless : l.settle.Harmless dropped) :
    l.Harmless dropped := by
  rcases exists_follow_settle l with ⟨moves, followed⟩
  exact harmless.of_append (handlings_follow followed)

/-- No move becomes enabled when datagrams are left out. -/
theorem move?_without_eq_none {l : Listener} {move : Move} (still : l.move? move = none) :
    (l.without dropped).move? move = none := by
  rw [Option.eq_none_iff_forall_ne_some]
  intro next enabled
  have moved := moved_of_move? enabled
  by_cases handles : move = .handle
  · subst handles
    cases moved with
    | handled left running reading =>
        cases backlog : l.backlog with
        | nil =>
            rw [without, backlog] at left
            cases left
        | cons delivery deliveries =>
            have goes := (Moved.handled backlog running reading).enabled
            cases still.symm.trans goes
  · rcases moved.recast handles with ⟨entries, moves⟩
    have goes := (moves l.backlog l.history).enabled
    rw [without_without] at goes
    cases still.symm.trans goes

theorem Settled.without {l : Listener} (settled : l.Settled) : (l.without dropped).Settled :=
  fun move => move?_without_eq_none (settled move)

/-- The first enabled move is the same without the datagrams that are left out, unless it takes one
of them. -/
theorem step?_without {l next : Listener} (step : l.step? = some next)
    (harmless : next.Harmless dropped) :
    next.without dropped = l.without dropped ∨
      (l.without dropped).step? = some (next.without dropped) := by
  rcases List.findSome?_eq_some_iff.mp step with ⟨before, move, later, moves, enabled, still⟩
  have after : l.after? (.move move) = some next := enabled
  have goes := after?_without after harmless
  split at goes
  · exact .inl goes
  · refine .inr (List.findSome?_eq_some_iff.mpr ⟨before, move, later, moves, goes, ?_⟩)
    intro earlier member
    exact move?_without_eq_none (still earlier member)

theorem settle_without {l : Listener} (harmless : l.settle.Harmless dropped) :
    (l.without dropped).settle = l.settle.without dropped := by
  -- By induction on the work, as the two listeners do not make the same number of moves.
  induction work : l.work using Nat.strongRecOn generalizing l with
  | ind count ih =>
      cases step : l.step? with
      | none =>
          have settled := step?_eq_none_iff.mp step
          rw [settled.settle_eq, settled.without.settle_eq]
      | some next =>
          have less : next.work < count := by
            rcases exists_move?_of_step? step with ⟨move, enabled⟩
            rw [← work]
            exact work_lt_of_move? enabled
          rw [settle_of_step? step] at harmless ⊢
          have later := ih next.work less harmless rfl
          rcases step?_without step harmless.of_settle with stays | goes
          · rw [← stays]
            exact later
          · exact (settle_of_step? goes).trans later

/-! ## Commands -/

theorem Settled.perform_eq {l : Listener} (settled : l.Settled) {command : Command}
    (other : command ≠ .close) : l.perform command = (l.issue command).settle := by
  rcases perform_eq_settle_or other with performed | performed
  · exact performed
  · have still : (l.issue command).Settled := performed ▸ settled.perform command
    rw [performed, still.settle_eq]

theorem close_without {l : Listener} (harmless : (l.perform .close).Harmless dropped) :
    (l.without dropped).perform .close = (l.perform .close).without dropped := by
  by_cases shut : l.released = true ∨ l.closed = true
  · rw [perform_close_of_shut shut, perform_close_of_shut (l := l.without dropped) shut]
  · simp only [not_or, Bool.not_eq_true] at shut
    rcases shut with ⟨held, running⟩
    rw [perform_close held running] at harmless ⊢
    rw [perform_close (l := l.without dropped) held running]
    have emptied := harmless.of_settle
    have stopped : l.beginClose.settle.Harmless dropped := by
      rw [Harmless, (tells_closeSessions _).handlings nofun |>.2] at emptied
      exact emptied
    have begins : (l.without dropped).beginClose = l.beginClose.without dropped := rfl
    rw [begins, settle_without stopped, closeSessions_without, settle_without harmless]

/-- A command that brings no datagram does the same without the datagrams that are left out. -/
theorem perform_without {l : Listener} (settled : l.Settled) {command : Command}
    (other : ∀ peer datagram, command ≠ .deliver peer datagram)
    (harmless : (l.perform command).Harmless dropped) :
    (l.without dropped).perform command = (l.perform command).without dropped := by
  by_cases closes : command = .close
  · subst closes
    exact close_without harmless
  · rw [settled.perform_eq closes] at harmless ⊢
    rw [settled.without.perform_eq closes, l.issue_without other, settle_without harmless]

theorem deliver_of_dropped {l : Listener} (settled : l.Settled) {peer : Address} {datagram : Bytes}
    (drops : dropped l.arrived = true) (harmless : (l.deliver peer datagram).Harmless dropped) :
    (l.deliver peer datagram).without dropped = l.without dropped := by
  rw [deliver, ← settle_without harmless, arrive_of_dropped drops, settled.without.settle_eq]

theorem deliver_of_kept {l : Listener} {peer : Address} {datagram : Bytes}
    (keeps : dropped l.arrived = false) (harmless : (l.deliver peer datagram).Harmless dropped) :
    (l.without dropped).deliver peer datagram = (l.deliver peer datagram).without dropped := by
  rw [deliver, arrive_of_kept keeps]
  exact settle_without harmless

/-! ## Runs -/

theorem spareCommands_cons {command : Command}
    (other : ∀ peer datagram, command ≠ .deliver peer datagram) (arrived : Nat)
    (commands : List Command) :
    spareCommands dropped arrived (command :: commands) =
      command :: spareCommands dropped arrived commands := by
  cases command with
  | deliver peer datagram => exact absurd rfl (other peer datagram)
  | _ => rfl

theorem arrived_perform (l : Listener) (command : Command) :
    (l.perform command).arrived =
      l.arrived + (Step.command command).arrival?.toList.length := by
  rcases exists_follow_perform l command with ⟨steps, followed, commands⟩
  have arrivals : steps.filterMap Step.arrival? = (Step.command command).arrival?.toList := by
    have only : Step.arrival? = fun step => step.command?.bind fun command =>
        (Step.command command).arrival? := by
      funext step
      cases step <;> rfl
    rw [only, ← List.filterMap_filterMap, commands]
    rfl
  have taken := congrArg List.length (handlings_follow followed)
  have waiting := congrArg List.length (readings_append_backlog followed)
  rw [arrivals] at waiting
  simp only [List.length_append, List.length_map] at taken waiting
  simp only [arrived]
  omega

theorem Harmless.of_run {l : Listener} {commands : List Command}
    (harmless : (l.run commands).Harmless dropped) : l.Harmless dropped := by
  rcases exists_follow_run l commands with ⟨steps, followed, _⟩
  exact harmless.of_append (handlings_follow followed)

/-- The commands that are left lead to the listener without the datagrams that are left out. -/
theorem run_without {l : Listener} (settled : l.Settled) {commands : List Command}
    (harmless : (l.run commands).Harmless dropped) :
    (l.without dropped).run (spareCommands dropped l.arrived commands) =
      (l.run commands).without dropped := by
  induction commands generalizing l with
  | nil => rfl
  | cons command commands ih =>
      have later := ih (settled.perform command) harmless
      have first := Harmless.of_run (l := l.perform command) harmless
      rw [arrived_perform] at later
      rcases command.delivers_or with ⟨peer, datagram, rfl⟩ | ⟨other, brings, _⟩
      · rw [spareCommands]
        cases drops : dropped l.arrived with
        | true =>
            rw [if_pos rfl, ← deliver_of_dropped settled drops first]
            exact later
        | false =>
            rw [if_neg Bool.false_ne_true, run_cons, perform, deliver_of_kept drops first]
            exact later
      · rw [brings] at later
        rw [spareCommands_cons other, run_cons, perform_without settled other first]
        exact later

/-! ## What operations return -/

/-- The operations of the application return the same for both listeners. -/
structure SameOutcomes (l other : Listener) : Prop where
  abandon : ∀ call, (l.abandon call).2 = (other.abandon call).2
  closeSession : ∀ session,
    (l.closeSession session).map Prod.snd = (other.closeSession session).map Prod.snd
  readSession : ∀ session,
    (l.readSession session).map Prod.snd = (other.readSession session).map Prod.snd
  sendSession : ∀ session datagram,
    (l.sendSession session datagram).map Prod.snd =
      (other.sendSession session datagram).map Prod.snd
  setPong : ∀ payload,
    (l.setPong payload).map (fun _ => ()) = (other.setPong payload).map fun _ => ()
  hijack : ∀ names endpoint,
    (l.hijack names endpoint).map (fun _ => ()) = (other.hijack names endpoint).map fun _ => ()
  close : l.close.2 = other.close.2

theorem abandon_snd (l : Listener) (call : Nat) : (l.abandon call).2 = l.isPending call := by
  rw [abandon]
  cases l.isPending call <;> rfl

theorem closeSession_map_snd (l : Listener) (session : Nat) :
    (l.closeSession session).map Prod.snd =
      (l.accepted? session).map fun value => value.close.2 := by
  rw [closeSession]
  cases l.accepted? session <;> rfl

theorem readSession_map_snd (l : Listener) (session : Nat) :
    (l.readSession session).map Prod.snd =
      (l.accepted? session).map fun value => value.recv.2 := by
  rw [readSession]
  cases l.accepted? session <;> rfl

theorem sendSession_map_snd (l : Listener) (session : Nat) (datagram : Bytes) :
    (l.sendSession session datagram).map Prod.snd =
      (l.accepted? session).map fun value => value.send l.setup.link datagram := by
  rw [sendSession]
  cases l.accepted? session with
  | none => rfl
  | some value => cases sends : value.send l.setup.link datagram <;> simp [sends]

theorem setPong_map (l : Listener) (payload : Bytes) :
    (l.setPong payload).map (fun _ => ()) = (l.board.store payload).map fun _ => () := by
  rw [setPong]
  cases l.board.store payload <;> rfl

theorem hijack_map (l : Listener) (names : Names) (endpoint : String) :
    (l.hijack names endpoint).map (fun _ => ()) =
      if l.shutdown then .error .closed
      else
        match Endpoint.resolve names endpoint with
        | .error error => .error (.resolve endpoint error.message)
        | .ok _ => .ok () := by
  rw [hijack]
  split
  · rfl
  · cases Endpoint.resolve names endpoint <;> rfl

/-- In a settled listener closing fails for the sessions that are registered now. -/
theorem Settled.close_snd {l : Listener} (settled : l.Settled) :
    l.close.2 = if l.closed then {} else
      { loopFailed := l.loop = .failed, failures := l.registry.closeAll.2 } := by
  cases closed : l.closed with
  | true => rw [close, closed, if_pos rfl, if_pos rfl]
  | false => rw [close_eq closed, closeSessions_snd, settled.stopping.registry,
      if_neg Bool.false_ne_true]

theorem Settled.sameOutcomes {l : Listener} (settled : l.Settled) :
    l.SameOutcomes (l.without dropped) where
  abandon call := by
    rw [abandon_snd, abandon_snd]
    rfl
  closeSession session := by
    rw [closeSession_map_snd, closeSession_map_snd]
    rfl
  readSession session := by
    rw [readSession_map_snd, readSession_map_snd]
    rfl
  sendSession session datagram := by
    rw [sendSession_map_snd, sendSession_map_snd]
    rfl
  setPong payload := by
    rw [setPong_map, setPong_map]
    rfl
  hijack names endpoint := by
    rw [hijack_map, hijack_map]
    rfl
  close := by
    rw [settled.close_snd, settled.without.close_snd]
    rfl

/-! ## Leaving no trace -/

/-- A datagram that begins a handshake only adds to the history, and the next datagram is handled as
if it had not come. -/
theorem handle_handle_of_request1 {l : Listener} {peer : Address} {first : Bytes} {version : UInt8}
    {mtu : UInt16} (unregistered : l.sessionOf? peer = none)
    (decoded : Message.decodeInbound first = .ok (.openConnectionRequest1 version mtu))
    (second : Bytes) :
    ∃ told answers, l.handle peer first = { l with history := l.history ++ told } ∧
      (l.handle peer second).history = l.history ++ answers ∧
      (l.handle peer first).handle peer second =
        { l.handle peer second with history := l.history ++ told ++ answers } := by
  have other : isRequest2 first = false := by rw [isRequest2, decoded]
  rcases (handled_handle l peer first).of_harmless unregistered other with ⟨events, _, same⟩
  rcases l.oblivious_handle peer second with ⟨answers, adds⟩
  have handled : l.handle peer second =
      (l.handle peer second).recast l.backlog (l.history ++ answers) := adds l.backlog l.history
  refine ⟨_, answers, same, congrArg Listener.history handled, ?_⟩
  rw [same]
  refine (adds l.backlog _).trans ?_
  exact congrArg (Listener.recast _ · _) (congrArg Listener.backlog handled).symm

/-- Datagrams that come from peers without a session and do not end a handshake leave no trace.  The
schedule without some of them is possible, and leads to the listener without them: to the same
sessions with all that is known of them, the same table, queue and read loop, the same accept calls,
hijacks and pong payload, and to the same history of everything but these datagrams.  So does the
run without them, at every end of which the operations of the application return the same.  In
particular a client that has begun a handshake is answered as one that has not. -/
theorem harmless_datagrams_leave_no_trace (setup : Setup) (dropped : Nat → Bool) :
    (∀ steps l, (start setup).follow steps = some l → l.Harmless dropped →
      (start setup).follow (spareSteps dropped 0 0 steps) = some (l.without dropped)) ∧
    (∀ commands, ((start setup).run commands).Harmless dropped →
      (start setup).run (spareCommands dropped 0 commands) =
        ((start setup).run commands).without dropped ∧
      ((start setup).run commands).SameOutcomes
        ((start setup).run (spareCommands dropped 0 commands))) ∧
    ∀ (l : Listener) peer first second version mtu, l.sessionOf? peer = none →
      Message.decodeInbound first = .ok (.openConnectionRequest1 version mtu) →
      ∃ told answers, l.handle peer first = { l with history := l.history ++ told } ∧
        (l.handle peer second).history = l.history ++ answers ∧
        (l.handle peer first).handle peer second =
          { l.handle peer second with history := l.history ++ told ++ answers } := by
  refine ⟨?_, ?_, ?_⟩
  · intro steps l followed harmless
    exact follow_without followed harmless
  · intro commands harmless
    have same := run_without (settled_start setup) harmless
    rw [without_start] at same
    refine ⟨same, ?_⟩
    have reachable : Reachable setup ((start setup).run commands) := ⟨commands, rfl⟩
    exact same ▸ reachable.settled.sameOutcomes
  · intro l peer first second version mtu unregistered decoded
    exact handle_handle_of_request1 unregistered decoded second

/-- A ping, the beginning of the handshake and an empty datagram come before the end of a handshake,
or they do not. -/
theorem harmless_datagrams_leave_no_trace_of_handshake :
    (∃ l, (start .plain).follow ([.command (.deliver (.v4 0x7F000001 4001) (Probe.request 5 9)),
          .move .handle] ++ handshake (.v4 0x7F000001 4000)) = some l ∧
        l.Harmless (· == 0) ∧
        (start .plain).follow (handshake (.v4 0x7F000001 4000)) = some (l.without (· == 0))) ∧
    (∃ l, (start .plain).run [.deliver (.v4 0x7F000001 4001) (Probe.request 5 9),
          .deliver (.v4 0x7F000001 4000) (Message.openConnectionRequest1 11 1400).encode,
          .deliver (.v4 0x7F000001 4000) [],
          .deliver (.v4 0x7F000001 4000)
            (Message.openConnectionRequest2 (.v4 0x7F000001 19132) 1400 9).encode,
          .accept] = l ∧
        l.Harmless (· < 3) ∧
        (start .plain).run [.deliver (.v4 0x7F000001 4000)
            (Message.openConnectionRequest2 (.v4 0x7F000001 19132) 1400 9).encode,
          .accept] = l.without (· < 3)) ∧
    ∃ l told answers,
      (start .plain).handle (.v4 0x7F000001 4000)
          (Message.openConnectionRequest1 10 64).encode = { start .plain with history := told } ∧
      (start .plain).handle (.v4 0x7F000001 4000)
          (Message.openConnectionRequest2 (.v4 0x7F000001 19132) 1400 9).encode = l ∧
      l.history = answers ∧
      ({ start .plain with history := told } : Listener).handle (.v4 0x7F000001 4000)
          (Message.openConnectionRequest2 (.v4 0x7F000001 19132) 1400 9).encode =
        { l with history := told ++ answers } := by
  obtain ⟨schedules, _, handles⟩ := harmless_datagrams_leave_no_trace .plain (· == 0)
  obtain ⟨_, runs, _⟩ := harmless_datagrams_leave_no_trace .plain (· < 3)
  refine ⟨?_, ?_, ?_⟩
  · have some? : ((start .plain).follow
        ([.command (.deliver (.v4 0x7F000001 4001) (Probe.request 5 9)), .move .handle] ++
          handshake (.v4 0x7F000001 4000))).any (fun l => l.Harmless (· == 0)) = true := by
      decide +kernel
    rcases (Option.any_eq_true _ _).mp some? with ⟨l, followed, found⟩
    have harmless := of_decide_eq_true found
    exact ⟨l, followed, harmless, schedules _ l followed harmless⟩
  · have harmless : ((start .plain).run
        [.deliver (.v4 0x7F000001 4001) (Probe.request 5 9),
          .deliver (.v4 0x7F000001 4000) (Message.openConnectionRequest1 11 1400).encode,
          .deliver (.v4 0x7F000001 4000) [],
          .deliver (.v4 0x7F000001 4000)
            (Message.openConnectionRequest2 (.v4 0x7F000001 19132) 1400 9).encode,
          .accept]).Harmless (· < 3) := by decide +kernel
    exact ⟨_, rfl, harmless, (runs _ harmless).1⟩
  · obtain ⟨told, answers, first, history, second⟩ :=
      handles (start .plain) (.v4 0x7F000001 4000)
        (Message.openConnectionRequest1 10 64).encode
        (Message.openConnectionRequest2 (.v4 0x7F000001 19132) 1400 9).encode 10 _ rfl rfl
    rw [first] at second
    exact ⟨_, told, answers, first, rfl, history, second⟩

end Listener

end Anteroom
