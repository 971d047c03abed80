import Anteroom.Proofs.Calls
import Anteroom.Proofs.Ledger

/-!
# What the relay sends back

In a settled relay no task has anything left to send, so the account of a
session that has been returned is complete: the peer has got what was taken
from it since it asked for the session, but for what found no room and what was
too long.  Doing all it can do after every input, the relay goes through one of
its schedules, and is settled after each of them.
-/

namespace Anteroom

namespace Relay

open Listener (Went Moved Runs)

variable {past : List (Listener × Delivery)} {service : Service}

/-! ## A settled relay -/

/-- A session that has been returned is open, and has no more queued than there is room for. -/
theorem Books.exists_accepted (books : Books past service) {number : Nat}
    (returned : number ∈ service.listener.returned) :
    ∃ session, service.listener.accepted? number = some session ∧ session.isRaw = true ∧
      session.isClosed = false ∧ session.inbox = service.listener.queued number ∧
      (service.listener.queued number).length ≤ 256 := by
  rcases Listener.mem_returned.mp returned with ⟨call, met⟩
  have inside := books.tracked.placed.lt_created met
  have known : service.listener.registry.session? number =
      some service.listener.registry.sessions[number] := List.getElem?_eq_getElem inside
  have running : (service.listener.registry.sessions[number]).isClosed = false := by
    rw [Bool.eq_false_iff]
    intro closed
    cases books.tracked.placed.fate_unique met (books.closed known closed)
  have queued : service.listener.queued number = _ := Registry.look_eq Session.inbox [] known
  rcases books.ledger known running with ⟨_, _, _, _, _, ledger⟩
  exact ⟨_, Listener.accepted?_eq_some_iff.mpr ⟨returned, known⟩, books.isRaw known, running,
    queued.symm, queued.symm ▸ ledger.bounded⟩

/-- What a settled relay has sent back to the peer of a session that has been returned. -/
theorem Books.echoed (books : Books past service) (settled : service.Settled) {number : Nat}
    (returned : number ∈ service.listener.returned) :
    ∃ session before request after,
      service.listener.registry.session? number = some session ∧ session.isClosed = false ∧
      past = before ++ request :: after ∧ request.1.created = number ∧
      request.2.peer = session.address ∧
      (∃ server, Message.decodeInbound request.2.datagram =
        .ok (.openConnectionRequest2 server session.mtu session.guid)) ∧
      service.listener.sentBy number =
        (after.filter fun reading =>
          reading.2.peer = session.address ∧ (reading.1.queued number).length < 256 ∧
            reading.2.datagram.length ≤ session.mtu.toNat - 28).map fun reading =>
              (session.address, reading.2.datagram) := by
  rcases books.exists_accepted returned with ⟨session, accepted, isRaw, running, _⟩
  have known := (Listener.accepted?_eq_some_iff.mp accepted).2
  rcases books.ledger known running with ⟨before, request, after, done, split, ledger⟩
  have idle : service.held number = none := by
    rw [Option.eq_none_iff_forall_ne_some]
    intro datagram held
    rcases settled (.command (.sendSession number datagram)) (decide_eq_true held)
      (Option.some_ne_none _) with ⟨command, isInput, same⟩
    cases same
    cases isInput
  have read : session.inbox = [] := by
    cases queued : session.inbox with
    | nil => rfl
    | cons first others =>
        have readable := Listener.readable?_eq accepted isRaw running
        rw [queued] at readable
        have allowed : service.allows (.command (.readSession number)) = true := by
          rw [Service.allows, idle, readable]
          rfl
        rcases settled _ allowed (Option.some_ne_none _) with ⟨command, isInput, same⟩
        cases same
        cases isInput
  have kept := ledger.kept
  rw [idle, read, Option.toList_none, List.append_nil, List.append_nil] at kept
  refine ⟨session, before, request, after, known, running, split, ledger.new, ledger.peer,
    ledger.asked, ?_⟩
  rw [ledger.sent, ← kept, List.filter_map, List.map_map, List.filter_filter]
  refine congrArg (List.map _) (List.filter_congr ?_)
  intro reading _
  simp only [Function.comp_apply, ← Bool.decide_and, and_assoc, and_comm (a := _ ≤ _)]

/-! ## The relay gets to somewhere -/

/-- The relay can get to a state while the given datagrams arrive. -/
def Reaches (first : Listener) (arrivals : List Delivery) (service : Service) : Prop :=
  ∃ steps, Serves first steps service ∧ steps.filterMap Step.arrival? = arrivals

section

variable {first : Listener} {arrivals : List Delivery}

theorem Reaches.books (opens : Opens first) (reaches : Reaches first arrivals service) :
    ∃ past, Books past service := by
  rcases reaches with ⟨steps, served, _⟩
  exact ⟨_, served.books opens⟩

theorem Reaches.step (reaches : Reaches first arrivals service) {step : Step} {next : Listener}
    (allowed : service.allows step = true) (after : service.listener.after? step = some next) :
    Reaches first (arrivals ++ step.arrival?.toList) (service.then step next) := by
  rcases reaches with ⟨steps, served, same⟩
  refine ⟨_, served.step allowed after, ?_⟩
  rw [List.filterMap_append, same]
  cases arrival : step.arrival? <;> simp [arrival]

theorem Reaches.quietly (reaches : Reaches first arrivals service) {step : Step} {next : Listener}
    (allowed : service.allows step = true) (after : service.listener.after? step = some next)
    (silent : step.arrival? = none) : Reaches first arrivals (service.then step next) := by
  have reached := reaches.step allowed after
  rwa [silent, Option.toList_none, List.append_nil] at reached

theorem Reaches.settle (reaches : Reaches first arrivals service) :
    Reaches first arrivals { service with listener := service.listener.settle } := by
  rcases reaches with ⟨steps, served, same⟩
  rcases Listener.exists_follow_settle service.listener with ⟨moves, followed⟩
  refine ⟨_, served.append_moves followed, ?_⟩
  rw [List.filterMap_append, same]
  simp [Function.comp_def, Step.arrival?]

/-! ## Accepting -/

/-- As long as the listener runs, a move ends an accept call only by returning a session. -/
theorem callers_add_returned {l next : Listener} {move : Move} (moved : Moved l move next)
    (runs : l.Runs) :
    next.callers.length + next.returned.length = l.callers.length + l.returned.length := by
  have running : l.shutdown ≠ true := fun shut => absurd (shut.symm.trans runs.running) (by decide)
  have going : l.loop.ended ≠ true := fun ended => absurd (ended.symm.trans runs.going) (by decide)
  cases moved with
  | stopped shut | drained shut | dropped _ shut => exact absurd shut running
  | refused _ hopeless =>
      rcases hopeless with shut | ⟨ended, _⟩
      · exact absurd shut running
      · exact absurd ended going
  | accepted found =>
      have left := Listener.length_eraseIdx_of_getElem? found
      simp [Listener.callers, Listener.returned, Listener.record]
      omega
  | expired found =>
      have left := Listener.length_eraseIdx_of_getElem? found
      simp [Listener.callers, Listener.returned, Listener.record]
      omega
  | pulled waiting =>
      simp [Listener.callers, Listener.returned, Listener.record, waiting]
      omega
  | handled => rw [(Listener.handled_handle _ _ _).eq_update]; rfl
  | _ => rfl

/-- An accept call is under way afterwards, or it has returned a session. -/
theorem accept_pending_or {l : Listener} (runs : l.Runs) (free : l.hasPendingCall = false) :
    l.accept.hasPendingCall = true ∨ l.accept.returned.length = l.returned.length + 1 := by
  have counted : l.accept.Runs ∧ l.accept.callers.length + l.accept.returned.length =
      l.join.callers.length + l.join.returned.length := by
    apply Listener.settle_induction (P := fun s => s.Runs ∧ s.callers.length + s.returned.length =
      l.join.callers.length + l.join.returned.length)
    · rintro s next move ⟨runs, counted⟩ moved
      exact ⟨Went.runs (.move moved) rfl runs, (callers_add_returned moved runs).trans counted⟩
    · exact ⟨⟨runs.raw, runs.running, runs.held, runs.going⟩, rfl⟩
  have idle : l.callers = [] := by
    by_contra callers
    exact absurd (Listener.hasPendingCall_iff.mpr callers) (Bool.eq_false_iff.mp free)
  have one : l.join.callers.length = 1 := by
    rw [Listener.callers, List.append_eq_nil_iff] at idle
    rw [Listener.callers, Listener.join, idle.1, idle.2]
    rfl
  have same : l.join.returned = l.returned := rfl
  cases pending : l.accept.hasPendingCall with
  | true => exact .inl rfl
  | false =>
      refine .inr ?_
      have done : l.accept.callers = [] := by
        by_contra callers
        exact absurd (Listener.hasPendingCall_iff.mpr callers) (Bool.eq_false_iff.mp pending)
      have total := counted.2
      rw [done, one, same, List.length_nil] at total
      omega

/-- Settling creates no more sessions than datagrams have been waiting. -/
theorem settle_created_add_le (l : Listener) :
    l.settle.created + l.settle.backlog.length ≤ l.created + l.backlog.length := by
  rcases Listener.exists_follow_settle l with ⟨moves, followed⟩
  have counts := Listener.created_add_le_follow followed
  have silent : (moves.map Step.move).filterMap Step.arrival? = [] := by
    simp [Function.comp_def, Step.arrival?]
  rw [silent] at counts
  exact counts

theorem length_returned_le {l : Listener} (placed : l.Placed) : l.returned.length ≤ l.created := by
  have total : l.placed.length = l.created := by
    rw [placed.length_eq, List.length_range]
  have fates : l.returned.length ≤ l.fates.length := by
    have shorter := l.returned_sublist.length_le
    rwa [List.length_map] at shorter
  have listed : l.fates.length ≤ l.placed.length := by
    rw [Listener.placed, Listener.whereabouts, List.length_map, List.length_append, List.length_map]
    exact Nat.le_add_left _ _
  omega

theorem acceptWithin_of_pending {l : Listener} (pending : l.hasPendingCall = true) (count : Nat) :
    acceptWithin count l = l := by
  cases count with
  | zero => rfl
  | succ count => rw [acceptWithin, pending, Bool.true_or, if_pos rfl]

/-- The relay calls accept until a call is under way. -/
theorem Reaches.accept (opens : Opens first) {count : Nat} {l : Listener}
    (reaches : Reaches first arrivals { listener := l }) (settled : l.Settled)
    (enough : l.created + l.backlog.length < l.returned.length + count) :
    Reaches first arrivals { listener := acceptWithin count l } ∧
      (acceptWithin count l).Settled ∧ (acceptWithin count l).hasPendingCall = true := by
  induction count generalizing l with
  | zero =>
      rcases reaches.books opens with ⟨past, books⟩
      have bounded : l.returned.length ≤ l.created := length_returned_le books.tracked.placed
      omega
  | succ count ih =>
      rcases reaches.books opens with ⟨past, books⟩
      have runs : l.Runs := books.runs
      cases pending : l.hasPendingCall with
      | true =>
          rw [acceptWithin_of_pending pending]
          exact ⟨reaches, settled, pending⟩
      | false =>
          rw [acceptWithin, pending, runs.running, Bool.or_false, if_neg Bool.false_ne_true]
          have allowed : ({ listener := l } : Service).allows (.command .accept) = true := by
            rw [Service.allows, pending, runs.running]
            rfl
          have issued : l.after? (.command .accept) = some l.join := by
            rw [Listener.after?, Listener.issue, Listener.ifHeld, runs.held]
            rfl
          have further : Reaches first arrivals { listener := l.accept } :=
            (reaches.quietly allowed issued rfl).settle
          have fewer : l.accept.created + l.accept.backlog.length ≤
              l.created + l.backlog.length := settle_created_add_le l.join
          rcases accept_pending_or runs pending with waits | returned
          · rw [acceptWithin_of_pending waits]
            exact ⟨further, Listener.settled_settle _, waits⟩
          · refine ih further (Listener.settled_settle _) ?_
            omega

/-! ## Echoing -/

/-- The relay after it has emptied some sessions of what is queued for their readers. -/
structure Emptied (l last : Listener) (sessions : List Nat) : Prop where
  settled : last.Settled
  returned : last.returned = l.returned
  pending : last.hasPendingCall = l.hasPendingCall
  kept : ∀ session, l.queued session = [] → last.queued session = []
  done : ∀ session ∈ sessions, last.queued session = []

theorem Emptied.refl {l : Listener} (settled : l.Settled) : Emptied l l [] :=
  ⟨settled, rfl, rfl, fun _ => id, List.forall_mem_nil _⟩

theorem Emptied.trans {l middle last : Listener} {sessions others : List Nat}
    (before : Emptied l middle sessions) (after : Emptied middle last others) :
    Emptied l last (sessions ++ others) where
  settled := after.settled
  returned := after.returned.trans before.returned
  pending := after.pending.trans before.pending
  kept session empty := after.kept session (before.kept session empty)
  done session member := by
    rcases List.mem_append.mp member with earlier | later
    · exact after.kept session (before.done session earlier)
    · exact after.done session later

/-- A session with fewer datagrams queued is as complete and as closed as before. -/
theorem sessionIs_put {l : Listener} {number : Nat} {session changed : Session}
    (known : l.registry.session? number = some session) {test : Session → Bool}
    (same : test changed = test session) (other : Nat) :
    (l.put number changed).sessionIs other test = l.sessionIs other test := by
  rw [Listener.sessionIs, Listener.put, Registry.session?_modify]
  split
  · rename_i own
    subst own
    rw [Listener.sessionIs, known]
    exact same
  · rfl

theorem queued_put {l : Listener} {number : Nat} {session changed : Session}
    (known : l.registry.session? number = some session) (other : Nat) :
    (l.put number changed).queued other =
      if number = other then changed.inbox else l.queued other := by
  rw [Listener.queued, Listener.put, Registry.look, Registry.session?_modify]
  split
  · rename_i own
    subst own
    rw [known]
    rfl
  · rfl

/-- A task that sends leaves nothing but a note of it. -/
theorem issue_sendSession (l : Listener) (session : Nat) (datagram : Bytes) :
    ∃ history, l.issue (.sendSession session datagram) = { l with history } := by
  generalize sends : Command.sendSession session datagram = command
  have issued := Listener.issued_issue l command
  generalize l.issue command = next at issued
  cases issued with
  | ignored => exact ⟨_, rfl⟩
  | sent => exact ⟨_, rfl⟩
  | _ => cases sends

/-- A session's task reads the oldest datagram and sends it back. -/
theorem Reaches.echo_next (opens : Opens first) {l : Listener} {number : Nat}
    (reaches : Reaches first arrivals { listener := l }) (settled : l.Settled)
    (returned : number ∈ l.returned) {datagram : Bytes} {others : List Bytes}
    (queued : l.queued number = datagram :: others) :
    ∃ next, Reaches first arrivals { listener := next } ∧ Emptied l next [] ∧
      next.queued number = others ∧
      ∀ count, echoWithin (count + 1) l number = echoWithin count next number := by
  rcases reaches.books opens with ⟨past, books⟩
  rcases books.exists_accepted returned with ⟨session, accepted, isRaw, running, own, _⟩
  have accepted : l.accepted? number = some session := accepted
  have known := (Listener.accepted?_eq_some_iff.mp accepted).2
  have inbox : session.inbox = datagram :: others := own.trans queued
  have recv := Session.recv_of_queued isRaw running inbox
  have readable : l.readable? number = some datagram := by
    rw [Listener.readable?_eq accepted isRaw running, inbox]
    rfl
  generalize changes : ({ session with conduct := .raw others } : Session) = changed at recv
  have left : (l.put number changed).Settled := by
    refine settled.change l.board l.history ?_ ?_
    · exact sessionIs_put known (by rw [← changes]; rfl)
    · exact sessionIs_put known (by rw [← changes]; rfl)
  have read : l.readSession number = some (l.put number changed, .datagram datagram) := by
    simp [Listener.readSession, accepted, recv, Listener.update, left.settle_eq]
  have issued : l.issue (.readSession number) = l.put number changed := by
    simp [Listener.issue, Listener.alter, accepted, recv]
  rcases issue_sendSession (l.put number changed) number datagram with ⟨history, sent⟩
  refine ⟨{ l.put number changed with history }, ?_, ?_, ?_, ?_⟩
  · have mayRead :
        ({ listener := l } : Service).allows (.command (.readSession number)) = true := by
      rw [Service.allows, readable]
      rfl
    have took := reaches.quietly mayRead (congrArg some issued) rfl
    have maySend : (({ listener := l } : Service).then (.command (.readSession number))
        (l.put number changed)).allows (.command (.sendSession number datagram)) = true := by
      simp [Service.allows, Service.then, Service.heldAfter, readable]
    have gave := took.quietly maySend (congrArg some sent) rfl
    simpa [Service.then, Service.heldAfter] using gave
  · constructor
    · exact left.update (l.put number changed).board history
    · rfl
    · rfl
    · intro other empty
      have same : ({ l.put number changed with history } : Listener).queued other =
          (l.put number changed).queued other := rfl
      rw [same, queued_put known]
      split
      · rename_i own
        rw [← own, queued] at empty
        cases empty
      · exact empty
    · exact List.forall_mem_nil _
  · have same : ({ l.put number changed with history } : Listener).queued number =
        (l.put number changed).queued number := rfl
    rw [same, queued_put known, if_pos rfl, ← changes]
    rfl
  · intro count
    rw [echoWithin, read]
    exact congrArg (echoWithin count · number) sent

/-- A session's task waits if nothing is queued. -/
theorem Books.echoWithin_of_empty {l : Listener} (books : Books past { listener := l })
    {number : Nat} (returned : number ∈ l.returned) (empty : l.queued number = []) (count : Nat) :
    echoWithin count l number = l := by
  rcases books.exists_accepted returned with ⟨session, accepted, isRaw, running, own, _⟩
  have accepted : l.accepted? number = some session := accepted
  have inbox : session.inbox = [] := own.trans empty
  have read : l.readSession number = some (l.update number session, .pending) := by
    simp [Listener.readSession, accepted, Session.recv_of_empty isRaw running inbox]
  cases count with
  | zero => rfl
  | succ count => rw [echoWithin, read]

/-- A session's task sends back what it reads until nothing is queued. -/
theorem Reaches.echo (opens : Opens first) {count : Nat} {l : Listener} {number : Nat}
    (reaches : Reaches first arrivals { listener := l }) (settled : l.Settled)
    (returned : number ∈ l.returned) (enough : (l.queued number).length ≤ count) :
    Reaches first arrivals { listener := echoWithin count l number } ∧
      Emptied l (echoWithin count l number) [number] := by
  induction count generalizing l with
  | zero =>
      have empty := List.eq_nil_of_length_eq_zero (Nat.eq_zero_of_le_zero enough)
      exact ⟨reaches, settled, rfl, rfl, fun _ => id, List.forall_mem_singleton.mpr empty⟩
  | succ count ih =>
      cases queued : l.queued number with
      | nil =>
          rcases reaches.books opens with ⟨past, books⟩
          rw [books.echoWithin_of_empty returned queued]
          exact ⟨reaches, settled, rfl, rfl, fun _ => id, List.forall_mem_singleton.mpr queued⟩
      | cons datagram others =>
          rcases reaches.echo_next opens settled returned queued with
            ⟨next, reached, emptied, rest, goes⟩
          rw [queued, List.length_cons] at enough
          rw [goes count]
          rcases ih reached emptied.settled (emptied.returned.symm ▸ returned)
            (by rw [rest]; omega) with ⟨last, done⟩
          exact ⟨last, emptied.trans done⟩

theorem Reaches.echoes (opens : Opens first) {sessions : List Nat} {l : Listener}
    (reaches : Reaches first arrivals { listener := l }) (settled : l.Settled)
    (returned : ∀ session ∈ sessions, session ∈ l.returned) :
    Reaches first arrivals { listener := sessions.foldl (echoWithin inboxCapacity) l } ∧
      Emptied l (sessions.foldl (echoWithin inboxCapacity) l) sessions := by
  induction sessions generalizing l with
  | nil => exact ⟨reaches, .refl settled⟩
  | cons session sessions ih =>
      have own := returned session List.mem_cons_self
      have enough : (l.queued session).length ≤ inboxCapacity := by
        rcases reaches.books opens with ⟨past, books⟩
        rcases books.exists_accepted own with ⟨_, _, _, _, _, bounded⟩
        exact bounded
      rcases reaches.echo opens settled own enough with ⟨reached, emptied⟩
      rcases ih reached emptied.settled fun later member =>
        emptied.returned.symm ▸ returned later (List.mem_cons_of_mem session member) with
        ⟨last, others⟩
      exact ⟨last, emptied.trans others⟩

/-! ## Doing all it can do -/

/-- Nothing is left to do for the relay's own parties, nor for its listener. -/
structure Rests (l : Listener) : Prop where
  settled : l.Settled
  pending : l.hasPendingCall = true
  read : ∀ session ∈ l.returned, l.queued session = []

theorem Reaches.serve (opens : Opens first) {l : Listener}
    (reaches : Reaches first arrivals { listener := l }) (settled : l.Settled) :
    Reaches first arrivals { listener := serve l } ∧ Rests (serve l) := by
  have enough : l.created + l.backlog.length <
      l.returned.length + (l.created + l.backlog.length + 1) := by omega
  rcases reaches.accept opens settled enough with ⟨reached, settled, pending⟩
  rcases reached.echoes opens settled (fun _ => id) with ⟨last, emptied⟩
  refine ⟨last, emptied.settled, emptied.pending.trans pending, ?_⟩
  intro session returned
  exact emptied.done session (emptied.returned ▸ returned)

theorem Reaches.perform (opens : Opens first) {l : Listener}
    (reaches : Reaches first arrivals { listener := l }) (settled : l.Settled) {command : Command}
    (input : isInput command = true) :
    Reaches first (arrivals ++ (Step.command command).arrival?.toList)
        { listener := Relay.perform l command } ∧
      Rests (Relay.perform l command) := by
  have allowed : ({ listener := l } : Service).allows (.command command) = true := by
    cases command with
    | accept | readSession | sendSession => cases input
    | _ => exact input
  have held : ({ listener := l } : Service).heldAfter (.command command) = fun _ => none := by
    cases command with
    | readSession | sendSession => cases input
    | _ => rfl
  have performed : l.perform command = (l.issue command).settle := by
    cases command with
    | deliver | advance | answerProbe => rfl
    | _ => cases input
  have issued := (reaches.step allowed rfl).settle
  rw [Service.then, held] at issued
  rw [Relay.perform]
  exact Reaches.serve opens (performed ▸ issued) (settled.perform command)

theorem Reaches.run (opens : Opens first) {commands : List Command} {l : Listener}
    (reaches : Reaches first arrivals { listener := l }) (rests : Rests l)
    (inputs : ∀ command ∈ commands, isInput command = true) :
    Reaches first (arrivals ++ (commands.map Step.command).filterMap Step.arrival?)
        { listener := commands.foldl Relay.perform l } ∧
      Rests (commands.foldl Relay.perform l) := by
  induction commands generalizing l arrivals with
  | nil => exact ⟨(List.append_nil arrivals).symm ▸ reaches, rests⟩
  | cons command commands ih =>
      rcases reaches.perform opens rests.settled (inputs command List.mem_cons_self) with
        ⟨reached, rests⟩
      rcases ih reached rests fun later member =>
        inputs later (List.mem_cons_of_mem command member) with ⟨last, rests⟩
      refine ⟨?_, rests⟩
      have arrived : arrivals ++ ((command :: commands).map Step.command).filterMap Step.arrival? =
          arrivals ++ (Step.command command).arrival?.toList ++
            (commands.map Step.command).filterMap Step.arrival? := by
        cases arrival : (Step.command command).arrival? <;> simp [arrival]
      rw [arrived]
      exact last

end

/-- Without an input nothing happens to a relay that has nothing left to do. -/
theorem Rests.service_settled {l : Listener} (rests : Rests l)
    (books : Books past { listener := l }) : ({ listener := l } : Service).Settled := by
  intro step allowed possible
  cases step with
  | move move => exact absurd (rests.settled move) possible
  | closeSessions => cases allowed
  | command command =>
      cases command with
      | deliver | advance | answerProbe => exact ⟨_, rfl, rfl⟩
      | accept =>
          rw [Service.allows, rests.pending] at allowed
          cases allowed
      | readSession number =>
          simp only [Service.allows, Option.isNone_none, Bool.true_and] at allowed
          rcases Option.isSome_iff_exists.mp allowed with ⟨datagram, readable⟩
          have returned : number ∈ l.returned := by
            rw [Listener.readable?] at readable
            rcases Option.bind_eq_some_iff.mp readable with ⟨session, accepted, _⟩
            exact (Listener.accepted?_eq_some_iff.mp accepted).1
          rcases books.exists_accepted returned with ⟨session, accepted, isRaw, running, own, _⟩
          have inbox : session.inbox = [] := own.trans (rests.read number returned)
          have first? := Listener.readable?_eq accepted isRaw running
          rw [readable, inbox] at first?
          cases first?
      | _ => cases allowed

/-- Along every schedule of the relay, and in whatever order its parties act: when it has settled, a
peer whose session has been returned has got from this session exactly the datagrams that have been
taken from the peer since the second connection request for the session, in order and once each,
but for those that were taken while 256 others were queued and those that are longer than the MTU
leaves room for; so it does not matter whether they came before the session was returned.  A session
sends to its own peer only, and none sends before it is returned.  What has been taken are the
datagrams that have arrived, each cut to 1500 bytes, up to those that wait in the backlog.  The
relay that does all it can do after every input goes through such a schedule, and is settled. -/
theorem echoes_faithfully {id : Int64} {link : Link} {names : Names} {config : Config}
    {options : Options} {first : Listener}
    (started : start id link names config options = .ok first) :
    (∀ steps service, Serves first steps service → service.Settled →
      (first.readings steps).map Prod.snd ++ service.listener.backlog =
        steps.filterMap Step.arrival? ∧
      (∀ number ∈ service.listener.returned, ∃ session before request after,
        service.listener.registry.session? number = some session ∧ session.isClosed = false ∧
        first.readings steps = before ++ request :: after ∧ request.1.created = number ∧
        request.2.peer = session.address ∧
        (∃ server, Message.decodeInbound request.2.datagram =
          .ok (.openConnectionRequest2 server session.mtu session.guid)) ∧
        service.listener.sentBy number =
          (after.filter fun reading =>
            reading.2.peer = session.address ∧ (reading.1.queued number).length < 256 ∧
              reading.2.datagram.length ≤ session.mtu.toNat - 28).map fun reading =>
                (session.address, reading.2.datagram)) ∧
      ∀ number, number ∉ service.listener.returned → service.listener.sentBy number = []) ∧
    ∀ commands, (∀ command ∈ commands, isInput command = true) →
      ∃ steps service, Serves first steps service ∧ service.Settled ∧
        service.listener = run first commands ∧
        steps.filterMap Step.arrival? = (commands.map Step.command).filterMap Step.arrival? := by
  have opens := opens_of_start started
  constructor
  · intro steps service served settled
    have books := served.books opens
    refine ⟨?_, ?_, ?_⟩
    · rw [Listener.readings_append_backlog served.follow, opens.backlog, List.nil_append]
    · exact fun number returned => books.echoed settled returned
    · intro number unknown
      by_contra sent
      exact unknown (books.owned (.inr sent))
  · intro commands inputs
    have reached : Reaches first [] { listener := first } := ⟨[], .start, rfl⟩
    rcases reached.serve opens opens.settled with ⟨served, rests⟩
    rcases served.run opens rests inputs with ⟨last, rests⟩
    rcases last.books opens with ⟨past, books⟩
    rcases last with ⟨steps, served, arrived⟩
    exact ⟨steps, _, served, rests.service_settled books, rfl, arrived⟩

/-- Two peers ask for sessions.  The first one has room for two bytes, and sends three at a time in
between. -/
def visits : List Command :=
  [.deliver (.v4 0x7F000001 4000)
      (Message.openConnectionRequest2 (.v4 0x7F000001 19132) 30 9).encode,
    .deliver (.v4 0x7F000001 4000) [1],
    .deliver (.v4 0x7F000001 4001)
      (Message.openConnectionRequest2 (.v4 0x7F000001 19132) 1400 8).encode,
    .deliver (.v4 0x7F000001 4000) [2, 3, 4],
    .deliver (.v4 0x7F000001 4001) [5, 6, 7],
    .deliver (.v4 0x7F000001 4000) [8]]

/-- Both peers get their own datagrams back, but for the one that was too long. -/
theorem echoes_faithfully_of_visits :
    ∃ first steps service, start 7 Link.routed Names.loopback {} {} = .ok first ∧
      Serves first steps service ∧ service.Settled ∧ service.listener = run first visits ∧
      service.listener.sentBy 1 = [(.v4 0x7F000001 4001, [5, 6, 7])] ∧
      ∃ (session : Session) (before after : List (Listener × Delivery))
          (request : Listener × Delivery), first.readings steps = before ++ request :: after ∧
        request.2.peer = session.address ∧
        ((after.filter fun reading =>
          reading.2.peer = session.address ∧ (reading.1.queued 0).length < 256 ∧
            reading.2.datagram.length ≤ session.mtu.toNat - 28).map fun reading =>
              (session.address, reading.2.datagram)) =
          [(.v4 0x7F000001 4000, [1]), (.v4 0x7F000001 4000, [8])] := by
  have facts : (start 7 Link.routed Names.loopback {} {}).toOption.any (fun first =>
      (run first visits).returned = [0, 1] ∧
      (run first visits).sentBy 0 = [(.v4 0x7F000001 4000, [1]), (.v4 0x7F000001 4000, [8])] ∧
      (run first visits).sentBy 1 = [(.v4 0x7F000001 4001, [5, 6, 7])]) = true := by
    decide +kernel
  rcases (Option.any_eq_true _ _).mp facts with ⟨first, opened, facts⟩
  have started : start 7 Link.routed Names.loopback {} {} = .ok first := by
    cases outcome : start 7 Link.routed Names.loopback {} {} with
    | error error =>
        rw [outcome] at opened
        cases opened
    | ok l =>
        rw [outcome] at opened
        exact congrArg Except.ok (Option.some.inj opened)
  rcases of_decide_eq_true facts with ⟨returned, sent, other⟩
  rcases (echoes_faithfully started).2 visits (by simp [visits, isInput]) with
    ⟨steps, service, served, settled, same, _⟩
  rw [← same] at returned sent other
  have own : 0 ∈ service.listener.returned := returned ▸ List.mem_cons_self
  rcases ((echoes_faithfully started).1 steps service served settled).2.1 0 own with
    ⟨session, before, request, after, _, _, split, _, peer, _, echoed⟩
  exact ⟨first, steps, service, started, served, settled, same, other, session, before, after,
    request, split, peer, echoed.symm.trans sent⟩

end Relay

end Anteroom
