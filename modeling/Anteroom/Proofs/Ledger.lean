import Anteroom.Proofs.Inbox
import Anteroom.Proofs.Order
import Anteroom.Proofs.Service

/-!
# The account of a session

While a session of the relay is open, every datagram that is taken from its
peer is handed to it.  Those for which there is room are queued; its task reads
them in this order and sends back each of them before it reads the next one,
unless it is too long.  So at any time, what has been taken from the peer since
the session was asked for, and has found room, is what the task is done with,
then what it has in hand, and then what is queued.
-/

namespace Anteroom

namespace Listener

/-- The datagrams that are queued for the reader of a session. -/
def queued (l : Listener) (session : Nat) : List Bytes :=
  l.registry.look Session.inbox [] session

/-! ## Sessions in the hands of the application -/

theorem isReturned_iff {l : Listener} {number : Nat} :
    l.isReturned number = true ↔ number ∈ l.returned := by
  rw [isReturned, returnedBy?, List.findSome?_isSome_iff, mem_returned]
  constructor
  · rintro ⟨⟨session, fate⟩, met, found⟩
    cases fate with
    | returned call =>
        simp only [Option.isSome_ite] at found
        exact ⟨call, found ▸ met⟩
    | _ => cases found
  · rintro ⟨call, met⟩
    exact ⟨_, met, by simp⟩

theorem accepted?_eq_some_iff {l : Listener} {number : Nat} {session : Session} :
    l.accepted? number = some session ↔
      number ∈ l.returned ∧ l.registry.session? number = some session := by
  rw [accepted?, Option.ite_none_right_eq_some, isReturned_iff]

/-- What has met a fate has been created. -/
theorem Placed.lt_created {l : Listener} (placed : l.Placed) {number : Nat} {fate : Fate}
    (met : (number, fate) ∈ l.fates) : number < l.created := by
  have gone : (number, .gone fate) ∈ l.whereabouts :=
    mem_whereabouts.mpr (.inr (.inr (.inr ⟨fate, met, rfl⟩)))
  exact List.mem_range.mp (placed.mem_iff.mp (List.mem_map_of_mem gone))

/-- What the application would get from an open session is the oldest datagram that is queued. -/
theorem readable?_eq {l : Listener} {number : Nat} {session : Session}
    (known : l.accepted? number = some session) (isRaw : session.isRaw = true)
    (running : session.isClosed = false) : l.readable? number = session.inbox.head? := by
  rw [readable?, known]
  cases queued : session.inbox with
  | nil => simp [Session.recv_of_empty isRaw running queued]
  | cons first others => simp [Session.recv_of_queued isRaw running queued]

/-- An open session sends back to its peer what fits its MTU. -/
theorem sentBy_sendSession {l : Listener} {number : Nat} {session : Session}
    (known : l.accepted? number = some session) (running : session.isClosed = false)
    (reached : l.setup.link.reaches session.address = true) (datagram : Bytes) :
    (l.issue (.sendSession number datagram)).sentBy number =
      l.sentBy number ++
        ([datagram].filter fun datagram => datagram.length ≤ session.mtu.toNat - 28).map
          (session.address, ·) := by
  have room : Mtu.room session.mtu = session.mtu.toNat - 28 := rfl
  by_cases fits : datagram.length ≤ session.mtu.toNat - 28
  · have sends : session.send l.setup.link datagram = .ok () := by
      rw [Session.send, running, if_neg Bool.false_ne_true, room, if_neg (Nat.not_lt.mpr fits),
        if_pos reached]
    have issued : l.issue (.sendSession number datagram) =
        l.record (.sent session.address datagram (some number)) := by
      simp [issue, sendSession, known, sends]
    rw [issued, sentBy, events_record, List.filterMap_append]
    simp [sentBy, Event.sentBy?, fits]
  · have refuses : session.send l.setup.link datagram =
        .error (.oversized datagram.length session.mtu) := by
      rw [Session.send, running, if_neg Bool.false_ne_true, room, if_pos (Nat.lt_of_not_le fits)]
    have issued : l.issue (.sendSession number datagram) = l := by
      simp [issue, sendSession, known, refuses]
    rw [issued]
    simp [fits]

/-! ## What becomes of a session -/

/-- What a step makes of a session, or makes it from. -/
inductive Turn (l next : Listener) (number : Nat) : Step → Session → Prop
  /-- It stays as it is. -/
  | same {step : Step} {session : Session} (known : l.registry.session? number = some session)
      (apart : ∀ delivery, l.taken? step = some delivery →
        l.sessionOf? delivery.peer ≠ some number)
      (unread : step ≠ .command (.readSession number)) : Turn l next number step session
  /-- It is handed a datagram. -/
  | received {delivery : Delivery} {session : Session}
      (taken : l.taken? (.move .handle) = some delivery)
      (registered : l.sessionOf? delivery.peer = some number)
      (known : l.registry.session? number = some session) :
      Turn l next number (.move .handle) (session.receive delivery.datagram).1
  /-- It is created for a peer that has asked for it. -/
  | created {delivery : Delivery} {server : Address} {mtu : UInt16} {guid : Int64}
      (taken : l.taken? (.move .handle) = some delivery)
      (decoded : Message.decodeInbound delivery.datagram =
        .ok (.openConnectionRequest2 server mtu guid))
      (reached : l.setup.link.reaches delivery.peer = true) (new : number = l.created) :
      Turn l next number (.move .handle) (Session.raw delivery.peer mtu guid)
  /-- Its reader reads from it. -/
  | read {session : Session} (known : l.accepted? number = some session) :
      Turn l next number (.command (.readSession number)) session.recv.1
  /-- It is closed because its time to complete is up. -/
  | expired {step : Step} {session : Session} (known : l.registry.session? number = some session)
      (met : (number, Fate.expired) ∈ next.fates) : Turn l next number step session.close.1

theorem Handled.turn {l next : Listener} {delivery : Delivery} {deliveries : List Delivery}
    (backlog : l.backlog = delivery :: deliveries)
    (handled : Handled { l with backlog := deliveries } delivery.peer delivery.datagram next)
    (raw : ∀ number, l.setup.plan number = .raw) {number : Nat} {session : Session}
    (known : next.registry.session? number = some session) :
    Turn l next number (.move .handle) session := by
  have taken : l.taken? (.move .handle) = some delivery := by rw [taken?, backlog]; rfl
  have same : l.registry.session? number = some session →
      l.sessionOf? delivery.peer ≠ some number → Turn l next number (.move .handle) session := by
    intro known apart
    refine .same known ?_ (by rintro ⟨⟩)
    intro other also
    rw [taken] at also
    cases also
    exact apart
  cases handled with
  | @forwarded owner before registered found =>
      have known : (l.registry.modify owner fun _ =>
        (before.receive delivery.datagram).1).session? number = some session := known
      rw [Registry.session?_modify] at known
      split at known
      · rename_i own
        subst own
        rcases Option.map_eq_some_iff.mp known with ⟨_, _, rfl⟩
        exact .received taken registered found
      · rename_i other
        refine same known ?_
        intro also
        exact other (Option.some.inj (registered.symm.trans also))
  | @unclaimed owner registered unknown =>
      refine same known ?_
      intro also
      cases registered.symm.trans also
      cases unknown.symm.trans known
  | answered unregistered | failed unregistered =>
      refine same known ?_
      intro also
      cases unregistered.symm.trans also
  | @negotiated server mtu guid created unregistered decoded reached planned =>
      have isRaw : created = Session.raw delivery.peer mtu guid := by
        have plan : l.setup.plan l.created = .raw := raw l.created
        have planned : (l.setup.plan l.created).session? delivery.peer mtu guid = some created :=
          planned
        rw [plan] at planned
        cases planned
        rfl
      subst isRaw
      rw [registry_offer] at known
      have known : ((l.registry.add (Session.raw delivery.peer mtu guid)).register
        l.registry.sessions.length).1.session? number = some session := known
      rw [Registry.session?_register, Registry.session?_add] at known
      split at known
      · rename_i new
        cases known
        exact .created taken decoded reached new
      · refine same known ?_
        intro also
        cases unregistered.symm.trans also

end Listener

namespace Relay

open Listener (Turn Went Handled Moved Issued)

/-- In a step of the relay each session takes one of the listed turns. -/
theorem turn_of_allows {service : Service} {step : Step} {next : Listener}
    (allowed : service.allows step = true) (went : Went service.listener step next)
    (raw : ∀ number, service.listener.setup.plan number = .raw) {number : Nat} {session : Session}
    (known : next.registry.session? number = some session) :
    Turn service.listener next number step session := by
  cases went with
  | @command command _ issued =>
      have untaken : ∀ delivery, service.listener.taken? (.command command) = some delivery →
          service.listener.sessionOf? delivery.peer ≠ some number := nofun
      cases issued with
      | ignored idle =>
          refine .same known untaken ?_
          intro reads
          cases reads
          simp only [Service.allows, Bool.and_eq_true, Listener.readable?,
            Option.bind_eq_bind] at allowed
          rw [Option.isNone_iff_eq_none.mp idle] at allowed
          cases allowed.2
      | fired | closedSession => cases allowed
      | @readSession owner before found =>
          rw [Registry.session?_modify] at known
          split at known
          · rename_i own
            subst own
            rcases Option.map_eq_some_iff.mp known with ⟨read, existed, rfl⟩
            cases existed.symm.trans (Listener.accepted?_eq_some_iff.mp found).2
            exact .read found
          · rename_i other
            refine .same known untaken ?_
            intro reads
            cases reads
            exact other rfl
      | _ => exact .same known untaken nofun
  | @move move _ moved =>
      have still : move ≠ .handle → ∀ delivery,
          service.listener.taken? (.move move) = some delivery →
            service.listener.sessionOf? delivery.peer ≠ some number := by
        intro other delivery taken
        cases move with
        | handle => exact absurd rfl other
        | _ => cases taken
      cases moved with
      | @expired index candidate =>
          have known : ((service.listener.registry.closeSession candidate.session).1.unregister
            candidate.session).1.session? number = some session := known
          rw [Registry.session?_unregister, Registry.session?_closeSession] at known
          split at known
          · rename_i own
            rcases Option.map_eq_some_iff.mp known with ⟨before, existed, rfl⟩
            refine .expired existed ?_
            rw [← own]
            exact List.mem_append_right _ List.mem_cons_self
          · exact .same known (still nofun) nofun
      | @evicted index watched =>
          have known : (service.listener.registry.unregister watched).1.session? number =
            some session := known
          rw [Registry.session?_unregister] at known
          exact .same known (still nofun) nofun
      | handled backlog => exact (Listener.handled_handle _ _ _).turn backlog raw known
      | _ => exact .same known (still nofun) nofun
  | closeSessions => cases allowed

/-! ## The account of an open session -/

/-- The account of an open session: what asked for it, what has been taken since, and which
datagrams its task is done with. -/
structure Ledger (service : Service) (number : Nat) (session : Session)
    (request : Listener × Delivery) (after : List (Listener × Delivery)) (done : List Bytes) :
    Prop where
  reached : service.listener.setup.link.reaches session.address = true
  bounded : session.inbox.length ≤ 256
  new : request.1.created = number
  asked : ∃ server, Message.decodeInbound request.2.datagram =
    .ok (.openConnectionRequest2 server session.mtu session.guid)
  peer : request.2.peer = session.address
  kept : (after.filter fun reading =>
      reading.2.peer = session.address ∧ (reading.1.queued number).length < 256).map
        (fun reading => reading.2.datagram) =
    done ++ (service.held number).toList ++ session.inbox
  sent : service.listener.sentBy number =
    (done.filter fun datagram => datagram.length ≤ session.mtu.toNat - 28).map (session.address, ·)

/-- The books of the relay: its listener runs, all sessions are raw, they are closed only when their
time is up, only tasks of returned sessions do anything, and there is an account of every open
session. -/
structure Books (past : List (Listener × Delivery)) (service : Service) : Prop where
  runs : service.listener.Runs
  tracked : service.listener.Tracked
  isRaw : ∀ {number : Nat} {session : Session},
    service.listener.registry.session? number = some session → session.isRaw = true
  closed : ∀ {number : Nat} {session : Session},
    service.listener.registry.session? number = some session → session.isClosed = true →
      (number, Fate.expired) ∈ service.listener.fates
  owned : ∀ {number : Nat}, service.held number ≠ none ∨ service.listener.sentBy number ≠ [] →
    number ∈ service.listener.returned
  ledger : ∀ {number : Nat} {session : Session},
    service.listener.registry.session? number = some session → session.isClosed = false →
      ∃ before request after done, past = before ++ request :: after ∧
        Ledger service number session request after done

variable {past : List (Listener × Delivery)} {service : Service} {step : Step} {next : Listener}

/-- The relay after a step. -/
def Service.then (service : Service) (step : Step) (next : Listener) : Service :=
  { listener := next, held := service.heldAfter step }

/-- The datagram that a step takes, with the state in which it is taken. -/
def Service.taken (service : Service) (step : Step) : List (Listener × Delivery) :=
  (service.listener.taken? step).toList.map (service.listener, ·)

theorem heldAfter_of_other {number : Nat} (unread : step ≠ .command (.readSession number))
    (unsent : ∀ datagram, step ≠ .command (.sendSession number datagram)) :
    service.heldAfter step number = service.held number := by
  cases step with
  | command command =>
      cases command with
      | readSession other =>
          refine Function.update_of_ne ?_ _ _
          rintro rfl
          exact unread rfl
      | sendSession other datagram =>
          refine Function.update_of_ne ?_ _ _
          rintro rfl
          exact unsent datagram rfl
      | _ => rfl
  | _ => rfl

theorem sentBy_of_other (went : Went service.listener step next) {number : Nat}
    (unsent : ∀ datagram, step ≠ .command (.sendSession number datagram)) :
    next.sentBy number = service.listener.sentBy number := by
  rcases went.told with ⟨events, tells⟩
  exact tells.sentBy unsent

/-! ## What a step does to an account -/

section

variable {number : Nat} {session : Session} {request : Listener × Delivery}
  {after : List (Listener × Delivery)} {done : List Bytes}

/-- A step in which a session is not used and nothing is taken from its peer. -/
theorem Ledger.pass (ledger : Ledger service number session request after done)
    (went : Went service.listener step next)
    (apart : ∀ reading ∈ service.taken step, reading.2.peer ≠ session.address)
    (unread : step ≠ .command (.readSession number))
    (unsent : ∀ datagram, step ≠ .command (.sendSession number datagram)) :
    Ledger (service.then step next) number session request (after ++ service.taken step) done where
  reached := (congrArg (·.link.reaches session.address) went.setup).trans ledger.reached
  bounded := ledger.bounded
  new := ledger.new
  asked := ledger.asked
  peer := ledger.peer
  kept := by
    have held : (service.then step next).held number = service.held number :=
      heldAfter_of_other unread unsent
    have nothing : (service.taken step).filter (fun reading =>
        reading.2.peer = session.address ∧ (reading.1.queued number).length < 256) = [] := by
      rw [List.filter_eq_nil_iff]
      intro reading member
      simp [apart reading member]
    rw [List.filter_append, nothing, List.append_nil, held]
    exact ledger.kept
  sent := (sentBy_of_other went unsent).trans ledger.sent

/-- The step in which a session's task sends back what it has in hand. -/
theorem Ledger.send (ledger : Ledger service number session request after done)
    {datagram : Bytes} (known : service.listener.accepted? number = some session)
    (running : session.isClosed = false) (held : service.held number = some datagram) :
    Ledger
      (service.then (.command (.sendSession number datagram))
        (service.listener.issue (.sendSession number datagram)))
      number session request after (done ++ [datagram]) where
  reached := by
    have setup := (Listener.issued_issue service.listener (.sendSession number datagram))
    exact (congrArg (·.link.reaches session.address) (Went.setup (.command setup))).trans
      ledger.reached
  bounded := ledger.bounded
  new := ledger.new
  asked := ledger.asked
  peer := ledger.peer
  kept := by
    have released : (service.then (.command (.sendSession number datagram))
        (service.listener.issue (.sendSession number datagram))).held number = none :=
      Function.update_self ..
    rw [released, ledger.kept, held]
    simp
  sent := by
    have sends := Listener.sentBy_sendSession known running ledger.reached datagram
    rw [ledger.sent] at sends
    rw [List.filter_append, List.map_append]
    exact sends

/-- The step in which a session's task reads. -/
theorem Ledger.read (ledger : Ledger service number session request after done)
    (isRaw : session.isRaw = true) (running : session.isClosed = false)
    (known : service.listener.accepted? number = some session)
    (allowed : service.allows (.command (.readSession number)) = true)
    (went : Went service.listener (.command (.readSession number)) next) :
    Ledger (service.then (.command (.readSession number)) next) number session.recv.1 request after
      done := by
  simp only [Service.allows, Bool.and_eq_true, Option.isNone_iff_eq_none] at allowed
  rcases allowed with ⟨idle, readable⟩
  have first? := Listener.readable?_eq known isRaw running
  have held : (service.then (.command (.readSession number)) next).held number =
      session.inbox.head? :=
    (Function.update_self ..).trans first?
  cases queued : session.inbox with
  | nil =>
      rw [first?, queued] at readable
      cases readable
  | cons first others =>
      rw [Session.recv_of_queued isRaw running queued]
      constructor
      · exact (congrArg (·.link.reaches session.address) went.setup).trans ledger.reached
      · have bounded := ledger.bounded
        rw [queued, List.length_cons] at bounded
        exact Nat.le_of_succ_le bounded
      · exact ledger.new
      · exact ledger.asked
      · exact ledger.peer
      · have kept := ledger.kept
        rw [idle, queued] at kept
        rw [held, queued]
        simpa [Session.inbox] using kept
      · exact (sentBy_of_other went (by rintro _ ⟨⟩)).trans ledger.sent

/-- The step in which a session is handed a datagram. -/
theorem Ledger.receive (ledger : Ledger service number session request after done)
    (isRaw : session.isRaw = true) (running : session.isClosed = false)
    (known : service.listener.registry.session? number = some session) {delivery : Delivery}
    (taken : service.listener.taken? (.move .handle) = some delivery)
    (peer : delivery.peer = session.address)
    (went : Went service.listener (.move .handle) next) :
    Ledger (service.then (.move .handle) next) number (session.receive delivery.datagram).1 request
      (after ++ service.taken (.move .handle)) done := by
  have received := Session.receive_of_open isRaw running delivery.datagram
  have queued : service.listener.queued number = session.inbox :=
    Registry.look_eq _ _ known
  rw [received]
  constructor
  · exact (congrArg (·.link.reaches session.address) went.setup).trans ledger.reached
  · have kept : Session.Use.receive delivery.datagram ≠ .close := by rintro ⟨⟩
    have bounded :=
      (Session.queues_use service.listener.setup.link isRaw running kept).bounded ledger.bounded
    rw [Session.use, received] at bounded
    exact bounded
  · exact ledger.new
  · exact ledger.asked
  · exact ledger.peer
  · have held : (service.then (.move .handle) next).held number = service.held number := rfl
    have reading : service.taken (.move .handle) = [(service.listener, delivery)] := by
      rw [Service.taken, taken]
      rfl
    have inbox : ({ session with
        handed := session.handed ++ [delivery.datagram]
        conduct := .raw (session.inbox ++ session.admits (.receive delivery.datagram))
        signals := session.signals.fire .completed } : Session).inbox =
        session.inbox ++ session.admits (.receive delivery.datagram) := rfl
    have news : ([(service.listener, delivery)].filter fun reading =>
        reading.2.peer = session.address ∧ (reading.1.queued number).length < 256).map
          (fun reading => reading.2.datagram) = session.admits (.receive delivery.datagram) := by
      by_cases room : session.inbox.length < 256
      · simp [Session.admits, Session.hasRoom, room, peer, queued]
      · simp [Session.admits, Session.hasRoom, room, peer, queued]
    rw [held, reading, inbox, List.filter_append, List.map_append, ledger.kept, news,
      List.append_assoc]
  · exact (sentBy_of_other went (by rintro _ ⟨⟩)).trans ledger.sent

/-- The step in which a session is created. -/
theorem Ledger.create {delivery : Delivery} {server : Address} {mtu : UInt16} {guid : Int64}
    (decoded : Message.decodeInbound delivery.datagram =
      .ok (.openConnectionRequest2 server mtu guid))
    (reached : service.listener.setup.link.reaches delivery.peer = true)
    (idle : service.held service.listener.created = none)
    (silent : service.listener.sentBy service.listener.created = [])
    (went : Went service.listener (.move .handle) next) :
    Ledger (service.then (.move .handle) next) service.listener.created
      (Session.raw delivery.peer mtu guid) (service.listener, delivery) [] [] where
  reached := (congrArg (·.link.reaches delivery.peer) went.setup).trans reached
  bounded := Nat.zero_le _
  new := rfl
  asked := ⟨server, decoded⟩
  peer := rfl
  kept := by
    have held : (service.then (.move .handle) next).held service.listener.created = none := idle
    rw [held]
    rfl
  sent := (sentBy_of_other went (by rintro _ ⟨⟩)).trans silent

end

/-! ## The books along a schedule -/

section

variable (books : Books past service) (allowed : service.allows step = true)
include books

theorem Books.returned_then (went : Went service.listener step next) {number : Nat}
    (returned : number ∈ service.listener.returned) : number ∈ next.returned := by
  rcases Listener.mem_returned.mp returned with ⟨call, met⟩
  exact Listener.mem_returned.mpr ⟨call, went.fates books.tracked met⟩

/-- Nothing has been done for a session that does not exist yet. -/
theorem Books.unused_created :
    service.held service.listener.created = none ∧
      service.listener.sentBy service.listener.created = [] := by
  have unused : ¬ (service.held service.listener.created ≠ none ∨
      service.listener.sentBy service.listener.created ≠ []) := by
    intro used
    rcases Listener.mem_returned.mp (books.owned used) with ⟨call, met⟩
    exact absurd (books.tracked.placed.lt_created met) (Nat.lt_irrefl _)
  rw [not_or, not_ne_iff, not_ne_iff] at unused
  exact unused

include allowed

theorem Books.isRaw_then (went : Went service.listener step next) {number : Nat} {session : Session}
    (known : next.registry.session? number = some session) : session.isRaw = true := by
  have link := service.listener.setup.link
  cases turn_of_allows allowed went books.runs.raw known with
  | same existed => exact books.isRaw existed
  | @received delivery before _ _ existed =>
      exact Session.isRaw_use link (books.isRaw existed) (.receive delivery.datagram)
  | created => rfl
  | @read before existed =>
      exact Session.isRaw_use link (books.isRaw (Listener.accepted?_eq_some_iff.mp existed).2) .recv
  | @expired _ before existed => exact Session.isRaw_use link (books.isRaw existed) .close

theorem Books.closed_then (went : Went service.listener step next) {number : Nat}
    {session : Session} (known : next.registry.session? number = some session)
    (closed : session.isClosed = true) : (number, Fate.expired) ∈ next.fates := by
  have link := service.listener.setup.link
  have kept : (number, Fate.expired) ∈ service.listener.fates →
      (number, Fate.expired) ∈ next.fates := went.fates books.tracked
  cases turn_of_allows allowed went books.runs.raw known with
  | same existed => exact kept (books.closed existed closed)
  | @received delivery before _ _ existed =>
      have unclosed := Session.isClosed_use link (books.isRaw existed) (.receive delivery.datagram)
      rw [decide_eq_false nofun, Bool.or_false] at unclosed
      exact kept (books.closed existed (unclosed.symm.trans closed))
  | created => cases closed
  | @read before existed =>
      rw [Session.isClosed_recv] at closed
      exact kept (books.closed (Listener.accepted?_eq_some_iff.mp existed).2 closed)
  | expired existed met => exact met

/-- A task reads only from a session that has been returned, and sends only what it has read. -/
theorem Books.owned_then (went : Went service.listener step next) {number : Nat}
    (used : service.heldAfter step number ≠ none ∨ next.sentBy number ≠ []) :
    number ∈ next.returned := by
  apply books.returned_then went
  by_cases reads : step = .command (.readSession number)
  · subst reads
    simp only [Service.allows, Bool.and_eq_true, Listener.readable?, Option.bind_eq_bind]
      at allowed
    rcases Option.isSome_iff_exists.mp allowed.2 with ⟨datagram, found⟩
    rcases Option.bind_eq_some_iff.mp found with ⟨session, existed, _⟩
    exact (Listener.accepted?_eq_some_iff.mp existed).1
  · by_cases sends : ∃ datagram, step = .command (.sendSession number datagram)
    · rcases sends with ⟨datagram, rfl⟩
      simp only [Service.allows, decide_eq_true_eq] at allowed
      refine books.owned (.inl ?_)
      rw [allowed]
      exact Option.some_ne_none datagram
    · have unsent : ∀ datagram, step ≠ .command (.sendSession number datagram) :=
        fun datagram same => sends ⟨datagram, same⟩
      rw [heldAfter_of_other reads unsent, sentBy_of_other went unsent] at used
      exact books.owned used

theorem Books.ledger_then (after : service.listener.after? step = some next) {number : Nat}
    {session : Session} (known : next.registry.session? number = some session)
    (running : session.isClosed = false) :
    ∃ before request after done, past ++ service.taken step = before ++ request :: after ∧
      Ledger (service.then step next) number session request after done := by
  have went := Listener.went_of_after? after
  have untaken : ∀ command, service.taken (.command command) = [] := fun _ => rfl
  cases turn_of_allows allowed went books.runs.raw known with
  | same existed apart unread =>
      rcases books.ledger existed running with ⟨before, request, later, done, split, ledger⟩
      by_cases sends : ∃ datagram, step = .command (.sendSession number datagram)
      · rcases sends with ⟨datagram, rfl⟩
        cases after
        have held : service.held number = some datagram := by
          simpa only [Service.allows, decide_eq_true_eq] using allowed
        have returned := books.owned (.inl (held ▸ Option.some_ne_none datagram))
        have accepted := Listener.accepted?_eq_some_iff.mpr ⟨returned, existed⟩
        refine ⟨before, request, later, done ++ [datagram], ?_, ledger.send accepted running held⟩
        rw [untaken, List.append_nil, split]
      · refine ⟨before, request, later ++ service.taken step, done, ?_, ?_⟩
        · rw [split, List.append_assoc, List.cons_append]
        · refine ledger.pass went ?_ unread fun datagram same => sends ⟨datagram, same⟩
          intro reading member peer
          rcases List.mem_map.mp member with ⟨delivery, taken, rfl⟩
          have registered := books.tracked.sound.live existed running
          exact apart delivery (Option.mem_toList.mp taken) (peer ▸ registered)
  | @received delivery earlier taken registered existed =>
      have link := service.listener.setup.link
      have unclosed := Session.isClosed_use link (books.isRaw existed) (.receive delivery.datagram)
      rw [decide_eq_false nofun, Bool.or_false] at unclosed
      have running : earlier.isClosed = false := unclosed.symm.trans running
      rcases books.ledger existed running with ⟨before, request, later, done, split, ledger⟩
      rcases books.tracked.sound.keyed registered with ⟨keyed, also, peer⟩
      cases existed.symm.trans also
      refine ⟨before, request, later ++ service.taken (.move .handle), done, ?_, ?_⟩
      · rw [split, List.append_assoc, List.cons_append]
      · exact ledger.receive (books.isRaw existed) running existed taken peer.symm went
  | @created delivery server mtu guid taken decoded reached new =>
      subst new
      rcases books.unused_created with ⟨idle, silent⟩
      refine ⟨past, (service.listener, delivery), [], [], ?_, ?_⟩
      · rw [Service.taken, taken]
        rfl
      · exact .create decoded reached idle silent went
  | @read earlier existed =>
      rw [Session.isClosed_recv] at running
      rcases Listener.accepted?_eq_some_iff.mp existed with ⟨_, was⟩
      rcases books.ledger was running with ⟨before, request, later, done, split, ledger⟩
      refine ⟨before, request, later, done, ?_, ?_⟩
      · rw [untaken, List.append_nil, split]
      · exact ledger.read (books.isRaw was) running existed allowed went
  | expired => cases running

end

theorem Books.then (books : Books past service) (allowed : service.allows step = true)
    (after : service.listener.after? step = some next) :
    Books (past ++ service.taken step) (service.then step next) := by
  have went := Listener.went_of_after? after
  constructor
  · exact went.runs (ends_of_allows allowed) books.runs
  · exact went.tracked books.tracked
  · exact books.isRaw_then allowed went
  · exact books.closed_then allowed went
  · exact books.owned_then allowed went
  · exact books.ledger_then allowed after

/-- A relay that has just started has an account of no session. -/
theorem Opens.books {first : Listener} (opens : Opens first) : Books [] { listener := first } := by
  have unknown : ∀ {number : Nat} {session : Session},
      first.registry.session? number ≠ some session := by
    intro number session known
    have inside := (List.getElem?_eq_some_iff.mp known).1
    exact absurd (Nat.lt_of_lt_of_eq inside opens.created) (Nat.not_lt_zero number)
  constructor
  · exact opens.runs
  · exact opens.tracked
  · exact fun known => absurd known unknown
  · exact fun known => absurd known unknown
  · intro number used
    rcases used with held | sent
    · exact absurd rfl held
    · exact absurd (opens.silent number) sent
  · exact fun known => absurd known unknown

/-- The books are kept along every schedule of the relay. -/
theorem Serves.books {first : Listener} (opens : Opens first) {steps : List Step}
    {service : Service} (served : Serves first steps service) :
    Books (first.readings steps) service := by
  induction served with
  | start => exact opens.books
  | @step steps service step next served allowed after books =>
      have taken : service.listener.readings [step] = service.taken step := by
        rw [Listener.readings_cons after, Listener.readings, List.append_nil]
        rfl
      rw [Listener.readings_append served.follow, taken]
      exact books.then allowed after

end Relay

end Anteroom
