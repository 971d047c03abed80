import Anteroom.Proofs.Schedule

/-!
# Nothing looks at the backlog or the history

What a listener does depends neither on the datagrams that wait in the backlog
nor on what has happened before: with another backlog and another history it
does the same, and adds the same entries to the history.  The read loop is no
exception, apart from the datagram that it takes.
-/

namespace Anteroom.Listener

/-- The listener with other datagrams in the backlog and with another history. -/
def recast (l : Listener) (backlog : List Delivery) (history : List Entry) : Listener :=
  { l with backlog, history }

/-- The operation adds some entries to the history, and does the same whatever datagrams are in the
backlog and whatever has happened before. -/
def Oblivious (l : Listener) (operation : Listener → Listener) : Prop :=
  ∃ entries, ∀ backlog history,
    operation (l.recast backlog history) = (operation l).recast backlog (history ++ entries)

theorem Oblivious.still {l : Listener} {operation : Listener → Listener}
    (same : ∀ backlog history,
      operation (l.recast backlog history) = (operation l).recast backlog history) :
    l.Oblivious operation := by
  refine ⟨[], fun backlog history => ?_⟩
  rw [same, List.append_nil]

theorem Oblivious.congr {l : Listener} {operation other : Listener → Listener}
    (oblivious : l.Oblivious other)
    (same : ∀ backlog history,
      operation (l.recast backlog history) = other (l.recast backlog history)) :
    l.Oblivious operation := by
  rcases oblivious with ⟨entries, adds⟩
  refine ⟨entries, fun backlog history => ?_⟩
  rw [same, adds, show operation l = other l from same l.backlog l.history]

theorem Oblivious.comp {l : Listener} {first second : Listener → Listener}
    (oblivious : l.Oblivious first) (goes : (first l).Oblivious second) :
    l.Oblivious fun l => second (first l) := by
  rcases oblivious with ⟨before, adds⟩
  rcases goes with ⟨after, goes⟩
  refine ⟨before ++ after, fun backlog history => ?_⟩
  simp only [adds backlog history, goes backlog, List.append_assoc]

theorem oblivious_id (l : Listener) : l.Oblivious id :=
  .still fun _ _ => rfl

theorem oblivious_record (l : Listener) (event : Event) : l.Oblivious (·.record event) :=
  ⟨[{ time := l.now, event }], fun _ _ => rfl⟩

/-! ## Handling a datagram -/

theorem oblivious_reply {l : Listener} {peer : Address} {packet : String} {datagram : Bytes}
    {next : Listener → Listener}
    (goes : (l.record (.sent peer datagram none)).Oblivious next) :
    l.Oblivious (·.reply peer packet datagram next) := by
  by_cases reached : l.setup.link.reaches peer = true
  · have sends := l.oblivious_record (.sent peer datagram none)
    exact (sends.comp goes).congr fun _ _ => if_pos reached
  · have reports := l.oblivious_record (.reported peer (.send packet Link.fault))
    exact reports.congr fun _ _ => if_neg reached

theorem oblivious_offer (l : Listener) (number : Nat) : l.Oblivious (·.offer number) := by
  by_cases room : l.queue.length < l.setup.capacity
  · have queues : l.Oblivious fun l => { l with queue := l.queue ++ [number] } :=
      .still fun _ _ => rfl
    exact queues.congr fun _ _ => if_pos room
  · have holds : l.Oblivious fun l => { l with loop := .holding number } := .still fun _ _ => rfl
    exact holds.congr fun _ _ => if_neg room

theorem negotiate_eq (l : Listener) (peer : Address) (mtu : UInt16) (guid : Int64) :
    l.negotiate peer mtu guid =
      match (l.setup.plan l.created).session? peer mtu guid with
      | some session => ((l.enroll session).record (.created l.created)).offer l.created
      | none => { l with loop := .failed } := by
  rw [negotiate]
  cases l.setup.plan l.created <;> rfl

theorem oblivious_negotiate (l : Listener) (peer : Address) (mtu : UInt16) (guid : Int64) :
    l.Oblivious (·.negotiate peer mtu guid) := by
  cases planned : (l.setup.plan l.created).session? peer mtu guid with
  | some session =>
      have enrolls : l.Oblivious (·.enroll session) := .still fun _ _ => rfl
      have tells := enrolls.comp (oblivious_record _ (.created l.created))
      refine (tells.comp (oblivious_offer _ l.created)).congr fun backlog history => ?_
      have same : ((l.recast backlog history).setup.plan
        (l.recast backlog history).created).session? peer mtu guid = some session := planned
      rw [negotiate_eq, same]
      rfl
  | none =>
      have fails : l.Oblivious fun l => { l with loop := .failed } := .still fun _ _ => rfl
      refine fails.congr fun backlog history => ?_
      have same : ((l.recast backlog history).setup.plan
        (l.recast backlog history).created).session? peer mtu guid = none := planned
      rw [negotiate_eq, same]

theorem oblivious_answer (l : Listener) (peer : Address) (message : Message) :
    l.Oblivious (·.answer peer message) := by
  cases message with
  | unconnectedPing sendTimestamp guid =>
      have replies : l.Oblivious (·.reply peer "unconnected pong" (l.pong sendTimestamp) id) :=
        oblivious_reply (oblivious_id _)
      exact replies
  | openConnectionRequest1 version mtu =>
      by_cases same : version = l.setup.protocolVersion
      · have accepts : l.Oblivious (·.reply peer "open connection reply 1" (l.reply1 mtu) id) :=
          oblivious_reply (oblivious_id _)
        exact accepts.congr fun _ _ => if_pos same
      · have rejects : l.Oblivious (·.reply peer "incompatible protocol version" l.incompatible
            (·.report peer (.incompatibleProtocol version l.setup.protocolVersion))) :=
          oblivious_reply (oblivious_record _ _)
        exact rejects.congr fun _ _ => if_neg same
  | openConnectionRequest2 server mtu guid =>
      have replies : l.Oblivious (·.reply peer "open connection reply 2" (l.reply2 peer mtu)
          (·.negotiate peer mtu guid)) := oblivious_reply (oblivious_negotiate _ peer mtu guid)
      exact replies
  | _ => exact l.oblivious_id

theorem oblivious_handleOffline (l : Listener) (peer : Address) (datagram : Bytes) :
    l.Oblivious (·.handleOffline peer datagram) := by
  cases decoded : Message.decodeInbound datagram with
  | ok message =>
      simp only [handleOffline, decoded]
      exact l.oblivious_answer peer message
  | error error =>
      simp only [handleOffline, decoded]
      split
      · rename_i same
        cases same
      · split
        · exact l.oblivious_id
        · exact l.oblivious_record _
      · exact l.oblivious_record _

theorem oblivious_forward (l : Listener) (peer : Address) (number : Nat) (datagram : Bytes) :
    l.Oblivious (·.forward peer number datagram) := by
  cases found : l.registry.session? number with
  | none => exact l.oblivious_id.congr fun _ _ => by simp only [forward, recast, found, id]
  | some session =>
      have hands : l.Oblivious fun l => { l with
          registry := l.registry.modify number fun _ => (session.receive datagram).1 } :=
        .still fun _ _ => rfl
      cases refusal : (session.receive datagram).2 with
      | none => exact hands.congr fun _ _ => by simp only [forward, recast, found, refusal]
      | some error =>
          have refuses := hands.comp (oblivious_record _ (.reported peer (.session error)))
          exact refuses.congr fun _ _ => by
            simp only [forward, recast, found, refusal, report]

theorem oblivious_handle (l : Listener) (peer : Address) (datagram : Bytes) :
    l.Oblivious (·.handle peer datagram) := by
  cases registered : l.sessionOf? peer with
  | some number =>
      have takes := l.oblivious_record (.handled peer datagram (some number))
      refine (takes.comp (oblivious_forward _ peer number datagram)).congr fun backlog history => ?_
      have same : (l.recast backlog history).sessionOf? peer = some number := registered
      simp only [handle, same]
  | none =>
      have takes := l.oblivious_record (.handled peer datagram none)
      refine (takes.comp (oblivious_handleOffline _ peer datagram)).congr fun backlog history => ?_
      have same : (l.recast backlog history).sessionOf? peer = none := registered
      simp only [handle, same]

/-! ## Commands -/

theorem oblivious_learn (l : Listener) (number : Nat) (payload : Bytes) :
    l.Oblivious (·.learn number payload) := by
  cases stored : l.board.store (Descriptor.relay payload l.setup.id) with
  | ok board =>
      have writes : l.Oblivious fun l => { l with board } := .still fun _ _ => rfl
      have tells := oblivious_record { l with board }
        (.written (some number) (Descriptor.relay payload l.setup.id))
      exact (writes.comp tells).congr fun _ _ => by simp only [learn, recast, stored]
  | error error =>
      exact l.oblivious_id.congr fun _ _ => by simp only [learn, recast, stored, id]

theorem oblivious_hear (l : Listener) (number serial : Nat) (datagram : Bytes) :
    l.Oblivious (·.hear number serial datagram) := by
  cases shut : l.shutdown with
  | true => exact l.oblivious_id.congr fun _ _ => if_pos shut
  | false =>
    cases known : l.hijacks.findIdx? (·.number = number) with
    | none =>
        exact l.oblivious_id.congr fun _ _ => by
          simp only [hear, recast, shut, known, id, Bool.false_eq_true, if_false]
    | some index =>
        cases found : l.hijacks[index]? with
        | none =>
            exact l.oblivious_id.congr fun _ _ => by
              simp only [hear, recast, shut, known, found, id, Bool.false_eq_true, if_false]
        | some hijack =>
            have hears : l.Oblivious fun l => { l with
                hijacks := l.hijacks.set index
                  (hijack.hear l.setup.config.framing serial datagram).1 } := .still fun _ _ => rfl
            cases learned : (hijack.hear l.setup.config.framing serial datagram).2 with
            | none =>
                exact hears.congr fun _ _ => by
                  simp only [hear, recast, shut, known, found, learned, Bool.false_eq_true,
                    if_false]
            | some payload =>
                exact (hears.comp (oblivious_learn _ number payload)).congr fun _ _ => by
                  simp only [hear, recast, shut, known, found, learned, Bool.false_eq_true,
                    if_false]

theorem oblivious_leave (l : Listener) (call : Nat) : l.Oblivious (·.leave call) := by
  by_cases waits : call ∈ l.waiting
  · have leaves : l.Oblivious fun l => { l with waiting := l.waiting.erase call } :=
      .still fun _ _ => rfl
    exact leaves.congr fun _ _ => if_pos waits
  · cases found : l.inHand.find? (·.call = call) with
    | none =>
        exact l.oblivious_id.congr fun _ _ => by
          simp only [leave, recast, waits, found, id, if_false]
    | some candidate =>
        have leaves : l.Oblivious fun l => ({ l with
            inHand := l.inHand.erase candidate } : Listener).settleFate candidate.session
              .abandoned := .still fun _ _ => rfl
        exact leaves.congr fun _ _ => by simp only [leave, recast, waits, found, if_false]

theorem oblivious_alter (l : Listener) (session : Nat) (change : Session → Session) :
    l.Oblivious (·.alter session change) := by
  cases found : l.accepted? session with
  | none =>
      refine l.oblivious_id.congr fun backlog history => ?_
      have same : (l.recast backlog history).accepted? session = none := found
      rw [alter, same, id]
  | some value =>
      have puts : l.Oblivious (·.put session (change value)) := .still fun _ _ => rfl
      refine puts.congr fun backlog history => ?_
      have same : (l.recast backlog history).accepted? session = some value := found
      rw [alter, same]

theorem oblivious_sendSession (l : Listener) (session : Nat) (datagram : Bytes) :
    l.Oblivious fun l => ((l.sendSession session datagram).map Prod.fst).getD l := by
  cases found : l.accepted? session with
  | none =>
      refine l.oblivious_id.congr fun backlog history => ?_
      have same : (l.recast backlog history).accepted? session = none := found
      simp [sendSession, same]
  | some value =>
      cases sends : value.send l.setup.link datagram with
      | error error =>
          refine l.oblivious_id.congr fun backlog history => ?_
          have same : (l.recast backlog history).accepted? session = some value := found
          have again : value.send (l.recast backlog history).setup.link datagram = .error error :=
            sends
          simp [sendSession, same, again]
      | ok _ =>
          have tells := l.oblivious_record (.sent value.address datagram (some session))
          refine tells.congr fun backlog history => ?_
          have same : (l.recast backlog history).accepted? session = some value := found
          have again : value.send (l.recast backlog history).setup.link datagram = .ok () := sends
          simp [sendSession, same, again]

theorem oblivious_setPong (l : Listener) (payload : Bytes) :
    l.Oblivious fun l => (l.setPong payload).toOption.getD l := by
  cases stored : l.board.store payload with
  | error error =>
      refine l.oblivious_id.congr fun backlog history => ?_
      have same : (l.recast backlog history).board.store payload = .error error := stored
      rw [setPong, same]
      rfl
  | ok board =>
      have writes : l.Oblivious fun l => { l with board } := .still fun _ _ => rfl
      have tells := oblivious_record { l with board } (.written none payload)
      refine (writes.comp tells).congr fun backlog history => ?_
      have same : (l.recast backlog history).board.store payload = .ok board := stored
      rw [setPong, same]
      rfl

theorem oblivious_ifHeld {l : Listener} {operation : Listener → Listener}
    (oblivious : l.Oblivious operation) : l.Oblivious fun l => l.ifHeld (operation l) := by
  cases released : l.released with
  | true => exact l.oblivious_id.congr fun _ _ => if_pos released
  | false => exact oblivious.congr fun _ _ => if_neg (Bool.eq_false_iff.mp released)

/-- A command that brings no datagram. -/
theorem oblivious_issue (l : Listener) {command : Command}
    (other : ∀ peer datagram, command ≠ .deliver peer datagram) :
    l.Oblivious (·.issue command) := by
  cases command with
  | deliver peer datagram => exact absurd rfl (other peer datagram)
  | advance | signal | release => exact .still fun _ _ => rfl
  | answerProbe number serial datagram => exact l.oblivious_hear number serial datagram
  | accept =>
      have joins : l.Oblivious join := .still fun _ _ => rfl
      exact oblivious_ifHeld joins
  | abandon call => exact l.oblivious_leave call
  | closeSession session => exact l.oblivious_alter session _
  | readSession session => exact l.oblivious_alter session _
  | sendSession session datagram => exact l.oblivious_sendSession session datagram
  | setPong payload => exact oblivious_ifHeld (l.oblivious_setPong payload)
  | hijack names endpoint =>
      apply oblivious_ifHeld
      cases shut : l.shutdown with
      | true => exact l.oblivious_id.congr fun _ _ => if_pos shut
      | false =>
          have running := Bool.eq_false_iff.mp shut
          cases resolved : Endpoint.resolve names endpoint with
          | error error => exact l.oblivious_id.congr fun _ _ => if_neg running
          | ok target =>
              have enlists : l.Oblivious (·.enlist target) := .still fun _ _ => rfl
              exact enlists.congr fun _ _ => if_neg running
  | close =>
      apply oblivious_ifHeld
      cases closed : l.closed with
      | true => exact l.oblivious_id.congr fun _ _ => if_pos closed
      | false =>
          have begins : l.Oblivious beginClose := .still fun _ _ => rfl
          exact begins.congr fun _ _ => if_neg (Bool.eq_false_iff.mp closed)

theorem oblivious_closeSessions (l : Listener) : l.Oblivious fun l => l.closeSessions.1 := by
  have closes : l.Oblivious fun l =>
      ({ l with registry := l.registry.closeAll.1.clear } : Listener).recordAll
        (l.registry.table.numbers.map .shut) :=
    ⟨(l.registry.table.numbers.map Event.shut).map fun event => ⟨l.now, event⟩, fun _ _ => rfl⟩
  exact closes.congr fun _ _ => closeSessions_fst _

/-! ## Moves -/

/-- A move other than taking a datagram. -/
theorem Moved.recast {l next : Listener} {move : Move} (moved : Moved l move next)
    (other : move ≠ .handle) :
    ∃ entries, ∀ backlog history,
      Moved (l.recast backlog history) move (next.recast backlog (history ++ entries)) := by
  have still (moves : ∀ backlog history,
      Moved (l.recast backlog history) move (next.recast backlog history)) :
      ∃ entries, ∀ backlog history,
        Moved (l.recast backlog history) move (next.recast backlog (history ++ entries)) := by
    refine ⟨[], fun backlog history => ?_⟩
    rw [List.append_nil]
    exact moves backlog history
  cases moved with
  | released released running idle => exact still fun _ _ => .released released running idle
  | stopped shut going => exact still fun _ _ => .stopped shut going
  | drained shut ended full => exact still fun _ _ => .drained shut ended full
  | refused waiting hopeless => exact ⟨[⟨l.now, _⟩], fun _ _ => .refused waiting hopeless⟩
  | dropped found shut => exact ⟨[⟨l.now, _⟩], fun _ _ => .dropped found shut⟩
  | accepted found running complete =>
      exact ⟨[⟨l.now, _⟩], fun _ _ => .accepted found running complete⟩
  | expired found running incomplete due =>
      exact ⟨[⟨l.now, _⟩], fun _ _ => .expired found running incomplete due⟩
  | evicted found closed => exact still fun _ _ => .evicted found closed
  | hijackEnded found shut => exact still fun _ _ => .hijackEnded found shut
  | @hijackWent index hijack stepped found running step =>
      exact ⟨(if hijack.sent < stepped.sent then [Event.probed hijack.number hijack.sent]
          else []).map fun event => { time := l.now, event },
        fun backlog history =>
          .hijackWent (l := l.recast backlog history) found running step⟩
  | pulled waiting queue running => exact ⟨[⟨l.now, _⟩], fun _ _ => .pulled waiting queue running⟩
  | enqueued holding running room => exact still fun _ _ => .enqueued holding running room
  | handled => exact absurd rfl other

end Anteroom.Listener
