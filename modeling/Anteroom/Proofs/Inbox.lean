import Anteroom.Session.Basic

/-!
# Raw sessions as lossy queues

Until it is closed, a raw session is a bounded queue: what its reader gets, and
then what is still queued, are the datagrams that the session was handed while
there was room, in order; one that finds no room is dropped without an error.
What is handed to the session at all completes its handshake.  Once it is
closed it refuses everything, and nothing that is done to it changes it.
-/

namespace Anteroom.Session

/-! ## Uses of a session -/

/-- Something that is done with a session. -/
inductive Use
  | receive (datagram : Bytes)
  | recv
  | send (datagram : Bytes)
  | close
  deriving DecidableEq

/-- What a use gives. -/
inductive Result
  /-- The session was handed a datagram, which it may refuse. -/
  | handed (refusal : Option TransportError)
  | read (received : Received)
  | sent (outcome : Except TransportError Unit)
  | closed (fault : Option TransportError)

variable (link : Link)

/-- The session after a use, and what the use gives. -/
def use (session : Session) : Use → Session × Result
  | .receive datagram => ((session.receive datagram).1, .handed (session.receive datagram).2)
  | .recv => (session.recv.1, .read session.recv.2)
  | .send datagram => (session, .sent (session.send link datagram))
  | .close => (session.close.1, .closed session.close.2)

/-- The session after a list of uses, and what these give. -/
def useAll (session : Session) : List Use → Session × List Result
  | [] => (session, [])
  | used :: uses =>
      let (next, result) := session.use link used
      let (last, results) := next.useAll uses
      (last, result :: results)

/-- The datagrams that are queued in a session. -/
def inbox (session : Session) : List Bytes :=
  match session.conduct with
  | .raw inbox => inbox
  | .scripted _ => []

/-- Whether a session has room for another datagram. -/
def hasRoom (session : Session) : Bool :=
  session.inbox.length < 256

/-- The datagram that a use queues: the one that is handed over, if there is room. -/
def admits (session : Session) : Use → List Bytes
  | .receive datagram => if session.hasRoom then [datagram] else []
  | _ => []

/-- The datagrams that are handed to a session while there is room. -/
def admitted (session : Session) : List Use → List Bytes
  | [] => []
  | used :: uses => session.admits used ++ (session.use link used).1.admitted uses

/-- The datagram that a result gives to the reader. -/
def Result.datagram? : Result → Option Bytes
  | .read (.datagram datagram) => some datagram
  | _ => none

/-! ## What a use does to a raw session -/

section

variable {session : Session} (isRaw : session.isRaw = true)
include isRaw

theorem conduct_eq : session.conduct = .raw session.inbox := by
  rw [Session.isRaw] at isRaw
  cases conduct : session.conduct with
  | raw queued => rw [Session.inbox, conduct]
  | scripted script =>
      rw [conduct] at isRaw
      cases isRaw

/-- A raw session that is open takes what it is handed if it has room, and completes. -/
theorem receive_of_open (running : session.isClosed = false) (datagram : Bytes) :
    session.receive datagram =
      ({ session with
        handed := session.handed ++ [datagram]
        conduct := .raw (session.inbox ++ session.admits (.receive datagram))
        signals := session.signals.fire .completed }, none) := by
  have conduct := conduct_eq isRaw
  rw [isClosed] at running
  simp only [receive, isClosed, conduct, running, Bool.false_eq_true, if_false, inboxCapacity]
  by_cases room : session.inbox.length < 256
  · simp [room, admits, hasRoom, fire]
  · simp [room, admits, hasRoom, fire]

theorem receive_of_closed (closed : session.isClosed = true) (datagram : Bytes) :
    session.receive datagram =
      ({ session with handed := session.handed ++ [datagram] },
        some (.closed session.address)) := by
  have conduct := conduct_eq isRaw
  rw [isClosed] at closed
  simp [receive, isClosed, conduct, closed]

/-- The reader of an open session waits if nothing is queued. -/
theorem recv_of_empty (running : session.isClosed = false) (empty : session.inbox = []) :
    session.recv = (session, .pending) := by
  simp only [recv, conduct_eq isRaw, running, empty, Bool.false_eq_true, if_false]

/-- The reader of an open session gets the oldest datagram that is queued. -/
theorem recv_of_queued (running : session.isClosed = false) {first : Bytes} {others : List Bytes}
    (queued : session.inbox = first :: others) :
    session.recv = ({ session with conduct := .raw others }, .datagram first) := by
  simp only [recv, conduct_eq isRaw, running, queued, Bool.false_eq_true, if_false]

theorem recv_of_closed (closed : session.isClosed = true) : session.recv = (session, .ended) := by
  simp only [recv, conduct_eq isRaw, closed, if_true]

/-- Closing a raw session that is closed only counts. -/
theorem close_of_closed (closed : session.isClosed = true) :
    session.close = ({ session with closes := session.closes + 1 }, none) := by
  have fired : session.signals.fire .closed = session.signals := by
    rw [isClosed] at closed
    rw [Signals.fire, ← closed]
  rw [close, fire, closeFault, conduct_eq isRaw, fired]

theorem isRaw_use (used : Use) : (session.use link used).1.isRaw = true := by
  cases used with
  | receive datagram =>
      cases running : session.isClosed with
      | false => rw [use, receive_of_open isRaw running]; rfl
      | true => rw [use, receive_of_closed isRaw running]; exact isRaw
  | recv =>
      cases running : session.isClosed with
      | false =>
          rw [use]
          cases queued : session.inbox with
          | nil => rw [recv_of_empty isRaw running queued]; exact isRaw
          | cons first others => rw [recv_of_queued isRaw running queued]; rfl
      | true => rw [use, recv_of_closed isRaw running]; exact isRaw
  | send | close => exact isRaw

/-- Only closing closes a raw session. -/
theorem isClosed_use (used : Use) :
    (session.use link used).1.isClosed = (session.isClosed || decide (used = .close)) := by
  cases used with
  | receive datagram =>
      cases running : session.isClosed with
      | false => rw [use, receive_of_open isRaw running]; exact running
      | true => rw [use, receive_of_closed isRaw running]; exact running
  | recv => simp [use]
  | send => simp [use]
  | close => simp [use]

/-- Only what an open raw session is handed completes it. -/
theorem isComplete_use (used : Use) :
    (session.use link used).1.isComplete = true ↔ session.isComplete = true ∨
      session.isClosed = false ∧ ∃ datagram, .receive datagram = used := by
  cases used with
  | receive datagram =>
      cases running : session.isClosed with
      | false =>
          rw [use, receive_of_open isRaw running]
          simp [isComplete, Signals.fire]
      | true =>
          rw [use, receive_of_closed isRaw running]
          simp [isComplete]
  | recv => simp [use]
  | send => simp [use]
  | close => simp [use]

end

/-- What becomes of a raw session that stays open: what its reader is given, and then what is
queued, is what was queued and what is `given`, and nothing is refused. -/
structure Queues (before after : Session) (results : List Result) (given : List Bytes) : Prop where
  isRaw : after.isRaw = true
  running : after.isClosed = false
  kept : results.filterMap Result.datagram? ++ after.inbox = before.inbox ++ given
  bounded : before.inbox.length ≤ 256 → after.inbox.length ≤ 256
  accepted : ∀ {refusal : Option TransportError}, .handed refusal ∈ results → refusal = none

theorem Queues.trans {first second third : Session} {results others : List Result}
    {given more : List Bytes} (before : first.Queues second results given)
    (after : second.Queues third others more) :
    first.Queues third (results ++ others) (given ++ more) where
  isRaw := after.isRaw
  running := after.running
  kept := by
    rw [List.filterMap_append, List.append_assoc, after.kept, ← List.append_assoc, before.kept,
      List.append_assoc]
  bounded := after.bounded ∘ before.bounded
  accepted refused := (List.mem_append.mp refused).elim before.accepted after.accepted

/-- Until it is closed, a use of a raw session queues a datagram if there is room for it, gives the
oldest one to the reader, or does nothing. -/
theorem queues_use {session : Session} (isRaw : session.isRaw = true)
    (running : session.isClosed = false) {used : Use} (other : used ≠ .close) :
    session.Queues (session.use link used).1 [(session.use link used).2]
      (session.admits used) where
  isRaw := isRaw_use link isRaw used
  running := by rw [isClosed_use link isRaw, running, decide_eq_false other, Bool.or_self]
  kept := by
    cases used with
    | receive datagram =>
        rw [use, receive_of_open isRaw running]
        rfl
    | recv =>
        have nothing : session.admits .recv = [] := rfl
        rw [use, nothing, List.append_nil]
        cases queued : session.inbox with
        | nil => rw [recv_of_empty isRaw running queued]; exact queued
        | cons first others => rw [recv_of_queued isRaw running queued]; rfl
    | send datagram => exact (List.append_nil _).symm
    | close => exact absurd rfl other
  bounded := by
    intro bounded
    cases used with
    | receive datagram =>
        rw [use, receive_of_open isRaw running]
        change (session.inbox ++ session.admits (.receive datagram)).length ≤ 256
        simp only [admits, hasRoom, decide_eq_true_eq]
        split
        · rw [List.length_append, List.length_singleton]
          omega
        · rw [List.append_nil]
          exact bounded
    | recv =>
        rw [use]
        cases queued : session.inbox with
        | nil => rw [recv_of_empty isRaw running queued]; exact bounded
        | cons first others =>
            rw [queued, List.length_cons] at bounded
            rw [recv_of_queued isRaw running queued]
            exact Nat.le_of_succ_le bounded
    | send datagram => exact bounded
    | close => exact absurd rfl other
  accepted := by
    intro refusal refused
    cases used with
    | receive datagram =>
        rw [use, receive_of_open isRaw running] at refused
        cases List.mem_singleton.mp refused
        rfl
    | recv | send | close => cases List.mem_singleton.mp refused

theorem address_use (session : Session) (used : Use) :
    (session.use link used).1.address = session.address := by
  cases used <;> simp [use]

/-! ## What a list of uses does to a raw session -/

theorem useAll_cons (session : Session) (used : Use) (uses : List Use) :
    session.useAll link (used :: uses) =
      (((session.use link used).1.useAll link uses).1,
        (session.use link used).2 :: ((session.use link used).1.useAll link uses).2) :=
  rfl

theorem address_useAll (session : Session) (uses : List Use) :
    (session.useAll link uses).1.address = session.address := by
  induction uses generalizing session with
  | nil => rfl
  | cons used uses ih => rw [useAll_cons, ih, address_use]

section

variable {session : Session} (isRaw : session.isRaw = true)
include isRaw

theorem isRaw_useAll (uses : List Use) : (session.useAll link uses).1.isRaw = true := by
  induction uses generalizing session with
  | nil => exact isRaw
  | cons used uses ih => exact ih (isRaw_use link isRaw used)

theorem isClosed_useAll (uses : List Use) :
    (session.useAll link uses).1.isClosed = true ↔ session.isClosed = true ∨ .close ∈ uses := by
  induction uses generalizing session with
  | nil => simp [useAll]
  | cons used uses ih =>
      rw [useAll_cons, ih (isRaw_use link isRaw used), isClosed_use link isRaw, List.mem_cons,
        Bool.or_eq_true, decide_eq_true_eq, or_assoc]
      simp only [eq_comm]

/-- A raw session is complete if it was handed something before it was closed. -/
theorem isComplete_useAll (uses : List Use) :
    (session.useAll link uses).1.isComplete = true ↔
      session.isComplete = true ∨ session.isClosed = false ∧
        ∃ datagram, .receive datagram ∈ uses.takeWhile (· ≠ .close) := by
  induction uses generalizing session with
  | nil => simp [useAll]
  | cons used uses ih =>
      rw [useAll_cons, ih (isRaw_use link isRaw used), isComplete_use link isRaw,
        isClosed_use link isRaw]
      by_cases closing : used = .close
      · subst closing
        simp
      · cases session.isClosed with
        | true => simp
        | false => simp [closing, exists_or, or_assoc]

/-- Until it is closed, a raw session queues what it is handed while there is room. -/
theorem queues_useAll (running : session.isClosed = false) {uses : List Use}
    (unclosed : .close ∉ uses) :
    session.Queues (session.useAll link uses).1 (session.useAll link uses).2
      (session.admitted link uses) := by
  induction uses generalizing session with
  | nil => exact ⟨isRaw, running, (List.append_nil _).symm, id, fun refused => by cases refused⟩
  | cons used uses ih =>
      rw [List.mem_cons, not_or] at unclosed
      have first := queues_use link isRaw running (Ne.symm unclosed.1)
      exact first.trans (ih first.isRaw first.running unclosed.2)

end

variable {link}

/-- Until it is closed, a raw session is a queue of at most 256 datagrams: its reader gets, in
order, what it was handed while there was room, as far as that is not queued any more, and waits
exactly if nothing is queued; nothing is refused.  What it was handed before it was closed
completes it.  Once it is closed, all that changes is the count of what was tried: it refuses to
receive and to send, closing it succeeds, and its reader is told the end if nothing is queued. -/
theorem useAll_raw {address : Address} {mtu : UInt16} {guid : Int64} {uses : List Use}
    {last : Session} {results : List Result}
    (used : (raw address mtu guid).useAll link uses = (last, results)) :
    (.close ∉ uses →
      results.filterMap Result.datagram? ++ last.inbox =
        (raw address mtu guid).admitted link uses ∧
      last.inbox.length ≤ 256 ∧
      (last.recv.2 = .pending ↔ last.inbox = []) ∧
      ∀ refusal, .handed refusal ∈ results → refusal = none) ∧
    (last.isComplete = true ↔ ∃ datagram, .receive datagram ∈ uses.takeWhile (· ≠ .close)) ∧
    (last.isClosed = true ↔ .close ∈ uses) ∧
    (.close ∈ uses →
      (∀ datagram, last.receive datagram =
        ({ last with handed := last.handed ++ [datagram] }, some (.closed address))) ∧
      (∀ datagram, last.send link datagram = .error (.closed address)) ∧
      last.close = ({ last with closes := last.closes + 1 }, none) ∧
      (last.inbox = [] → last.recv = (last, .ended))) := by
  have raw_isRaw : (raw address mtu guid).isRaw = true := rfl
  have unclosed : (raw address mtu guid).isClosed = false := rfl
  have incomplete : (raw address mtu guid).isComplete = false := rfl
  have isRaw := isRaw_useAll link raw_isRaw uses
  have complete := isComplete_useAll link raw_isRaw uses
  have closed := isClosed_useAll link raw_isRaw uses
  have same := address_useAll link (raw address mtu guid) uses
  have queues : .close ∉ uses → _ := queues_useAll link raw_isRaw unclosed
  rw [used] at isRaw complete closed same queues
  simp only [unclosed, incomplete, Bool.false_eq_true, false_or, true_and] at complete closed
  refine ⟨?_, complete, closed, ?_⟩
  · intro noClose
    have queues := queues noClose
    refine ⟨queues.kept, queues.bounded (Nat.zero_le _), ?_, fun _ => queues.accepted⟩
    cases queued : last.inbox with
    | nil => simp [recv_of_empty queues.isRaw queues.running queued]
    | cons first others => simp [recv_of_queued queues.isRaw queues.running queued]
  · intro closes
    have shut := closed.mpr closes
    have address : last.address = address := same
    refine ⟨?_, ?_, close_of_closed isRaw shut, fun _ => recv_of_closed isRaw shut⟩
    · intro datagram
      rw [receive_of_closed isRaw shut, address]
    · intro datagram
      rw [send, if_pos shut, address]

/-- A session is handed one datagram more than it has room for, its reader takes one, and it is
handed another one. -/
def overflow : List Use :=
  List.replicate 256 (.receive [1]) ++ [.receive [2], .recv, .receive [3]]

/-- The datagram that found no room is gone, and the one that came after the reader is queued; when
the session has been closed, nothing can be sent. -/
theorem useAll_raw_of_overflow :
    (∃ last results,
      (raw (.v4 0x7F000001 4000) 1400 7).useAll Link.routed overflow = (last, results) ∧
      results.filterMap Result.datagram? = [[1]] ∧
      last.inbox = List.replicate 255 [1] ++ [[3]] ∧
      results.filterMap Result.datagram? ++ last.inbox =
        (raw (.v4 0x7F000001 4000) 1400 7).admitted Link.routed overflow) ∧
    ∃ last results,
      (raw (.v4 0x7F000001 4000) 1400 7).useAll Link.routed (overflow ++ [.close]) =
        (last, results) ∧
      last.send Link.routed [4] = .error (.closed (.v4 0x7F000001 4000)) := by
  have running := Prod.eta ((raw (.v4 0x7F000001 4000) 1400 7).useAll Link.routed overflow)
  have closed :=
    Prod.eta ((raw (.v4 0x7F000001 4000) 1400 7).useAll Link.routed (overflow ++ [.close]))
  have unclosed : .close ∉ overflow := by decide
  have closes : .close ∈ overflow ++ [.close] := by simp
  constructor
  · exact ⟨_, _, running.symm, by decide +kernel, by decide +kernel,
      ((useAll_raw running.symm).1 unclosed).1⟩
  · exact ⟨_, _, closed.symm, ((useAll_raw closed.symm).2.2.2 closes).2.1 [4]⟩

end Anteroom.Session
