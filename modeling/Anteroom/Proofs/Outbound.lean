import Anteroom.Proofs.Inbox

/-!
# What raw sessions send

The MTU of a session counts the headers with the datagram.  What a raw session
puts on the wire was given to it before it was closed, and fits its MTU, except
that the empty datagram passes for fitting every MTU, also one that the headers
alone exceed.  What does not fit is refused.
-/

namespace Anteroom.Session

/-- The datagram that a use gives to the session to send. -/
def Use.outgoing : Use → List Bytes
  | .send datagram => [datagram]
  | _ => []

/-- The datagram that a use with this result has put on the wire. -/
def Use.emits : Use → Result → List Bytes
  | .send datagram, .sent (.ok ()) => [datagram]
  | _, _ => []

/-- What the peer gets of a list of uses with these results. -/
def emitted : List Use → List Result → List Bytes
  | used :: uses, result :: results => used.emits result ++ emitted uses results
  | _, _ => []

/-- Whether a datagram is empty or does not exceed an MTU with the headers. -/
def passes (mtu : UInt16) (datagram : Bytes) : Bool :=
  datagram = [] ∨ datagram.length + 28 ≤ mtu.toNat

theorem passes_iff {mtu : UInt16} {datagram : Bytes} :
    passes mtu datagram = true ↔ ¬ Mtu.room mtu < datagram.length := by
  rw [passes, decide_eq_true_eq, Mtu.room_lt_iff, ← List.length_eq_zero_iff]
  omega

theorem passes_eq_false_iff {mtu : UInt16} {datagram : Bytes} :
    passes mtu datagram = false ↔ datagram ≠ [] ∧ mtu.toNat < datagram.length + 28 := by
  rw [passes, decide_eq_false_iff_not, not_or, Nat.not_le]

variable {link : Link} {session : Session}

/-! ## One use -/

/-- What an open session makes of a datagram that it is to send. -/
theorem send_of_open (running : session.isClosed = false) (datagram : Bytes) :
    session.send link datagram =
      if passes session.mtu datagram then
        if link.reaches session.address then .ok () else .error (.sendFailed Link.fault)
      else .error (.oversized datagram.length session.mtu) := by
  rw [send, running, if_neg Bool.false_ne_true]
  by_cases fits : passes session.mtu datagram = true
  · rw [if_pos fits, if_neg (passes_iff.mp fits)]
  · rw [if_neg fits, if_pos (Decidable.not_not.mp (mt passes_iff.mpr fits))]

/-- An open session refuses a datagram for its size exactly if it does not pass. -/
theorem send_eq_oversized_iff (running : session.isClosed = false) {datagram : Bytes} {size : Nat}
    {mtu : UInt16} :
    session.send link datagram = .error (.oversized size mtu) ↔
      passes session.mtu datagram = false ∧ size = datagram.length ∧ mtu = session.mtu := by
  rw [send_of_open running]
  cases passes session.mtu datagram with
  | false => simp [eq_comm]
  | true => cases link.reaches session.address <;> simp

/-- Until it is closed, a use of a session puts on the wire the datagram that it gives the session
to send, if this passes and the peer can be reached. -/
theorem emits_use (running : session.isClosed = false) (used : Use) :
    used.emits (session.use link used).2 =
      used.outgoing.filter fun datagram =>
        link.reaches session.address && passes session.mtu datagram := by
  cases used with
  | send datagram =>
      rw [use, send_of_open running, Use.outgoing, List.filter_cons, List.filter_nil]
      cases passes session.mtu datagram with
      | false => simp [Use.emits]
      | true => cases link.reaches session.address <;> simp [Use.emits]
  | receive | recv | close => rfl

theorem emits_use_of_closed (closed : session.isClosed = true) (used : Use) :
    used.emits (session.use link used).2 = [] := by
  cases used with
  | send datagram =>
      rw [use, send, closed, if_pos rfl]
      rfl
  | receive | recv | close => rfl

section

variable (isRaw : session.isRaw = true)
include isRaw

/-- No use of a raw session changes its MTU. -/
theorem mtu_use (used : Use) : (session.use link used).1.mtu = session.mtu := by
  cases used with
  | receive datagram =>
      cases running : session.isClosed with
      | false => rw [use, receive_of_open isRaw running]
      | true => rw [use, receive_of_closed isRaw running]
  | recv =>
      cases running : session.isClosed with
      | false =>
          rw [use]
          cases queued : session.inbox with
          | nil => rw [recv_of_empty isRaw running queued]
          | cons first others => rw [recv_of_queued isRaw running queued]
      | true => rw [use, recv_of_closed isRaw running]
  | send | close => rfl

/-! ## A list of uses -/

theorem mtu_useAll (uses : List Use) : (session.useAll link uses).1.mtu = session.mtu := by
  induction uses generalizing session with
  | nil => rfl
  | cons used uses ih => rw [useAll_cons, ih (isRaw_use link isRaw used), mtu_use isRaw]

/-- A session that is closed puts nothing on the wire. -/
theorem emitted_of_closed (closed : session.isClosed = true) (uses : List Use) :
    emitted uses (session.useAll link uses).2 = [] := by
  induction uses generalizing session with
  | nil => rfl
  | cons used uses ih =>
      have still : (session.use link used).1.isClosed = true := by
        rw [isClosed_use link isRaw, closed, Bool.true_or]
      rw [useAll_cons, emitted, emits_use_of_closed closed, List.nil_append]
      exact ih (isRaw_use link isRaw used) still

/-- What a session puts on the wire: what it is given to send until it is closed, as far as that
passes and the peer can be reached. -/
theorem emitted_of_open (running : session.isClosed = false) (uses : List Use) :
    emitted uses (session.useAll link uses).2 =
      ((uses.takeWhile (· ≠ .close)).flatMap Use.outgoing).filter fun datagram =>
        link.reaches session.address && passes session.mtu datagram := by
  induction uses generalizing session with
  | nil => rfl
  | cons used uses ih =>
      by_cases closing : used = .close
      · subst closing
        have closed : (session.use link .close).1.isClosed = true := isClosed_close session
        rw [useAll_cons, emitted, List.takeWhile_cons_of_neg (by simp)]
        exact emitted_of_closed (isRaw_use link isRaw .close) closed uses
      · have still : (session.use link used).1.isClosed = false := by
          rw [isClosed_use link isRaw, running, decide_eq_false closing, Bool.or_false]
        have tail := ih (isRaw_use link isRaw used) still
        rw [mtu_use isRaw, address_use] at tail
        rw [useAll_cons, emitted, emits_use running, tail,
          List.takeWhile_cons_of_pos (by simpa using closing), List.flatMap_cons,
          List.filter_append]

/-- What a session puts on the wire was given to it to send before it was closed, and passes. -/
theorem mem_emitted {uses : List Use} {datagram : Bytes}
    (member : datagram ∈ emitted uses (session.useAll link uses).2) :
    session.isClosed = false ∧ .send datagram ∈ uses.takeWhile (· ≠ .close) ∧
      passes session.mtu datagram = true := by
  cases running : session.isClosed with
  | true =>
      rw [emitted_of_closed isRaw running] at member
      cases member
  | false =>
      rw [emitted_of_open isRaw running, List.mem_filter, List.mem_flatMap, Bool.and_eq_true]
        at member
      rcases member with ⟨⟨use, among, given⟩, _, fits⟩
      refine ⟨rfl, ?_, fits⟩
      cases use with
      | send other =>
          rw [List.mem_singleton.mp given]
          exact among
      | receive | recv | close => cases given

end

/-- What the peer gets of a raw session was given to it to send before it was closed, and does not
exceed the MTU with the headers unless it is empty; of what was given to it then, nothing else is
missing if the peer can be reached.  An open session refuses a datagram for its size exactly if it
is not empty and exceeds the MTU with the headers, and sends nothing then. -/
theorem emitted_fits {last : Session} {uses : List Use} {results : List Result}
    (isRaw : session.isRaw = true) (used : session.useAll link uses = (last, results)) :
    (∀ datagram ∈ emitted uses results, session.isClosed = false ∧
      .send datagram ∈ uses.takeWhile (· ≠ .close) ∧
      (datagram = [] ∨ datagram.length + 28 ≤ session.mtu.toNat)) ∧
    (session.isClosed = false → link.reaches session.address = true →
      emitted uses results =
        ((uses.takeWhile (· ≠ .close)).flatMap Use.outgoing).filter (passes session.mtu)) ∧
    (last.isClosed = false → ∀ datagram,
      (∀ size mtu, last.send link datagram = .error (.oversized size mtu) ↔
        (datagram ≠ [] ∧ session.mtu.toNat < datagram.length + 28) ∧
          size = datagram.length ∧ mtu = session.mtu) ∧
      (datagram ≠ [] ∧ session.mtu.toNat < datagram.length + 28 →
        (last.use link (.send datagram)).1 = last ∧
        (Use.send datagram).emits (last.use link (.send datagram)).2 = [])) := by
  obtain ⟨rfl, rfl⟩ := Prod.ext_iff.mp used
  refine ⟨?_, ?_, ?_⟩
  · intro datagram member
    rcases mem_emitted isRaw member with ⟨running, among, fits⟩
    exact ⟨running, among, of_decide_eq_true fits⟩
  · intro running reached
    rw [emitted_of_open isRaw running]
    simp only [reached, Bool.true_and]
  · intro running datagram
    have refusal : ∀ size mtu, (session.useAll link uses).1.send link datagram =
        .error (.oversized size mtu) ↔
          (datagram ≠ [] ∧ session.mtu.toNat < datagram.length + 28) ∧
            size = datagram.length ∧ mtu = session.mtu := by
      intro size mtu
      rw [send_eq_oversized_iff running, mtu_useAll isRaw, passes_eq_false_iff]
    refine ⟨refusal, ?_⟩
    intro large
    rw [use, (refusal _ _).mpr ⟨large, rfl, rfl⟩]
    exact ⟨rfl, rfl⟩

/-- Of a datagram that is too large, one that just fits and one that comes too late, the peer gets
the second. -/
theorem emitted_fits_of_limit :
    ∃ last results,
      (raw (.v4 0x7F000001 4000) 100 7).useAll Link.routed
        [.send (List.replicate 73 0), .send (List.replicate 72 0), .close, .send [0]] =
          (last, results) ∧
      emitted [.send (List.replicate 73 0), .send (List.replicate 72 0), .close, .send [0]]
        results = [List.replicate 72 0] := by
  have used := Prod.eta ((raw (.v4 0x7F000001 4000) 100 7).useAll Link.routed
    [.send (List.replicate 73 0), .send (List.replicate 72 0), .close, .send [0]])
  exact ⟨_, _, used.symm, ((emitted_fits rfl used.symm).2.1 rfl rfl).trans (by decide)⟩

/-- A session whose MTU the headers alone exceed sends the empty datagram. -/
theorem empty_datagram_exceeds_mtu :
    ∃ last results,
      (raw (.v4 0x7F000001 4000) 20 7).useAll Link.routed [.send []] = (last, results) ∧
      emitted [.send []] results = [[]] ∧ last.isClosed = false ∧
      (∀ size mtu, last.send Link.routed [] ≠ .error (.oversized size mtu)) ∧
      (20 : UInt16).toNat < ([] : Bytes).length + 28 :=
  ⟨_, _, rfl, rfl, rfl, fun _ _ => nofun, by decide⟩

end Anteroom.Session
