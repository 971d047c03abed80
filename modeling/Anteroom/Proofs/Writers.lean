import Anteroom.Proofs.Hijacks
import Anteroom.Proofs.Pongs

/-!
# Who writes the board

A payload comes on the board in two ways.  The operator sets it, or a hijack
learns it: while the listener runs, its target answers an open probe with a pong
that decodes, and the payload, relayed, fits.  Every other step leaves the board
as it is, whatever becomes of probes.  So the board shows what the last of these
writers has written, and once the listener shuts down only the operator is left.
-/

namespace Anteroom

namespace Hijack

/-- A hijack learns the payload of a pong that comes to its open probe. -/
theorem hear_of_pong {hijack : Hijack} {probe : OpenProbe} {framing : PongFraming}
    {datagram : Bytes} {pong : Pong} (opened : hijack.probe = some probe)
    (decoded : Pong.decode framing datagram.received = .ok pong) :
    hijack.hear framing probe.serial datagram =
      ({ hijack with probe := none }, some pong.payload) := by
  have judged : framing.judge datagram = some (.ok pong.payload) := by
    rw [PongFraming.judge, decoded]
  simp only [hear, opened, judged, if_true]

/-- A hijack learns nothing else. -/
theorem pong_of_hear {hijack : Hijack} {framing : PongFraming} {serial : Nat}
    {datagram payload : Bytes} (gained : (hijack.hear framing serial datagram).2 = some payload) :
    ∃ probe pong, hijack.probe = some probe ∧ probe.serial = serial ∧
      Pong.decode framing datagram.received = .ok pong ∧ pong.payload = payload := by
  rw [hear] at gained
  split at gained
  · cases gained
  · rename_i probe opened
    split at gained
    · rename_i same
      split at gained
      · cases gained
      · rename_i learned judged
        cases gained
        rw [PongFraming.judge] at judged
        split at judged
        · rename_i pong decoded
          cases judged
          exact ⟨probe, pong, opened, same, decoded, rfl⟩
        · cases judged
        · cases judged
      · cases gained
    · cases gained

end Hijack

namespace Listener

/-- The steps that write on the board, with what they write. -/
inductive Writes (l : Listener) : Step → Bytes → Prop
  /-- The operator sets a payload. -/
  | operator {payload : Bytes} (held : l.released = false) (fits : payload.length ≤ 32767) :
      l.Writes (.command (.setPong payload)) payload
  /-- The target of a hijack answers its open probe with a pong. -/
  | hijack {hijack : Hijack} {probe : OpenProbe} {datagram : Bytes} {pong : Pong}
      (running : l.shutdown = false) (member : hijack ∈ l.hijacks)
      (opened : hijack.probe = some probe)
      (decoded : Pong.decode l.setup.config.framing (datagram.take 1500) = .ok pong)
      (fits : (Descriptor.relay pong.payload l.setup.id).length ≤ 32767) :
      l.Writes (.command (.answerProbe hijack.number probe.serial datagram))
        (Descriptor.relay pong.payload l.setup.id)

theorem learn_of_fits (l : Listener) (number : Nat) {payload : Bytes}
    (fits : (Descriptor.relay payload l.setup.id).length ≤ 32767) :
    (l.learn number payload).board.payload = Descriptor.relay payload l.setup.id ∧
      (l.learn number payload).board.writes = l.board.writes + 1 := by
  have stored : l.board.store (Descriptor.relay payload l.setup.id) =
      .ok ⟨_, l.board.writes + 1, fits⟩ := PongBoard.store_eq_ok_iff.mpr ⟨fits, rfl, rfl⟩
  rw [learn, stored]
  exact ⟨rfl, rfl⟩

theorem Manned.findIdx? {l : Listener} (manned : l.Manned) (running : l.shutdown = false)
    {index : Nat} {hijack : Hijack} (found : l.hijacks[index]? = some hijack) :
    l.hijacks.findIdx? (·.number = hijack.number) = some index := by
  rcases List.getElem?_eq_some_iff.mp found with ⟨inside, rfl⟩
  refine List.findIdx?_eq_some_iff_getElem.mpr ⟨inside, decide_eq_true rfl, ?_⟩
  intro earlier before same
  have numbered := manned.placed running index _ found
  have there : l.hijacks[earlier]? = some l.hijacks[earlier] := List.getElem?_eq_getElem _
  have other := manned.placed running earlier _ there
  have equal := of_decide_eq_true same
  omega

/-- A hijack of a running listener is found by its number. -/
theorem Manned.hear_eq {l : Listener} (manned : l.Manned) (running : l.shutdown = false)
    {index : Nat} {hijack heard : Hijack} (found : l.hijacks[index]? = some hijack) {serial : Nat}
    {datagram payload : Bytes}
    (hears : hijack.hear l.setup.config.framing serial datagram = (heard, some payload)) :
    l.hear hijack.number serial datagram =
      ({ l with hijacks := l.hijacks.set index heard } : Listener).learn hijack.number payload := by
  simp only [hear, running, manned.findIdx? running found, found, hears, Bool.false_eq_true,
    if_false]

/-- What a writer writes is on the board afterwards, and counts as one write. -/
theorem Writes.board {l next : Listener} {step : Step} {payload : Bytes}
    (writes : l.Writes step payload) (manned : l.Manned) (after : l.after? step = some next) :
    next.board.payload = payload ∧ next.board.writes = l.board.writes + 1 := by
  cases writes with
  | operator held fits =>
      cases after
      rw [issue, ifHeld, held, setPong_of_fits l fits]
      exact ⟨rfl, rfl⟩
  | hijack running member opened decoded fits =>
      cases after
      obtain ⟨index, found⟩ := List.mem_iff_getElem?.mp member
      rw [issue, manned.hear_eq running found (Hijack.hear_of_pong opened decoded)]
      exact learn_of_fits _ _ fits

/-- A step that is no writer's leaves the board as it is. -/
theorem Went.board {l next : Listener} {step : Step} (went : Went l step next)
    (unwritten : ∀ payload, ¬ l.Writes step payload) : next.board = l.board := by
  cases went with
  | command issued =>
      cases issued with
      | learned stored running found gained =>
          obtain ⟨probe, pong, opened, rfl, decoded, rfl⟩ := Hijack.pong_of_hear gained
          have fits := (PongBoard.store_eq_ok_iff.mp stored).1
          exact absurd (.hijack running (List.mem_of_getElem? found) opened decoded fits)
            (unwritten _)
      | wrote stored held =>
          have fits := (PongBoard.store_eq_ok_iff.mp stored).1
          exact absurd (.operator held fits) (unwritten _)
      | _ => rfl
  | move moved => exact moved.board
  | closeSessions => rfl

/-- A probe that is answered with anything but a pong leaves the board as it is. -/
theorem hear_of_failed {l : Listener} {number serial : Nat} {datagram : Bytes}
    {error : DecodeError}
    (failed : Pong.decode l.setup.config.framing (datagram.take 1500) = .error error) :
    (l.issue (.answerProbe number serial datagram)).board = l.board := by
  have went : Went l (.command (.answerProbe number serial datagram)) _ :=
    .command (issued_issue l (.answerProbe number serial datagram))
  apply went.board
  intro payload writes
  cases writes with
  | hijack _ _ _ decoded => cases failed.symm.trans decoded

/-! ## The last writer -/

/-- No step of a schedule writes on the board. -/
def Unwritten (l : Listener) (steps : List Step) : Prop :=
  ∀ before step after middle payload, steps = before ++ step :: after →
    l.follow before = some middle → ¬ middle.Writes step payload

/-- The last step of a schedule that writes on the board writes this payload. -/
def WroteLast (l : Listener) (steps : List Step) (payload : Bytes) : Prop :=
  ∃ before step after middle next, steps = before ++ step :: after ∧
    l.follow before = some middle ∧ middle.Writes step payload ∧
    middle.after? step = some next ∧ next.Unwritten after

theorem unwritten_nil (l : Listener) : l.Unwritten [] := by
  intro before step after _ _ split
  cases before with
  | nil => cases split
  | cons => cases split

theorem Unwritten.cons {l next : Listener} {step : Step} {steps : List Step}
    (rest : next.Unwritten steps) (after : l.after? step = some next)
    (first : ∀ payload, ¬ l.Writes step payload) : l.Unwritten (step :: steps) := by
  intro before acting later middle payload split followed
  cases before with
  | nil =>
      cases split
      cases followed
      exact first payload
  | cons head before =>
      cases split
      rcases follow_cons_eq_some_iff.mp followed with ⟨other, same, rest'⟩
      cases after.symm.trans same
      exact rest before acting later middle payload rfl rest'

theorem WroteLast.cons {l next : Listener} {step : Step} {steps : List Step} {payload : Bytes}
    (rest : next.WroteLast steps payload) (after : l.after? step = some next) :
    l.WroteLast (step :: steps) payload := by
  obtain ⟨before, acting, later, middle, last, rfl, followed, writes, goes, quiet⟩ := rest
  exact ⟨step :: before, acting, later, middle, last, rfl,
    follow_cons_eq_some_iff.mpr ⟨next, after, followed⟩, writes, goes, quiet⟩

/-- The board shows what the last writer has written, or what it showed before. -/
theorem board_follow {l last : Listener} {steps : List Step} (manned : l.Manned)
    (followed : l.follow steps = some last) :
    l.Unwritten steps ∧ last.board = l.board ∨ l.WroteLast steps last.board.payload := by
  induction steps generalizing l with
  | nil =>
      cases followed
      exact .inl ⟨unwritten_nil _, rfl⟩
  | cons step steps ih =>
      rcases follow_cons_eq_some_iff.mp followed with ⟨next, after, rest⟩
      have went := went_of_after? after
      rcases ih (went.manned manned) rest with ⟨quiet, same⟩ | wrote
      -- Nothing writes later, so the first step is the last writer, or there is none.
      · by_cases writes : ∃ payload, l.Writes step payload
        · obtain ⟨payload, writes⟩ := writes
          obtain ⟨shows, _⟩ := writes.board manned after
          rw [same, shows]
          exact .inr ⟨[], step, steps, l, next, rfl, rfl, writes, after, quiet⟩
        · have first (payload : Bytes) : ¬ l.Writes step payload :=
            fun written => writes ⟨payload, written⟩
          exact .inl ⟨quiet.cons after first, same.trans (went.board first)⟩
      · exact .inr (wrote.cons after)

/-- Along every schedule, with any hijacks and any writes of the operator, the board shows the
payload that was written last: one that the operator has set and that fits, or the relayed payload
of a pong with which the target of a hijack has answered an open probe.  A step that is neither
leaves the board, and with it what subscribers see, as it is; among these are all answers that are
no pongs and all probes that fail or run out of time.  A hijack of a running listener takes a tick
in every period all the same, and sends the next probe if its target can be reached.  Once the
listener is closed, or has been let go of and settled, it shuts down, and from then on no probe is
sent and no payload is written by a hijack, whatever still arrives, and none can be started. -/
theorem hijacks_write_until_shutdown {setup : Setup} {steps : List Step} {l : Listener}
    (followed : (start setup).follow steps = some l) :
    ((start setup).Unwritten steps ∧ l.board.payload = [] ∨
      (start setup).WroteLast steps l.board.payload) ∧
    (∀ step next, l.after? step = some next →
      (∀ payload, l.Writes step payload →
        next.board.payload = payload ∧ next.board.writes = l.board.writes + 1) ∧
      ((∀ payload, ¬ l.Writes step payload) → next.board = l.board)) ∧
    (∀ number serial datagram error,
      Pong.decode setup.config.framing (datagram.take 1500) = .error error →
        (l.issue (.answerProbe number serial datagram)).board = l.board) ∧
    (∀ move next, l.move? move = some next → next.board = l.board) ∧
    (∀ hijack ∈ l.hijacks, ∀ later last, l.follow later = some last → last.Settled →
      last.shutdown = false → l.now + setup.config.hijackInterval.nanos ≤ last.now →
        ∃ goes ∈ last.hijacks, goes.number = hijack.number ∧ goes.target = hijack.target ∧
          hijack.ticker.next < goes.ticker.next ∧
          (setup.link.reaches hijack.target = true →
            hijack.sent < goes.sent ∧ .probed hijack.number hijack.sent ∈ last.events)) ∧
    (l.closed = true ∨ l.released = true ∧ l.hasPendingCall = false ∧ l.Settled →
      l.shutdown = true) ∧
    (l.shutdown = true → ∀ later last, l.follow later = some last →
      (∃ events, last.events = l.events ++ events ∧ ∀ event ∈ events, event.hijack? = none) ∧
      last.hijackCount = l.hijackCount ∧
      ∀ names endpoint, last.hijack names endpoint = .error .closed ∧
        last.perform (.hijack names endpoint) = last) := by
  have manned := manned_follow followed
  have same : l.setup = setup := setup_follow followed
  refine ⟨?_, ?_, ?_, ?_, ?_, ?_, ?_⟩
  · rcases board_follow (manned_start setup) followed with ⟨quiet, still⟩ | wrote
    · exact .inl ⟨quiet, congrArg PongBoard.payload still⟩
    · exact .inr wrote
  · intro step next after
    exact ⟨fun payload writes => writes.board manned after, (went_of_after? after).board⟩
  · intro number serial datagram error failed
    exact hear_of_failed (same ▸ failed)
  · exact fun move next moves => (moved_of_move? moves).board
  · intro hijack member later last went settled running passed
    obtain ⟨goes, there, number, target, ticked⟩ :=
      manned.goes_on went settled running (same ▸ passed) member
    refine ⟨goes, there, number, target, ticked.tick, fun reaches => ?_⟩
    have sends := ticked.sent (same ▸ reaches)
    have whole : (start setup).follow (steps ++ later) = some last :=
      follow_append_eq_some_iff.mpr ⟨l, followed, went⟩
    exact ⟨sends, number ▸ (manned_follow whole).told goes there _ sends⟩
  · rintro (closed | ⟨released, idle, settled⟩)
    · exact (closesOnce_follow followed).shut closed
    · exact settled.shutdown_of_released released idle
  · intro shut later last went
    obtain ⟨quiet, count⟩ := unhijacked_follow went shut
    exact ⟨quiet, count, last.hijack_of_shut (follow_shutdown shut went)⟩

/-- A hijack starts and sends its first probe. -/
def probing : List Step :=
  [.command (.hijack Names.loopback "127.0.0.1:19133"), .move (.hijack 0)]

/-- A hijack that gets no answer sends another probe after a second.  One that has learned a payload
learns nothing more when the pong for its second probe comes after the listener was closed. -/
theorem hijacks_write_until_shutdown_of_probes :
    (∃ l last, (start .plain).follow probing = some l ∧
      l.follow [.command (.advance 1000000000), .move (.hijack 0), .move (.hijack 0)] =
        some last ∧
      .probed 0 1 ∈ last.events) ∧
    ∃ l last, (start .plain).follow (probing ++
        [.command (.answerProbe 0 0 (Pong.encode .lengthPrefixed ⟨5, 9, [0x61]⟩)),
          .command (.advance 1000000000), .move (.hijack 0), .command .close]) = some l ∧
      (start .plain).WroteLast (probing ++
        [.command (.answerProbe 0 0 (Pong.encode .lengthPrefixed ⟨5, 9, [0x61]⟩)),
          .command (.advance 1000000000), .move (.hijack 0), .command .close]) [0x61] ∧
      l.follow [.command (.answerProbe 0 1 (Pong.encode .lengthPrefixed ⟨5, 9, [0x62]⟩))] =
        some last ∧
      (∃ events, last.events = l.events ++ events ∧ ∀ event ∈ events, event.hijack? = none) ∧
      last.hijack Names.loopback "127.0.0.1:19133" = .error .closed := by
  constructor
  · have some? : ((start .plain).follow probing).any (fun l =>
        l.hijacks.any (fun hijack => hijack.number = 0 ∧ hijack.sent = 1 ∧
          Setup.plain.link.reaches hijack.target) ∧
        (l.follow [.command (.advance 1000000000), .move (.hijack 0), .move (.hijack 0)]).any
          fun last => last.step?.isNone ∧ last.shutdown = false ∧
            l.now + Setup.plain.config.hijackInterval.nanos ≤ last.now) = true := by
      decide +kernel
    rcases (Option.any_eq_true _ _).mp some? with ⟨l, followed, facts⟩
    rcases of_decide_eq_true facts with ⟨hijacks, lasts⟩
    rcases List.any_eq_true.mp hijacks with ⟨hijack, member, isFirst⟩
    rcases of_decide_eq_true isFirst with ⟨number, sent, reaches⟩
    rcases (Option.any_eq_true _ _).mp lasts with ⟨last, went, facts⟩
    rcases of_decide_eq_true facts with ⟨quiet, running, passed⟩
    have settled := step?_eq_none_iff.mp (Option.isNone_iff_eq_none.mp quiet)
    obtain ⟨_, _, _, _, goesOn, _⟩ := hijacks_write_until_shutdown followed
    obtain ⟨goes, _, _, _, _, sends⟩ := goesOn hijack member _ last went settled running passed
    exact ⟨l, last, followed, went, number ▸ sent ▸ (sends reaches).2⟩
  · have some? : ((start .plain).follow (probing ++
        [.command (.answerProbe 0 0 (Pong.encode .lengthPrefixed ⟨5, 9, [0x61]⟩)),
          .command (.advance 1000000000), .move (.hijack 0), .command .close])).any (fun l =>
            l.closed = true ∧ l.board.payload = [0x61]) = true := by
      decide +kernel
    rcases (Option.any_eq_true _ _).mp some? with ⟨l, followed, facts⟩
    rcases of_decide_eq_true facts with ⟨closed, shows⟩
    obtain ⟨wrote, _, _, _, _, shuts, stops⟩ := hijacks_write_until_shutdown followed
    have went : l.follow
      [.command (.answerProbe 0 1 (Pong.encode .lengthPrefixed ⟨5, 9, [0x62]⟩))] = some _ := rfl
    obtain ⟨silent, _, refuses⟩ := stops (shuts (.inl closed)) _ _ went
    rw [shows] at wrote
    rcases wrote with ⟨_, empty⟩ | wrote
    · cases empty
    · exact ⟨l, _, followed, wrote, went, silent, (refuses _ _).1⟩

end Listener

end Anteroom
