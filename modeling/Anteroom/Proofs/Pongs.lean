import Anteroom.Listener.Builder
import Anteroom.Proofs.Chronicle
import Anteroom.Proofs.Codec

/-!
# Pongs

The board shows the payload that was written last, by whoever it was, and never
one that is longer than a pong may carry; a payload that is refused changes
nothing.  A ping from a peer without a session is answered with one datagram,
from which the sender reads its own timestamp, the id of the listener and the
payload that the board shows at that moment, in the framing of the protocol
version that was chosen last for the listener.
-/

namespace Anteroom

/-- The payload that was written on the board. -/
def Event.written? : Event → Option Bytes
  | .written _ payload => some payload
  | _ => none

/-- The protocol version that comes with a choice. -/
def Choice.version? : Choice → Option UInt8
  | .endpoint _ => none
  | .config chosen => some chosen.protocolVersion
  | .protocolVersion version => some version

/-- The protocol version that was chosen last, or the default. -/
def chosenVersion (choices : List Choice) : UInt8 :=
  (choices.filterMap Choice.version?).getLast?.getD minecraftProtocol

theorem PongBoard.store_eq_ok_iff {board written : PongBoard} {payload : Bytes} :
    board.store payload = .ok written ↔
      payload.length ≤ 32767 ∧ written.payload = payload ∧ written.writes = board.writes + 1 := by
  rw [store]
  split
  · rename_i fits
    constructor
    · intro stored
      cases stored
      exact ⟨fits, rfl, rfl⟩
    · rintro ⟨_, rfl, writes⟩
      rw [← writes]
  · rename_i long
    simp only [reduceCtorEq, false_iff]
    intro stored
    exact long stored.1

theorem PongBoard.store_eq_error {board : PongBoard} {payload : Bytes}
    (long : 32767 < payload.length) :
    board.store payload = .error (.pongPayloadTooLarge payload.length 32767) :=
  dif_neg (Nat.not_le.mpr long)

namespace Builder

theorem protocolVersion_foldl (choices : List Choice) (builder : Builder) :
    (choices.foldl choose builder).config.protocolVersion =
      (choices.filterMap Choice.version?).getLast?.getD builder.config.protocolVersion := by
  induction choices generalizing builder with
  | nil => rfl
  | cons choice choices ih =>
      rw [List.foldl_cons, ih]
      cases choice with
      | endpoint endpoint => rfl
      | config chosen =>
          have version : (Choice.config chosen).version? = some chosen.protocolVersion := rfl
          rw [List.filterMap_cons_some version, List.getLast?_cons]
          rfl
      | protocolVersion chosen =>
          have version : (Choice.protocolVersion chosen).version? = some chosen := rfl
          rw [List.filterMap_cons_some version, List.getLast?_cons]
          rfl

theorem protocolVersion_setup (choices : List Choice) (id : Int64) (link : Link)
    (plan : Nat → Plan) :
    ((ofChoices choices).setup id link plan).protocolVersion = chosenVersion choices :=
  protocolVersion_foldl choices {}

/-- A listener starts with what was chosen for it. -/
theorem eq_start_of_listen {builder : Builder} {names : Names} {id : Int64} {link : Link}
    {plan : Nat → Plan} {l : Listener} (started : builder.listen names id link plan = .ok l) :
    l = .start (builder.setup id link plan) := by
  rw [listen, Listener.listen] at started
  split at started
  · cases started
  · split at started
    · cases started
    · split at started
      · cases started
        rfl
      · cases started

end Builder

namespace Listener

/-! ## The board -/

/-- The payloads that have been written on the board, oldest first. -/
def written (l : Listener) : List Bytes :=
  l.events.filterMap Event.written?

/-- The board shows what was written last, and all that was written fits in a pong. -/
structure Posted (l : Listener) : Prop where
  payload : l.board.payload = l.written.getLast?.getD []
  writes : l.board.writes = l.written.length
  fits : ∀ payload ∈ l.written, payload.length ≤ 32767

theorem posted_start (setup : Setup) : (start setup).Posted where
  payload := rfl
  writes := rfl
  fits := List.forall_mem_nil _

/-- A step that leaves the board alone. -/
theorem Posted.keep {l next : Listener} (posted : l.Posted) (board : next.board = l.board)
    (written : next.written = l.written) : next.Posted where
  payload := by rw [board, written, posted.payload]
  writes := by rw [board, written, posted.writes]
  fits := written ▸ posted.fits

theorem Posted.write {l next : Listener} (posted : l.Posted) {payload : Bytes}
    (stored : l.board.store payload = .ok next.board)
    (written : next.written = l.written ++ [payload]) : next.Posted := by
  rcases PongBoard.store_eq_ok_iff.mp stored with ⟨fits, shows, writes⟩
  constructor
  · rw [shows, written, List.getLast?_concat, Option.getD_some]
  · rw [writes, written, posted.writes, List.length_append, List.length_singleton]
  · rw [written]
    exact List.forall_mem_append.mpr ⟨posted.fits, List.forall_mem_singleton.mpr fits⟩

/-- Of a step that is no command it is not told that anything is written. -/
theorem Tells.written {l next : Listener} {step : Step} {events : List Event}
    (tells : l.Tells step events next) (other : ∀ command, step ≠ .command command) :
    next.written = l.written := by
  have nothing : events.filterMap Event.written? = [] := by
    rw [List.filterMap_eq_nil_iff]
    intro event member
    have told := tells.told event member
    cases event with
    | written hijack payload =>
        cases hijack with
        | none => exact absurd told (other _)
        | some number =>
            rcases told with ⟨serial, datagram, same⟩
            exact absurd same (other _)
    | _ => rfl
  rw [Listener.written, tells.events, List.filterMap_append, nothing, List.append_nil]
  rfl

theorem Moved.board {l next : Listener} {move : Move} (moved : Moved l move next) :
    next.board = l.board := by
  cases moved with
  | handled => rw [(handled_handle _ _ _).eq_update]
  | _ => rfl

theorem Went.posted {l next : Listener} {step : Step} (went : Went l step next)
    (posted : l.Posted) : next.Posted := by
  have told := went.told
  cases went with
  | command issued =>
      have new (event : Event) : (l.record event).written = l.written ++ event.written?.toList := by
        rw [written, events_record, List.filterMap_append]
        cases event <;> rfl
      cases issued with
      | learned stored => exact posted.write stored (new _)
      | wrote stored => exact posted.write stored (new _)
      | sent => exact posted.keep rfl ((new _).trans (List.append_nil _))
      | _ => exact posted.keep rfl rfl
  | move moved =>
      rcases told with ⟨events, tells⟩
      exact posted.keep moved.board (tells.written nofun)
  | closeSessions =>
      rcases told with ⟨events, tells⟩
      exact posted.keep rfl (tells.written nofun)

theorem posted_follow {setup : Setup} {steps : List Step} {l : Listener}
    (followed : (start setup).follow steps = some l) : l.Posted :=
  follow_induction (fun _ _ _ _ posted went => went.posted posted) (posted_start setup) followed

/-- A payload that is refused changes nothing. -/
theorem perform_setPong_of_long (l : Listener) {payload : Bytes} (long : 32767 < payload.length) :
    l.setPong payload = .error (.pongPayloadTooLarge payload.length 32767) ∧
      l.perform (.setPong payload) = l := by
  have refused : l.setPong payload = .error (.pongPayloadTooLarge payload.length 32767) := by
    rw [setPong, PongBoard.store_eq_error long]
    rfl
  refine ⟨refused, ?_⟩
  rw [perform, refused, ifHeld]
  split <;> rfl

theorem learn_of_long (l : Listener) (number : Nat) {payload : Bytes}
    (long : 32767 < (Descriptor.relay payload l.setup.id).length) : l.learn number payload = l := by
  simp only [learn, PongBoard.store_eq_error long]

theorem setPong_of_fits (l : Listener) {payload : Bytes} (fits : payload.length ≤ 32767) :
    l.setPong payload =
      .ok (({ l with board := ⟨payload, l.board.writes + 1, fits⟩ } : Listener).record
        (.written none payload)) := by
  have stored : l.board.store payload = .ok ⟨payload, l.board.writes + 1, fits⟩ :=
    PongBoard.store_eq_ok_iff.mpr ⟨fits, rfl, rfl⟩
  rw [setPong, stored]
  rfl

/-! ## Pings -/

theorem decode_pong (l : Listener) (sendTimestamp : Int64) :
    Pong.decode l.setup.config.framing (l.pong sendTimestamp) =
      .ok { sendTimestamp, serverGuid := l.setup.id, payload := l.board.payload } :=
  Pong.decode_encode _ (Nat.lt_of_le_of_lt l.board.length_le (by decide))

/-- A ping of a peer without a session is answered with a pong, if the peer can be reached. -/
theorem handle_ping {l : Listener} {peer : Address} {datagram : Bytes}
    {sendTimestamp clientGuid : Int64} (unregistered : l.sessionOf? peer = none)
    (decoded : Message.decodeInbound datagram = .ok (.unconnectedPing sendTimestamp clientGuid)) :
    l.handle peer datagram =
      l.recordAll [.handled peer datagram none,
        if l.setup.link.reaches peer then .sent peer (l.pong sendTimestamp) none
        else .reported peer (.send "unconnected pong" Link.fault)] := by
  rw [handle_of_unregistered unregistered decoded, answer]
  exact reply_record_id l _ peer _ _

/-- Whatever was chosen for a listener, and along every schedule, a ping is answered with one
datagram to its sender: the pong with the ping's timestamp, the id of the listener and the payload
written last, in the framing of the protocol version chosen last.  The datagrams that are pings
have one of two leading bytes, and any bytes may follow their fields.  No payload that is written
is longer than 32767 bytes, so its length does not wrap; one that is refused, whether the operator
or a hijack brings it, leaves the listener as it is. -/
theorem ping_answered {choices : List Choice} {names : Names} {id : Int64} {link : Link}
    {plan : Nat → Plan} {first l : Listener} {steps : List Step}
    (started : (Builder.ofChoices choices).listen names id link plan = .ok first)
    (followed : first.follow steps = some l) :
    (l.setup.protocolVersion = chosenVersion choices ∧
      l.setup.config.framing = .ofProtocol (chosenVersion choices)) ∧
    (∀ datagram sendTimestamp clientGuid,
      Message.decodeInbound datagram = .ok (.unconnectedPing sendTimestamp clientGuid) ↔
        ∃ leading rest, (leading = 1 ∨ leading = 2) ∧
          datagram = leading ::
            (Bytes.ofInt64 sendTimestamp ++ magic ++ Bytes.ofInt64 clientGuid ++ rest)) ∧
    (∀ delivery deliveries next sendTimestamp clientGuid,
      l.backlog = delivery :: deliveries → l.sessionOf? delivery.peer = none →
      Message.decodeInbound delivery.datagram = .ok (.unconnectedPing sendTimestamp clientGuid) →
      l.move? .handle = some next →
        ∃ reply, next = ({ l with backlog := deliveries } : Listener).recordAll
          [.handled delivery.peer delivery.datagram none,
            if link.reaches delivery.peer then .sent delivery.peer reply none
            else .reported delivery.peer (.send "unconnected pong" Link.fault)] ∧
        Pong.decode (.ofProtocol (chosenVersion choices)) reply =
          .ok { sendTimestamp, serverGuid := id, payload := l.board.payload }) ∧
    (l.board.payload = l.written.getLast?.getD [] ∧ l.board.writes = l.written.length ∧
      l.board.payload.length ≤ 32767 ∧
      Bytes.toNat (Bytes.ofNat 2 l.board.payload.length) = l.board.payload.length) ∧
    (∀ payload, payload.length ≤ 32767 → ∃ next, l.setPong payload = .ok next ∧
      next.board.payload = payload ∧ next.board.writes = l.board.writes + 1) ∧
    (∀ payload, 32767 < payload.length →
      l.setPong payload = .error (.pongPayloadTooLarge payload.length 32767) ∧
        l.perform (.setPong payload) = l) ∧
    (∀ number payload, 32767 < (Descriptor.relay payload id).length →
      l.learn number payload = l) := by
  obtain rfl := Builder.eq_start_of_listen started
  have setup : l.setup = (Builder.ofChoices choices).setup id link plan := setup_follow followed
  have version : l.setup.protocolVersion = chosenVersion choices := by
    rw [setup]
    exact Builder.protocolVersion_setup choices id link plan
  have framing : l.setup.config.framing = .ofProtocol (chosenVersion choices) :=
    congrArg PongFraming.ofProtocol version
  have identity : l.setup.id = id := congrArg Setup.id setup
  have reaches : l.setup.link = link := congrArg Setup.link setup
  have posted := posted_follow followed
  have fits := l.board.length_le
  refine ⟨⟨version, framing⟩, ?_, ?_, ⟨posted.payload, posted.writes, fits, ?_⟩, ?_, ?_, ?_⟩
  · intro datagram sendTimestamp clientGuid
    simp only [Message.decodeInbound_eq_ping_iff, Message.body]
  · intro delivery deliveries next sendTimestamp clientGuid backlog unregistered decoded enabled
    cases moved_of_move? enabled with
    | handled again =>
        rw [backlog] at again
        cases again
        refine ⟨l.pong sendTimestamp, ?_, ?_⟩
        · rw [← reaches]
          exact handle_ping (l := { l with backlog := deliveries }) unregistered decoded
        · rw [← framing, ← identity]
          exact l.decode_pong sendTimestamp
  · rw [Bytes.toNat_ofNat]
    exact Nat.mod_eq_of_lt (Nat.lt_of_le_of_lt fits (by decide))
  · exact fun payload fits => ⟨_, l.setPong_of_fits fits, rfl, rfl⟩
  · exact fun payload => l.perform_setPong_of_long
  · intro number payload long
    exact l.learn_of_long number (identity ▸ long)

/-- A listener for which a version was chosen, and then a whole configuration, answers a ping that
has a byte after its fields. -/
theorem ping_answered_of_choices :
    ∃ l next reply,
      (Builder.ofChoices [.protocolVersion 9, .config {}]).listen Names.loopback 7 Link.routed
        (fun _ => .raw) = .ok (start .plain) ∧
      (start .plain).follow [.command (.setPong [0x61]),
        .command (.deliver (.v4 0x7F000001 4000)
          ((Message.unconnectedPing 5 9).encode ++ [0xff]))] = some l ∧
      l.move? .handle = some next ∧
      next.events = [.written none [0x61],
        .handled (.v4 0x7F000001 4000) ((Message.unconnectedPing 5 9).encode ++ [0xff]) none,
        .sent (.v4 0x7F000001 4000) reply none] ∧
      Pong.decode .lengthPrefixed reply =
        .ok { sendTimestamp := 5, serverGuid := 7, payload := [0x61] } := by
  have started : (Builder.ofChoices [.protocolVersion 9, .config {}]).listen Names.loopback 7
      Link.routed (fun _ => .raw) = .ok (start .plain) := rfl
  have followed : (start .plain).follow [.command (.setPong [0x61]),
      .command (.deliver (.v4 0x7F000001 4000)
        ((Message.unconnectedPing 5 9).encode ++ [0xff]))] = some _ := rfl
  have decoded : Message.decodeInbound ((Message.unconnectedPing 5 9).encode ++ [0xff]) =
      .ok (.unconnectedPing 5 9) := rfl
  obtain ⟨reply, same, decoded⟩ :=
    (ping_answered started followed).2.2.1 _ [] _ 5 9 rfl rfl decoded rfl
  refine ⟨_, _, reply, started, followed, rfl, ?_, decoded⟩
  rw [same]
  rfl

end Listener

end Anteroom
