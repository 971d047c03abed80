import Anteroom.Net.Link
import Anteroom.Session.Error
import Anteroom.Session.Signals
import Anteroom.Wire.Mtu

/-!
# Sessions

A session takes over the datagrams of one peer once the handshake has fixed its
MTU.  The listener hands datagrams to it and closes it; everything else is
between the session and the application that accepted it.

A raw session queues what it is handed, up to 256 datagrams, and drops what
does not fit; its first datagram completes its handshake.  It sends what fits
the MTU.  A scripted session behaves as a script lays down: whether it is
complete from the start, what it does on each datagram, which may depend on all
it has been handed so far, and whether it fails to close.
-/

namespace Anteroom

/-- What a scripted session does on a datagram. -/
structure Reaction where
  completes : Bool := false
  closes : Bool := false
  refusal : Option TransportError := none

/-- The behaviour of a scripted session. -/
structure Script where
  /-- Whether its handshake is complete when it is created. -/
  bornComplete : Bool := false
  /-- What it does on the last of the datagrams it has been handed. -/
  react : List Bytes → Reaction := fun _ => {}
  /-- The failure that closing it ends in. -/
  closeFault : Option TransportError := none

/-- How a session deals with the datagrams it is handed. -/
inductive Conduct
  | raw (inbox : List Bytes)
  | scripted (script : Script)

/-- A session with one peer. -/
structure Session where
  /-- The peer. -/
  address : Address
  /-- The negotiated MTU. -/
  mtu : UInt16
  /-- The id the peer gave itself. -/
  guid : Int64
  signals : Signals := {}
  conduct : Conduct := .raw []
  /-- All datagrams it has been handed, oldest first. -/
  handed : List Bytes := []
  /-- How often it has been closed. -/
  closes : Nat := 0

/-- The datagrams a raw session keeps for its reader. -/
def inboxCapacity : Nat :=
  256

namespace Session

/-- A new raw session. -/
def raw (address : Address) (mtu : UInt16) (guid : Int64) : Session :=
  { address, mtu, guid }

/-- A new scripted session. -/
def scripted (script : Script) (address : Address) (mtu : UInt16) (guid : Int64) : Session :=
  { address, mtu, guid
    signals := { completed := script.bornComplete }
    conduct := .scripted script }

/-- Whether its handshake is complete. -/
def isComplete (session : Session) : Bool :=
  session.signals.completed

/-- Whether it is closed. -/
def isClosed (session : Session) : Bool :=
  session.signals.closed

/-- Whether it is a raw session. -/
def isRaw (session : Session) : Bool :=
  match session.conduct with
  | .raw _ => true
  | .scripted _ => false

/-- Fires one of its signals. -/
def fire (session : Session) (signal : Signal) : Session :=
  { session with signals := session.signals.fire signal }

/-- Fires one of its signals if `condition` holds. -/
def fireIf (session : Session) (condition : Bool) (signal : Signal) : Session :=
  if condition then session.fire signal else session

/-- Hands it a datagram. -/
def receive (session : Session) (datagram : Bytes) : Session × Option TransportError :=
  let session := { session with handed := session.handed ++ [datagram] }
  match session.conduct with
  | .raw inbox =>
      if session.isClosed then
        (session, some (.closed session.address))
      else if inbox.length < inboxCapacity then
        ({ session with conduct := .raw (inbox ++ [datagram]) }.fire .completed, none)
      else
        (session.fire .completed, none)
  | .scripted script =>
      let reaction := script.react session.handed
      ((session.fireIf reaction.completes .completed).fireIf reaction.closes .closed,
        reaction.refusal)

/-- The failure that closing it ends in. -/
def closeFault (session : Session) : Option TransportError :=
  match session.conduct with
  | .raw _ => none
  | .scripted script => script.closeFault

/-- Closes it.  It counts as closed also when closing ends in a failure. -/
def close (session : Session) : Session × Option TransportError :=
  ({ session with closes := session.closes + 1 }.fire .closed, session.closeFault)

/-- Whether it can send a datagram, and why not.  A datagram that is sent goes to its peer. -/
def send (session : Session) (link : Link) (datagram : Bytes) : Except TransportError Unit :=
  if session.isClosed then
    .error (.closed session.address)
  else if Mtu.room session.mtu < datagram.length then
    .error (.oversized datagram.length session.mtu)
  else if link.reaches session.address then
    .ok ()
  else
    .error (.sendFailed Link.fault)

/-- What reading from a session gives. -/
inductive Received
  /-- Nothing has come yet. -/
  | pending
  /-- Nothing will come any more. -/
  | ended
  | datagram (bytes : Bytes)
  deriving DecidableEq, Repr

/-- Reads the oldest datagram that its reader has not had yet. -/
def recv (session : Session) : Session × Received :=
  match session.conduct with
  | .raw inbox =>
      if session.isClosed then
        (session, .ended)
      else
        match inbox with
        | [] => (session, .pending)
        | first :: others => ({ session with conduct := .raw others }, .datagram first)
  | .scripted _ => (session, .pending)

/-- Closing a session closes it, whatever else happens. -/
@[simp]
theorem isClosed_close (session : Session) : session.close.1.isClosed = true :=
  rfl

@[simp]
theorem address_close (session : Session) : session.close.1.address = session.address :=
  rfl

@[simp]
theorem address_fire (session : Session) (signal : Signal) :
    (session.fire signal).address = session.address :=
  rfl

@[simp]
theorem address_fireIf (session : Session) (condition : Bool) (signal : Signal) :
    (session.fireIf condition signal).address = session.address := by
  cases condition <;> rfl

/-- What a session is handed does not change whose session it is. -/
@[simp]
theorem address_receive (session : Session) (datagram : Bytes) :
    (session.receive datagram).1.address = session.address := by
  simp only [receive]
  split
  · split
    · rfl
    · split <;> rfl
  · simp

/-- A session keeps everything it is handed in its history, in order. -/
@[simp]
theorem handed_receive (session : Session) (datagram : Bytes) :
    (session.receive datagram).1.handed = session.handed ++ [datagram] := by
  simp only [receive]
  split
  · split
    · rfl
    · split <;> rfl
  · simp only [fireIf]
    split <;> split <;> rfl

/-! ## What the operations change -/

@[simp]
theorem isClosed_fire (session : Session) (signal : Signal) :
    (session.fire signal).isClosed = (session.isClosed || decide (signal = .closed)) := by
  cases signal <;> simp [fire, isClosed, Signals.fire]

@[simp]
theorem isClosed_fireIf (session : Session) (condition : Bool) (signal : Signal) :
    (session.fireIf condition signal).isClosed =
      (session.isClosed || (condition && decide (signal = .closed))) := by
  cases condition <;> simp [fireIf]

/-- A datagram does not open a session again. -/
theorem isClosed_receive {session : Session} (closed : session.isClosed = true)
    (datagram : Bytes) : (session.receive datagram).1.isClosed = true := by
  have kept : ({ session with handed := session.handed ++ [datagram] } : Session).isClosed = true :=
    closed
  simp only [receive]
  split
  · rw [if_pos kept]
    exact kept
  · simp [kept]

@[simp]
theorem isComplete_fire (session : Session) (signal : Signal) :
    (session.fire signal).isComplete = (session.isComplete || decide (signal = .completed)) := by
  cases signal <;> simp [fire, isComplete, Signals.fire]

@[simp]
theorem isComplete_fireIf (session : Session) (condition : Bool) (signal : Signal) :
    (session.fireIf condition signal).isComplete =
      (session.isComplete || (condition && decide (signal = .completed))) := by
  cases condition <;> simp [fireIf]

/-- A datagram does not undo the completion of a session. -/
theorem isComplete_receive {session : Session} (complete : session.isComplete = true)
    (datagram : Bytes) : (session.receive datagram).1.isComplete = true := by
  have kept :
      ({ session with handed := session.handed ++ [datagram] } : Session).isComplete = true :=
    complete
  simp only [receive]
  split
  · split
    · exact kept
    · split
      · exact (isComplete_fire _ _).trans (Bool.or_true _)
      · exact (isComplete_fire _ _).trans (Bool.or_true _)
  · simp [kept]

@[simp]
theorem isComplete_close (session : Session) : session.close.1.isComplete = session.isComplete :=
  rfl

@[simp]
theorem address_recv (session : Session) : session.recv.1.address = session.address := by
  simp only [recv]
  split
  · split
    · rfl
    · split <;> rfl
  · rfl

@[simp]
theorem isClosed_recv (session : Session) : session.recv.1.isClosed = session.isClosed := by
  simp only [recv]
  split
  · split
    · rfl
    · split <;> rfl
  · rfl

@[simp]
theorem isComplete_recv (session : Session) : session.recv.1.isComplete = session.isComplete := by
  simp only [recv]
  split
  · split
    · rfl
    · split <;> rfl
  · rfl

@[simp]
theorem handed_fire (session : Session) (signal : Signal) :
    (session.fire signal).handed = session.handed :=
  rfl

@[simp]
theorem handed_close (session : Session) : session.close.1.handed = session.handed :=
  rfl

@[simp]
theorem handed_recv (session : Session) : session.recv.1.handed = session.handed := by
  simp only [recv]
  split
  · split
    · rfl
    · split <;> rfl
  · rfl

@[simp]
theorem closes_fire (session : Session) (signal : Signal) :
    (session.fire signal).closes = session.closes :=
  rfl

@[simp]
theorem closes_fireIf (session : Session) (condition : Bool) (signal : Signal) :
    (session.fireIf condition signal).closes = session.closes := by
  cases condition <;> rfl

@[simp]
theorem closes_close (session : Session) : session.close.1.closes = session.closes + 1 :=
  rfl

@[simp]
theorem closes_receive (session : Session) (datagram : Bytes) :
    (session.receive datagram).1.closes = session.closes := by
  simp only [receive]
  split
  · split
    · rfl
    · split <;> rfl
  · simp

@[simp]
theorem closes_recv (session : Session) : session.recv.1.closes = session.closes := by
  simp only [recv]
  split
  · split
    · rfl
    · split <;> rfl
  · rfl

/-- Closing a session does not change the failure that closing it ends in. -/
@[simp]
theorem closeFault_close (session : Session) : session.close.1.closeFault = session.closeFault :=
  rfl

end Session

end Anteroom
