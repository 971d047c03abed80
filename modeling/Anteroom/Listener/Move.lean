import Anteroom.Listener.Dispatch

/-!
# Moves

The parties of a listener act in small moves: the read loop, the accept calls,
the watchers of returned sessions and the hijacks.  Each move is either enabled
in a state, and leads to another one, or it is not.  A listener is settled when
no move is enabled.

Settling makes enabled moves until none is left.  The read loop goes on for as
long as it can before anything that it has caused happens, and an accept call
goes on before anybody else.  What the passing of time has enabled happens in
the order of the times.  A returned session that has closed is unregistered
only when the read loop has nothing more to do, so datagrams that are already
there still go to it.  `work` bounds how many moves there can be: every one
takes more away from it than it adds.
-/

namespace Anteroom

/-- A move of one of the parties of a listener. -/
inductive Move
  /-- The listener shuts down because nothing refers to it any more. -/
  | release
  /-- The read loop ends because the listener shuts down. -/
  | stopLoop
  /-- The sessions in the queue are dropped because the listener shuts down. -/
  | drain
  /-- The first accept call without a candidate ends, as there will be none. -/
  | refuse
  /-- An accept call is done with its candidate. -/
  | resolve (index : Nat)
  /-- A returned session that has closed is unregistered. -/
  | evict (index : Nat)
  /-- A hijack takes a step. -/
  | hijack (index : Nat)
  /-- The first accept call without a candidate takes one from the queue. -/
  | pull
  /-- The read loop puts the session it holds into the queue. -/
  | enqueue
  /-- The read loop handles the oldest datagram. -/
  | handle
  deriving DecidableEq, Repr

namespace Listener

/-- An accept call ends because the listener is closed; its candidate is dropped. -/
def refuseCandidate (l : Listener) (candidate : Candidate) : Listener :=
  (l.settleFate candidate.session .discarded).record (.refused candidate.call)

/-- An accept call returns its candidate, which is unregistered once it closes. -/
def returnCandidate (l : Listener) (candidate : Candidate) : Listener :=
  let l := l.settleFate candidate.session (.returned candidate.call)
  { l with watched := l.watched ++ [candidate.session] }.record
    (.returned candidate.call candidate.session)

/-- A candidate whose time is up is closed and unregistered, and its accept call waits for
another one. -/
def expireCandidate (l : Listener) (candidate : Candidate) : Listener :=
  let l := l.settleFate candidate.session .expired
  { l with
    registry := ((l.registry.closeSession candidate.session).1.unregister candidate.session).1
    waiting := l.waiting ++ [candidate.call] }.record (.expired candidate.session)

/-- The listener after an accept call is done with its candidate, if it is: because the
listener shuts down, because the candidate has completed, or because its time is up, in this
order. -/
def resolveCandidate? (l : Listener) (index : Nat) : Option Listener := do
  let candidate ← l.inHand[index]?
  let rest : Listener := { l with inHand := l.inHand.eraseIdx index }
  if l.shutdown then some (rest.refuseCandidate candidate)
  else if l.sessionIs candidate.session Session.isComplete then
    some (rest.returnCandidate candidate)
  else if candidate.deadline ≤ l.now then some (rest.expireCandidate candidate)
  else none

/-- The listener after a watched session that has closed is unregistered. -/
def evict? (l : Listener) (index : Nat) : Option Listener := do
  let number ← l.watched[index]?
  if l.sessionIs number Session.isClosed then
    some { l with
      registry := (l.registry.unregister number).1
      watched := l.watched.eraseIdx index }
  else none

/-- The listener after a hijack has taken a step.  A hijack ends when the listener shuts down. -/
def stepHijack? (l : Listener) (index : Nat) : Option Listener := do
  let hijack ← l.hijacks[index]?
  if l.shutdown then
    some { l with hijacks := l.hijacks.eraseIdx index }
  else
    let next ← hijack.step? l.setup.link l.now
    let l : Listener := { l with hijacks := l.hijacks.set index next }
    if hijack.sent < next.sent then some (l.record (.probed hijack.number hijack.sent))
    else some l

/-- The listener after a move, if the move is enabled. -/
def move? (l : Listener) : Move → Option Listener
  | .release =>
      if l.released && !l.shutdown && !l.hasPendingCall then some { l with shutdown := true }
      else none
  | .stopLoop =>
      if l.shutdown && !l.loop.ended then
        some { l with
          loop := .stopped
          fates := l.fates ++ l.loop.held?.toList.map (·, Fate.discarded) }
      else none
  | .drain =>
      if l.shutdown && l.loop.ended && !l.queue.isEmpty then
        some { l with
          queue := []
          fates := l.fates ++ l.queue.map (·, Fate.discarded) }
      else none
  | .refuse =>
      match l.waiting with
      | [] => none
      | call :: calls =>
          if l.shutdown || (l.loop.ended && l.queue.isEmpty) then
            some ({ l with waiting := calls }.record (.refused call))
          else none
  | .resolve index => l.resolveCandidate? index
  | .evict index => l.evict? index
  | .hijack index => l.stepHijack? index
  | .pull =>
      match l.waiting, l.queue with
      | call :: calls, session :: sessions =>
          if l.shutdown then none
          else
            let deadline := l.now + l.setup.config.handshakeTimeout.nanos
            let candidate : Candidate := { call, session, deadline }
            some ({ l with
              waiting := calls
              queue := sessions
              inHand := l.inHand ++ [candidate] }.record (.pulled call session))
      | _, _ => none
  | .enqueue =>
      match l.loop with
      | .holding session =>
          if !l.shutdown && l.queue.length < l.setup.capacity then
            some { l with loop := .reading, queue := l.queue ++ [session] }
          else none
      | _ => none
  | .handle =>
      match l.backlog with
      | [] => none
      | delivery :: deliveries =>
          if l.isReading then
            some ({ l with backlog := deliveries }.handle delivery.peer delivery.datagram)
          else none

/-- The accept calls whose candidates have completed. -/
def completions (l : Listener) : List Move :=
  ((List.range l.inHand.length).filter fun index =>
    l.inHand[index]?.any fun candidate => l.sessionIs candidate.session Session.isComplete).map
    .resolve

/-- The moves that wait for a time, and the times. -/
def timers (l : Listener) : List (Nat × Move) :=
  l.inHand.mapIdx (fun index candidate => (candidate.deadline, .resolve index)) ++
    l.hijacks.mapIdx fun index hijack => (hijack.alarm, .hijack index)

/-- The moves that wait for a time, in the order of the times. -/
def timedMoves (l : Listener) : List Move :=
  (l.timers.mergeSort fun a b => decide (a.1 ≤ b.1)).map Prod.snd

/-- The moves of a state that can be enabled, those that are made first in front. -/
def moves (l : Listener) : List Move :=
  [.release, .stopLoop, .drain, .refuse, .handle] ++ l.completions ++ [.pull] ++ l.timedMoves ++
    [.enqueue] ++ (List.range l.watched.length).map .evict

/-- The listener after the first enabled move. -/
def step? (l : Listener) : Option Listener :=
  l.moves.findSome? l.move?

/-- The work that the read loop may still cause. -/
def loopWork (l : Listener) : Nat :=
  match l.loop with
  | .reading => 1
  | .holding _ => 9
  | .failed => 0
  | .stopped => 0

/-- The work that hijacks may still cause at time `now`. -/
def hijackWork (now : Nat) : List Hijack → Nat
  | [] => 0
  | hijack :: others => hijack.work now + 1 + hijackWork now others

/-- A bound on the moves that lie ahead. -/
def work (l : Listener) : Nat :=
  (!l.shutdown).toNat + 12 * l.backlog.length + l.loopWork + 6 * l.queue.length +
    2 * l.waiting.length + 5 * l.inHand.length + l.watched.length +
    hijackWork l.now l.hijacks

/-- Makes up to `count` enabled moves. -/
def settleWithin : (count : Nat) → Listener → Listener
  | 0, l => l
  | count + 1, l =>
      match l.step? with
      | none => l
      | some next => settleWithin count next

/-- Makes enabled moves until none is left. -/
def settle (l : Listener) : Listener :=
  settleWithin l.work l

/-- The times at which the passing of time may next enable a move. -/
def alarms (l : Listener) : List Nat :=
  l.timers.map Prod.fst

/-- No move is enabled. -/
def Settled (l : Listener) : Prop :=
  ∀ move, l.move? move = none

end Listener

end Anteroom
