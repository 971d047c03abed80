import Anteroom.Relay
import Std.Async.DNS
import Std.Async.Signal
import Std.Async.Timer
import Std.Async.UDP

/-!
# The relay program

`anteroom [ENDPOINT [TARGET]]` runs a relay until it is interrupted.  A
configuration document may be named in the environment.

The program decides nothing: it hands datagrams, alarms and the interrupt to
the relay as commands, and puts on the wire what the relay's history says was
sent.
-/

namespace Anteroom.Program

/-- The socket address of an address. -/
def toSocketAddress : Address → Std.Net.SocketAddress
  | .v4 host port =>
      let byte (i : UInt32) : UInt8 := (host >>> i).toUInt8
      .v4 { addr := .ofParts (byte 24) (byte 16) (byte 8) (byte 0), port }
  | .v6 upper lower port _ _ =>
      let group (half i : UInt64) : UInt16 := (half >>> i).toUInt16
      .v6 {
        addr := .ofParts (group upper 48) (group upper 32) (group upper 16) (group upper 0)
          (group lower 48) (group lower 32) (group lower 16) (group lower 0)
        port }

/-- The host of an IP address. -/
def ofIPAddr : Std.Net.IPAddr → Host
  | .v4 addr => .v4 (UInt32.ofNat (Bytes.toNat addr.octets.toList))
  | .v6 addr =>
      let groups := addr.segments.toList.map UInt16.toNat
      .v6 (Host.ofGroups (groups.take 4)) (Host.ofGroups (groups.drop 4))

/-- The address of a socket address. -/
def ofSocketAddress : Std.Net.SocketAddress → Address
  | .v4 socket => (ofIPAddr (.v4 socket.addr)).withPort socket.port
  | .v6 socket => (ofIPAddr (.v6 socket.addr)).withPort socket.port

/-- What the program waits for. -/
inductive Input
  | datagram (peer : Address) (bytes : Bytes)
  | answer (hijack serial : Nat) (bytes : Bytes)
  | alarm
  | interrupt
  /-- The socket of the listener cannot be read any more. -/
  | unreadable

/-- What comes from a socket. -/
abbrev Arrival := Except IO.Error (ByteArray × Option Std.Net.SocketAddress)

/-- A socket and the input that it gives next. -/
structure Source where
  socket : Std.Async.UDP.Socket
  input : Task Input

/-- Waits for the next datagram of a socket. -/
def Source.listen (socket : Std.Async.UDP.Socket) (read : Arrival → Input) : IO Source := do
  let arrival : Task Arrival ← (socket.recv (UInt64.ofNat maxDatagramSize)).toIO
  return { socket, input := arrival.map read }

/-- The input that is a datagram for the listener. -/
def toListener : Arrival → Input
  | .ok (bytes, some peer) => .datagram (ofSocketAddress peer) bytes.toList
  | .ok (_, none) => .alarm
  | .error _ => .unreadable

/-- The input that is an answer to a probe.  A socket that fails ends the probe like an answer
that is empty. -/
def toProbe (hijack serial : Nat) : Arrival → Input
  | .ok (bytes, _) => .answer hijack serial bytes.toList
  | .error _ => .answer hijack serial []

/-- The socket of the last probe of a hijack. -/
structure ProbeSource where
  hijack : Nat
  serial : Nat
  source : Source

/-- The running program. -/
structure State where
  listening : Source
  interrupted : Task Input
  /-- When the listener started, on the clock of the host. -/
  startedAt : Nat
  listener : Listener
  probes : List ProbeSource := []

/-- Looks up the host of an endpoint, if it is a name. -/
def lookUp (endpoint : String) : IO (Option (String × Host)) := do
  match Endpoint.splitPort? endpoint.toList with
  | none => return none
  | some (host, _) =>
      let name := String.ofList host
      try
        let found ← (Std.Async.DNS.getAddrInfo name "").block
        return found[0]?.map fun addr => (name, ofIPAddr addr)
      catch _ => return none

/-- The names that were looked up. -/
def namesOf (found : List (String × Host)) : Names where
  host name :=
    match found.lookup name with
    | some host => .ok host
    | none => .error .unknown
  interface := Names.loopback.interface

/-- Does something that may fail without harm. -/
def attempt (action : IO Unit) : IO Unit := do
  try action catch _ => pure ()

/-- The probes of the hijacks other than one. -/
def State.otherProbes (state : State) (hijack : Nat) : List ProbeSource :=
  state.probes.filter (·.hijack ≠ hijack)

/-- Sends the ping of a probe from a socket of its own. -/
def sendProbe (state : State) (hijack serial : Nat) : IO State := do
  match state.listener.hijacks.find? (·.number = hijack) with
  | none => return state
  | some { target, .. } =>
      try
        let socket ← Std.Async.UDP.Socket.mk
        socket.connect (toSocketAddress target)
        let guid ← IO.rand 0 (UInt64.size - 1)
        let now ← IO.monoMsNow
        let request := Probe.request (Int64.ofNat now) (Int64.ofNat guid)
        (socket.send (ByteArray.mk request.toArray)).block
        let source ← Source.listen socket (toProbe hijack serial)
        return { state with probes := { hijack, serial, source } :: state.otherProbes hijack }
      catch _ => return { state with probes := state.otherProbes hijack }

/-- Puts on the wire what the listener has sent, and forgets it. -/
def flush (state : State) : IO State := do
  let events := state.listener.events
  let mut state := { state with listener := { state.listener with history := [] } }
  for event in events do
    match event with
    | .sent peer datagram _ =>
        attempt (state.listening.socket.send (ByteArray.mk datagram.toArray)
          (some (toSocketAddress peer))).block
    | .probed hijack serial => state ← sendProbe state hijack serial
    | _ => pure ()
  return state

/-- Carries out a command at the present time. -/
def perform (state : State) (command : Command) : IO State := do
  let elapsed := (← IO.monoNanosNow) - state.startedAt
  let l := Relay.perform state.listener (.advance (elapsed - state.listener.now))
  flush { state with listener := Relay.perform l command }

/-- Waits for the next input. -/
def wait (state : State) : IO Input := do
  let elapsed := (← IO.monoNanosNow) - state.startedAt
  let next := (state.listener.alarms.map (· - elapsed)).min?.getD Span.second
  let pause : Task (Except IO.Error Unit) ←
    (Std.Async.sleep (.ofNat (next / Span.millisecond + 1))).toIO
  let answers := state.probes.map (·.source.input)
  IO.waitAny ([state.interrupted, state.listening.input] ++ answers ++
    [pause.map fun _ => .alarm])

/-- Waits for the next datagram of the listener's socket. -/
def listenAgain (state : State) : IO State := do
  return { state with listening := ← Source.listen state.listening.socket toListener }

/-- Waits for another answer to a probe, or closes its socket if it is over. -/
def hearAgain (state : State) (hijack serial : Nat) : IO State := do
  let isOpen := state.listener.hijacks.any fun h =>
    h.number = hijack ∧ h.probe.any (·.serial = serial)
  match state.probes.find? fun probe => probe.hijack = hijack ∧ probe.serial = serial with
  | none => return state
  | some probe =>
      let others := state.otherProbes hijack
      if isOpen then
        let source ← Source.listen probe.source.socket (toProbe hijack serial)
        return { state with probes := { hijack, serial, source } :: others }
      else
        return { state with probes := others }

/-- Reports a failure and gives the exit status. -/
def fail (message : String) (status : UInt32) : IO UInt32 := do
  IO.eprintln ("Error: " ++ message)
  return status

/-- Closes the listener and gives the exit status. -/
def finish (state : State) : IO UInt32 :=
  match state.listener.close.2.result with
  | .ok () => return 0
  | .error error => fail error.message 1

/-- Runs until the interrupt, or until the socket fails. -/
partial def serve (state : State) : IO UInt32 := do
  match ← wait state with
  | .datagram peer bytes =>
      serve (← listenAgain (← perform state (.deliver peer bytes)))
  | .answer hijack serial bytes =>
      let state ← perform state (.answerProbe hijack serial bytes)
      serve (← hearAgain state hijack serial)
  | .alarm => serve (← perform state (.advance 0))
  | .interrupt => finish state
  | .unreadable => finish state

/-- The text of a failure to start. -/
def failureText : Relay.Failure → String
  | .document => "the configuration cannot be read"
  | .start (.refused error) => error.message
  | .start .unbuildable => "the accept queue cannot be that long"
  | .target error => error.message

/-- The configuration document that the environment names; one that is missing is empty. -/
def readDocument : IO (Option Bytes) := do
  match ← IO.getEnv "RAKGATE_CONFIG" with
  | none => return none
  | some path =>
      try
        return some (← IO.FS.readBinFile path).toList
      catch _ => return some []

/-- Binds the socket of a listener that has started and runs the relay. -/
def run (l : Listener) (endpoint : Address) : IO UInt32 := do
  let socket ← Std.Async.UDP.Socket.mk
  try
    socket.bind (toSocketAddress endpoint)
  catch error => return ← fail (ListenerError.bind error.toString).message 1
  let interrupt ← (← Std.Async.Signal.Waiter.mk .sigint false).wait
  let interrupted : Task (Except IO.Error Int) := interrupt
  serve (← flush {
    listening := ← Source.listen socket toListener
    interrupted := interrupted.map fun _ => .interrupt
    startedAt := ← IO.monoNanosNow
    listener := Relay.serve l })

/-- Starts the relay with the arguments of the command line. -/
def start (arguments : List String) : IO UInt32 := do
  let fallback : Relay.Options := {}
  let options : Relay.Options :=
    { endpoint := arguments.head?.getD fallback.endpoint, target := arguments[1]? }
  let found ← (options.endpoint :: options.target.toList).filterMapM lookUp
  let names := namesOf found
  let bits ← IO.rand 0 (UInt64.size - 1)
  let id := Setup.drawId (UInt64.ofNat bits)
  match Relay.configOf (← readDocument) with
  | .error failure => fail (failureText failure) failure.status
  | .ok config =>
      match Relay.start id Link.routed names config options,
        Endpoint.resolve names options.endpoint with
      | .error failure, _ => fail (failureText failure) failure.status
      | .ok _, .error error => fail error.message 1
      | .ok l, .ok endpoint => run l endpoint

end Anteroom.Program

/-- Runs the relay. -/
def main (arguments : List String) : IO UInt32 :=
  Anteroom.Program.start arguments
