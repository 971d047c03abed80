import Anteroom.Listener.Error
import Anteroom.Net.Link
import Anteroom.Wire.Pong

/-!
# Probes

A probe asks a server for its pong.  It sends one ping and reads datagrams
until one of them decides: a pong that decodes gives its payload, and one that
does not ends the probe with the reason.  Datagrams that are other messages are
skipped.  A probe that has nothing when its time is up has failed.
-/

namespace Anteroom

/-- What a probe makes of a datagram, if it does not skip it. -/
def PongFraming.judge (framing : PongFraming) (datagram : Bytes) :
    Option (Except DecodeError Bytes) :=
  match Pong.decode framing datagram.received with
  | .ok pong => some (.ok pong.payload)
  | .error (.unexpectedPacket _ _) => none
  | .error e => some (.error e)

/-- A probe, with its outcome once there is one.  Times are in nanoseconds. -/
structure Probe where
  target : Address
  framing : PongFraming
  limit : Span
  /-- When the time for an answer is up. -/
  deadline : Nat
  outcome : Option (Except PingError Bytes) := none

namespace Probe

/-- The ping that a probe sends. -/
def request (sendTimestamp clientGuid : Int64) : Bytes :=
  (Message.unconnectedPing sendTimestamp clientGuid).encode

/-- A probe that starts at time `now`.  It fails at once if its ping cannot be sent. -/
def start (link : Link) (now : Nat) (target : Address) (protocolVersion : UInt8) (limit : Span) :
    Probe :=
  { target, limit
    framing := PongFraming.ofProtocol protocolVersion
    deadline := now + limit.nanos
    outcome := if link.reaches target then none else some (.error (.io Link.fault)) }

/-- The probe after a datagram has come.  Once it is decided, nothing changes it. -/
def hear (probe : Probe) (datagram : Bytes) : Probe :=
  match probe.outcome with
  | some _ => probe
  | none =>
      { probe with
        outcome := (probe.framing.judge datagram).map fun verdict =>
          verdict.mapError .malformed }

/-- The probe after some datagrams have come one after another. -/
def hearAll (probe : Probe) (datagrams : List Bytes) : Probe :=
  datagrams.foldl hear probe

/-- The probe as it stands at time `now`. -/
def wake (probe : Probe) (now : Nat) : Probe :=
  match probe.outcome with
  | some _ => probe
  | none =>
      if probe.deadline ≤ now then
        { probe with outcome := some (.error (.timeout probe.target probe.limit)) }
      else
        probe

end Probe

end Anteroom
