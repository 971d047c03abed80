import Anteroom.Time.Span
import Anteroom.Wire.Pong

/-!
# Listener configurations

A configuration fixes the protocol version clients must speak, how many
negotiated sessions may wait to be accepted, how long an accepted candidate has
to complete its handshake, and how often the pong of another server is relayed.
Values that would make a listener unusable are replaced before it starts.
-/

namespace Anteroom

/-- The settings of a listener. -/
structure Config where
  protocolVersion : UInt8 := minecraftProtocol
  acceptQueueCapacity : UInt64 := 128
  handshakeTimeout : Span := Span.ofSeconds 10
  hijackInterval : Span := Span.ofSeconds 1
  deriving DecidableEq

namespace Config

/-- How pongs are framed under this configuration. -/
def framing (config : Config) : PongFraming :=
  PongFraming.ofProtocol config.protocolVersion

/-- A span, or the default where it is empty. -/
def nonempty (span default : Span) : Span :=
  if span.nanos = 0 then default else span

/-- The configuration with an empty queue enlarged to one place and empty spans replaced by
their defaults. -/
def validated (config : Config) : Config :=
  { config with
    acceptQueueCapacity :=
      if config.acceptQueueCapacity = 0 then 1 else config.acceptQueueCapacity
    handshakeTimeout := nonempty config.handshakeTimeout (Span.ofSeconds 10)
    hijackInterval := nonempty config.hijackInterval (Span.ofSeconds 1) }

/-- The largest capacity a queue can be built with. -/
def maxQueueCapacity : Nat :=
  2305843009213693951

theorem nonempty_pos {span default : Span} (positive : 0 < default.nanos) :
    0 < (nonempty span default).nanos := by
  simp only [nonempty]
  split
  · exact positive
  · omega

theorem validated_handshakeTimeout_pos (config : Config) :
    0 < config.validated.handshakeTimeout.nanos :=
  nonempty_pos (by decide)

theorem validated_hijackInterval_pos (config : Config) :
    0 < config.validated.hijackInterval.nanos :=
  nonempty_pos (by decide)

theorem validated_acceptQueueCapacity_ne_zero (config : Config) :
    config.validated.acceptQueueCapacity ≠ 0 := by
  simp only [validated]
  split
  · decide
  · assumption

end Config

end Anteroom
