import Anteroom.Listener.Control

/-!
# Building listeners

What a listener is to be is chosen before it starts: the endpoint it is bound
to and its configuration.  Both have defaults.  The protocol version may also
be chosen alone; it is part of the configuration, so a configuration that is
chosen later replaces it.
-/

namespace Anteroom

/-- Something that is chosen for a listener before it starts. -/
inductive Choice
  | endpoint (endpoint : String)
  /-- Replaces the whole configuration. -/
  | config (config : Config)
  /-- The only protocol version that clients may connect with. -/
  | protocolVersion (version : UInt8)

/-- What has been chosen for a listener so far. -/
structure Builder where
  endpoint : String := "0.0.0.0:19132"
  config : Config := {}

namespace Builder

/-- The builder after a choice. -/
def choose (builder : Builder) : Choice → Builder
  | .endpoint endpoint => { builder with endpoint }
  | .config config => { builder with config }
  | .protocolVersion version =>
      { builder with config := { builder.config with protocolVersion := version } }

/-- The builder after some choices, one after another. -/
def ofChoices (choices : List Choice) : Builder :=
  choices.foldl choose {}

/-- What is fixed for the listener that is built, with its configuration made valid. -/
def setup (builder : Builder) (id : Int64) (link : Link) (plan : Nat → Plan) : Setup :=
  .ofConfig id builder.config link plan

/-- Starts the listener that has been chosen. -/
def listen (builder : Builder) (names : Names) (id : Int64) (link : Link) (plan : Nat → Plan) :
    Except StartError Listener :=
  Listener.listen names builder.endpoint (builder.setup id link plan)

end Builder

end Anteroom
