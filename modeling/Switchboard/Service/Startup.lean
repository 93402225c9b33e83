import Switchboard.Outbound.Connector
import Switchboard.Seed
import Switchboard.Service.Ingest

/-!
# Startup

How the service comes to run: its stores are filled from a seed, and a channel is opened to every
platform that the settings have an account for.
-/

namespace Switchboard

namespace Outbound.Connector

/-- What a platform answers to posts, after those made before. -/
abbrev Remote := List Post → Post → Exchange

/-- The posts made for earlier calls. -/
def madeFor (c : Connector) (remote : Remote) (earlier : List Call) : List Post :=
  earlier.foldl (fun made call => (c.carryOut remote made call).1) []

/-- The channel of a connector. -/
def channel (c : Connector) (remote : Remote) : Channel := fun earlier call =>
  (c.carryOut remote (c.madeFor remote earlier) call).2

end Outbound.Connector

namespace Service

/-- The connectors under their platforms. -/
def registerAll (connectors : List Outbound.Connector) :
    Except DeliveryError (PerPlatform Outbound.Connector) :=
  connectors.foldlM (fun registry c => Outbound.register registry c.platform c) PerPlatform.none

/-- Why the service does not start. -/
inductive StartupError where
  | unreadableSeed
  | malformedSeed
  | refusedSeed (e : DeskError)
  | misconfigured (e : DeliveryError)
  deriving DecidableEq, Repr

/-- The world at the start of the service. A seed is a file that may be missing. -/
def plant (seedFile : Option String) (contents : String → Option String) :
    Except StartupError World := do
  match seedFile with
  | none => return World.start Desk.empty Roster.empty
  | some path =>
    match contents path with
    | none => throw .unreadableSeed
    | some text =>
      match Seed.ofText? text with
      | none => throw .malformedSeed
      | some seed =>
        match seed.sow Desk.empty Roster.empty with
        | .error e => throw (.refusedSeed e)
        | .ok (desk, roster) => return World.start desk roster

/-- The channels to the platforms that the settings have an account for. -/
def Settings.channels (s : Settings) (remote : Outbound.Connector → Outbound.Connector.Remote) :
    Except StartupError (PerPlatform Channel) :=
  match registerAll s.connectors with
  | .error e => .error (.misconfigured e)
  | .ok registry => .ok fun p => (registry p).map fun c => c.channel (remote c)

/-- The setup under the settings. -/
def Settings.setup (s : Settings) (channels : PerPlatform Channel) (clock : Clock) : Setup where
  rules := s.rules
  laneKeyword := s.laneKeyword
  introductions := Introduction.common
  secrets := s.secrets
  channels := channels
  clock := clock

/-- Starts the service. -/
def Settings.start (s : Settings) (contents : String → Option String)
    (remote : Outbound.Connector → Outbound.Connector.Remote) (clock : Clock) :
    Except StartupError (Setup × World) := do
  let world ← plant s.seedFile contents
  let channels ← s.channels remote
  return (s.setup channels clock, world)

end Service

end Switchboard
