import TunnelRelay.Destination
import TunnelRelay.Settings.Layers
/-!
# The app

The standalone app accepts connections on a port of its own in place of a
tunnel. Before it runs it is prepared: its settings are loaded, and it is made
sure that the connections can be forwarded to the configured destination.
-/

namespace TunnelRelay

/-- The standalone app. -/
structure App where
  name : String
  /-- The settings that hold unless others are given. -/
  defaults : List Assignment := []
  platform : Platform := .posix
  settings : Settings := {}
  debug : Bool := false
  /-- The URL to forward connections to, once the app has been prepared. -/
  forwardTo : Option String := none

namespace App

/-- The setting of the destination. -/
def forwardToName : String := "FORWARD_TO"
/-- The setting of the host to listen on. -/
def listenHostName : String := "LISTEN_HOST"
/-- The setting of the port to listen on. -/
def listenPortName : String := "LISTEN_PORT"
/-- The setting of the protocol of the connections. -/
def protocolName : String := "PROTOCOL"

/-- The defaults of the forwarder. -/
def standardDefaults : List Assignment :=
  [(forwardToName, .string "http://localhost:8080"), (listenHostName, .string "127.0.0.1"),
    (listenPortName, .int 8000), (protocolName, .string "http")]

/-- The name of the forwarder. -/
def standardName : String := "tunnelforward"

/-- The app before it is prepared. -/
def standard : App := { name := standardName, defaults := standardDefaults }

/-- Where the settings of the app come from. -/
def layers (a : App) : Settings.Layers :=
  { defaults := a.defaults
    defaultFile := some (a.name ++ ".cfg")
    environmentVariable := some (String.ofList (Text.upper a.name.toList) ++ "_SETTINGS") }

/-- The destination that is configured. What is not set is the empty URL. -/
def configuredUrl (s : Settings) : Except Fault String :=
  match (s.get? forwardToName).getD .none with
  | .string url => .ok url
  | v => if v.isSet then .error (Destination.notUrl v) else .ok ""

/-- How a preparation ends: the app is ready or should end with a code. -/
inductive Prepared where
  | ready
  | ends (code : Nat)
  deriving DecidableEq, Repr

/-- The app after its settings were loaded: the destination is checked. -/
def checkDestination (a : App) : App × List Log.Record × Except Fault Prepared :=
  match configuredUrl a.settings with
  | .error fault => (a, [], .error fault)
  | .ok url =>
    match Destination.parse a.platform url with
    | .error rejection =>
      (a, [Log.say .app .error (rejection.fault url).message], .ok (.ends 2))
    | .ok _ => ({ a with forwardTo := some url }, [], .ok .ready)

/-- Prepares the app. -/
def prepare (a : App) (around : Settings.Surroundings) (config : Option String) (debug : Bool)
    (overrides : List Assignment) : App × List Log.Record × Except Fault Prepared :=
  let loading := a.layers.load around a.settings config
  let a := { a with debug, settings := loading.settings }
  match loading.result with
  | .error fault => (a, loading.records, .error fault)
  | .ok false => (a, loading.records, .ok (.ends 1))
  | .ok true =>
    let (a, records, prepared) :=
      { a with settings := a.settings.addOverrides overrides }.checkDestination
    (a, loading.records ++ records, prepared)

end App

end TunnelRelay
