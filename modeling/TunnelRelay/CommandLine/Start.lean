import TunnelRelay.App.Preparation
import TunnelRelay.CommandLine.Options
import TunnelRelay.Ending
import TunnelRelay.Log.Style
/-!
# Starting from the command line

A run from the command line prepares the app with what its options say, runs
it, and ends with an exit code. What is said on the way goes to the console,
whose level and style are options too.
-/

namespace TunnelRelay.CommandLine

/-- The version of the program. -/
def version : String := "1.0.0"

/-- What is shown for a request of the version. -/
def versionText : String := App.standardName ++ ", version " ++ version ++ "\n"

/-- The level from which on records are shown: a debug run shows all, and a
quiet one only warnings and errors. -/
def consoleLevel (o : Options) : Log.Level :=
  if o.debug then .debug else if o.quiet then .warning else .info

/-- The console of a run. -/
def console (o : Options) : Log.Console := .make (consoleLevel o) o.logStyle

/-- The settings that the options override. -/
def overrides (o : Options) : List Assignment :=
  [(App.forwardToName, .ofOption o.url), (App.listenHostName, .ofOption o.listen.host),
    (App.listenPortName, o.listen.port.elim .none .int), (App.protocolName, .ofOption o.protocol)]

/-- What is said first. -/
def greeting : Log.Record := Log.say .main .info ("Starting tunnel forwarder " ++ version)

/-- What is said last. -/
def farewell : Log.Record := Log.say .main .info "Shutdown finished"

/-- Prepares the app for a run. -/
def prepare (a : App) (around : Settings.Surroundings) (o : Options) :
    App × List Log.Record × Except Fault App.Prepared :=
  let (a, records, prepared) := a.prepare around o.config o.debug (overrides o)
  (a, greeting :: records, prepared)

/-- What is said at the end of a run, and its exit code. A run that was
interrupted ends well; one that a fault ends says nothing and has no code. -/
def leave : Ending (Option Nat) → List Log.Record × Option Nat
  | .returned code => ([farewell], some (code.getD 0))
  | .cancelled => ([farewell], some 0)
  | .raised _ | .group _ => ([], none)

end TunnelRelay.CommandLine
