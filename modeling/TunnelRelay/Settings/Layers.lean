import TunnelRelay.Log.Record
import TunnelRelay.Settings.Script
/-!
# Layers of settings

Settings are loaded in layers: the defaults, then the file that was asked for
or else a default file, then the file named by an environment variable. Files
that were asked for by name have to be there; without one nothing after it is
loaded.
-/

namespace TunnelRelay.Settings

/-- Where settings are loaded from. -/
structure Layers where
  defaults : List Assignment := []
  /-- The file that is loaded if none is asked for, and need not be there. -/
  defaultFile : Option String := none
  /-- The environment variable that may name a file. -/
  environmentVariable : Option String := none

/-- What can be looked up while settings are loaded. -/
structure Surroundings where
  files : Files := {}
  environment : String → Option String := fun _ => none

/-- Settings during and after loading. The result says whether all files that
have to be there were loaded. -/
structure Loading where
  settings : Settings
  records : List Log.Record := []
  result : Except Fault Bool := .ok true

namespace Layers

/-- A name, unless it is missing or empty. -/
def named (name : Option String) : Option String := name.filter (· ≠ "")

/-- The files to load, each with whether it has to be there. -/
def fileNames (l : Layers) (environment : String → Option String) (given : Option String) :
    List (String × Bool) :=
  let first := match named given with
    | some name => some (name, true)
    | none => (named l.defaultFile).map (·, false)
  let second := ((named l.environmentVariable).bind fun v => named (environment v)).map (·, true)
  first.toList ++ second.toList

/-- Loads one file. -/
def loadFile (files : Files) (s : Settings) (name : String) (mandatory : Bool) : Loading :=
  match files.read name with
  | .error fault =>
    if Files.isAbsence fault then
      { settings := s, result := .ok !mandatory
        records :=
          if mandatory then
            [Log.say .app .warning ("Cannot load configuration from " ++ Text.quoted name)]
          else [] }
    else { settings := s, result := .error fault }
  | .ok script =>
    match script.assignments with
    | .error fault => { settings := s, result := .error fault }
    | .ok assignments =>
      { settings := s.addLayer assignments
        records := [Log.say .app .info ("Loaded configuration from " ++ Text.quoted name)] }

/-- Loads files one after the other, up to the first that is missing or
fails. -/
def loadFiles (files : Files) (s : Settings) : List (String × Bool) → Loading
  | [] => { settings := s }
  | (name, mandatory) :: rest =>
    let first := loadFile files s name mandatory
    match first.result with
    | .ok true =>
      let later := loadFiles files first.settings rest
      { later with records := first.records ++ later.records }
    | _ => first

/-- Loads all layers on top of settings that are there already; `given` is the
file that is asked for. -/
def load (l : Layers) (around : Surroundings) (s : Settings) (given : Option String) : Loading :=
  loadFiles around.files (s.addLayer l.defaults) (l.fileNames around.environment given)

end Layers

end TunnelRelay.Settings
