import TunnelRelay.Text.LetterCase
import TunnelRelay.Value
/-!
# Settings

Settings are values by name. They come in layers, and a later layer takes
precedence: the defaults and the settings files set the names that are upper
case, and whoever starts the program may set any name to something other than
nothing.
-/

namespace TunnelRelay

/-- One name with its value. -/
abbrev Assignment := String × Value

/-- Values by name, each name once. -/
structure Settings where
  entries : List Assignment := []

namespace Settings

/-- The value of a name. -/
def get? (s : Settings) (name : String) : Option Value := s.entries.lookup name

/-- The entries with a value put in the place of its name, or at the end. -/
def putIn (name : String) (value : Value) : List Assignment → List Assignment
  | [] => [(name, value)]
  | entry :: rest =>
    if entry.1 = name then (name, value) :: rest else entry :: putIn name value rest

/-- Sets a name. -/
def put (s : Settings) (a : Assignment) : Settings := ⟨putIn a.1 a.2 s.entries⟩

/-- Sets names one after the other. -/
def update (s : Settings) (assignments : List Assignment) : Settings := assignments.foldl put s

/-- Whether the name is that of a setting. -/
def isCounted (name : String) : Bool := Text.isUpper name.toList

/-- Sets the names of a layer that are those of settings. -/
def addLayer (s : Settings) (layer : List Assignment) : Settings :=
  s.update (layer.filter (isCounted ·.1))

/-- Sets the names to which something is given. -/
def addOverrides (s : Settings) (overrides : List Assignment) : Settings :=
  s.update (overrides.filter fun a => !(a.2 matches .none))

end Settings

end TunnelRelay
