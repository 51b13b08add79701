import TunnelRelay.Log.Color
import TunnelRelay.Log.Record
import TunnelRelay.Log.Template
/-!
# Styles of log lines

Log records are written one to a line. The plain style shows time, level,
identifier and message. The colored style colors the line by its level, and
shows a symbol for what the record tells of; a record of level INFO that tells
of a request, a success or a failure has the color of that.
-/

namespace TunnelRelay.Log

/-- Texts by name. -/
abbrev Names := List (String × String)

/-- What a colored style is made of. -/
structure Palette where
  template : Template
  /-- The names of the colors of the levels. -/
  levelColors : Names
  /-- Symbols of semantics and of levels. -/
  symbols : Names
  /-- The escape sequences of semantics. -/
  semanticColors : Names

/-- A style of lines. -/
inductive Style where
  | plain
  | colored (palette : Palette)

namespace Palette

/-- The template of colored lines. -/
def defaultTemplate : String := "%(log_color)s%(log_symbol)s %(message)s"

/-- The colors of the levels. -/
def defaultLevelColors : Names :=
  [("DEBUG", "white"), ("INFO", "green"), ("WARNING", "yellow"), ("ERROR", "red"),
    ("CRITICAL", "bold_red")]

/-- The symbols of levels and semantics. -/
def defaultSymbols : Names :=
  [("WARNING", "▲"), ("ERROR", "●"), ("CRITICAL", "●"), (request, "←"), (success, "✔"),
    (failure, "✘")]

/-- The names of the colors of semantics. -/
def defaultSemanticColors : Names :=
  [(request, "bold_blue"), (success, "bold_green"), (failure, "bold_red")]

/-- The fault of a template that shows nothing of a record. -/
def uselessTemplate (template : String) : Fault :=
  .ofText .value ("Invalid format '" ++ template ++ "' for '%' style")

/-- A palette; what is not given has its default. The colors of semantics have
to be known. -/
def make (template : Option String) (levelColors symbols semanticColors : Option Names) :
    Except Fault Palette := do
  let template := ((Value.ofOption template).orText defaultTemplate).text
  if Template.isUseful template.toList then
    let sequences ← (semanticColors.getD defaultSemanticColors).mapM fun (name, color) =>
      (Color.parse color).map (name, ·)
    return {
      template := Template.parse template
      levelColors := levelColors.getD defaultLevelColors
      symbols := symbols.getD defaultSymbols
      semanticColors := sequences }
  else throw (uselessTemplate template)

/-- What belongs to the semantics of a record. Lists and dictionaries cannot be
looked up. -/
def ofSemantics (names : Names) (r : Record) : Except Fault (Option String) :=
  match r.semantics with
  | .string s => .ok (names.lookup s)
  | .list _ | .dict _ =>
    .error (.ofText .mismatch ("unhashable type: '" ++ r.semantics.kindName ++ "'"))
  | _ => .ok none

/-- The symbol of a record: that of its semantics, else that of its level. -/
def symbol (p : Palette) (r : Record) : Except Fault String :=
  (ofSemantics p.symbols r).map fun found => (found <|> p.symbols.lookup r.level.name).getD " "

/-- The color of what a record tells of. -/
def semanticColor (p : Palette) (r : Record) : Except Fault String :=
  if r.level = .info then (ofSemantics p.semanticColors r).map (·.getD "") else .ok ""

/-- The color of the level of a record. -/
def levelColor (p : Palette) (r : Record) : Except Fault String :=
  Color.parse ((p.levelColors.lookup r.level.name).getD "")

end Palette

/-- The fields of a record that was made at the given time. Nothing is known of
the origin of a fault, and there is one thread in one process. -/
def Record.fields (r : Record) (time : String) : List (String × Value) :=
  [("name", .string r.channel), ("msg", .string r.message), ("levelname", .string r.level.name),
    ("levelno", .int r.level.number), ("exc_info", .none), ("exc_text", .none),
    ("stack_info", .none), ("threadName", .string "MainThread"),
    ("processName", .string "MainProcess"), ("id", r.id), ("semantics", r.semantics),
    ("message", .string r.message), ("asctime", .string time)]

/-- The fields of a record in color, besides the colors themselves. -/
def Palette.fields (p : Palette) (r : Record) (time : String) :
    Except Fault (List (String × Value)) := do
  let symbol ← p.symbol r
  let semanticColor ← p.semanticColor r
  let levelColor ← p.levelColor r
  return r.fields time ++ [("log_symbol", .string symbol),
    ("semantic_color", .string semanticColor), ("log_color", .string levelColor)]

namespace Style

/-- The template of plain lines. -/
def plainTemplate : Template :=
  Template.parse "%(asctime)s %(levelname)-8s %(id)-8.8s %(message)s"

/-- A line with all renditions ended. -/
def endColors (line : String) : String :=
  if line.endsWith Color.reset then line else line ++ Color.reset

/-- The line of a record that was made at the given time. -/
def line (style : Style) (time : String) (r : Record) : Except Fault String :=
  match style with
  | .plain =>
    let fields := r.fields time
    plainTemplate.fill (.dict fields) (List.lookup · fields)
  | .colored p => do
    let fields ← p.fields r time
    let line ← p.template.fill (.dict fields) fun name =>
      (Color.named? name).map .string <|> List.lookup name fields
    return endColors line

end Style

/-! ## The console -/

/-- Where the lines of a run are written, and from which level on. -/
structure Console where
  level : Level := .info
  style : Style

namespace Console

/-- The palette of the console, whose debug lines are dim and whose lines of
level INFO have the color of the terminal. -/
def palette : Palette where
  template := Template.parse
    "%(bold_black)s%(id)-8.8s %(log_color)s%(semantic_color)s%(log_symbol)s %(message)s"
  levelColors :=
    [("DEBUG", "bold_black"), ("INFO", "reset"), ("WARNING", "yellow"), ("ERROR", "red"),
      ("CRITICAL", "bold_red")]
  symbols := Palette.defaultSymbols
  semanticColors := Palette.defaultSemanticColors.filterMap fun (name, color) =>
    (Color.named? color).map (name, ·)

/-- The style of a name; all but the plain one are colored. -/
def styleOf (name : String) : Style := if name = "plain" then .plain else .colored palette

/-- A console that writes records from a level on in the style of a name. -/
def make (level : Level := .info) (style : String := "fancy") : Console :=
  { level, style := styleOf style }

/-- Whether a record is written. -/
def shows (c : Console) (r : Record) : Bool :=
  decide (0 < r.level.number) && decide (c.level.number ≤ r.level.number)

/-- What is written of a record. -/
def write (c : Console) (time : String) (r : Record) : String :=
  if c.shows r then
    match c.style.line time r with
    | .ok line => line ++ "\n"
    | .error _ => ""
  else ""

end Console

end TunnelRelay.Log
