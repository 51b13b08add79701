import TunnelRelay.Settings.Script
import TunnelRelay.SocketAddress
/-!
# Options of the command line

The command line has options and one argument, the URL. Options come in a long
form, whose value may follow an equals sign, and some in a short form of one
letter; several short ones can stand together. What follows two dashes is no
option. Of an option that is given twice the last one counts.

Reading goes in three passes: the arguments are taken apart; a request for
help or for the version ends the matter; and then values are read.
-/

namespace TunnelRelay.CommandLine

/-- The options that have a value. -/
inductive Valued where
  | config
  | listen
  | protocol
  | logStyle
  deriving DecidableEq, Repr

/-- The options that have none. -/
inductive Flag where
  | debug (on : Bool)
  | quiet (on : Bool)
  | version
  | help
  deriving DecidableEq, Repr

/-- The options. -/
inductive Switch where
  | valued (option : Valued)
  | flag (option : Flag)
  deriving DecidableEq, Repr

/-- Why a command line is refused. -/
inductive Problem where
  | unknownOption
  /-- An option without its value, or a value for an option that has none. -/
  | misusedOption
  | badValue
  | tooManyArguments
  /-- A path that no file can have. -/
  | unusablePath
  deriving DecidableEq, Repr

/-- The options by their long forms. -/
def longForms : List (String × Switch) :=
  [("--config", .valued .config), ("--debug", .flag (.debug true)),
    ("--no-debug", .flag (.debug false)), ("--quiet", .flag (.quiet true)),
    ("--no-quiet", .flag (.quiet false)), ("--listen", .valued .listen),
    ("--protocol", .valued .protocol), ("--log-style", .valued .logStyle),
    ("--version", .flag .version), ("--help", .flag .help)]

/-- The options by their short forms. -/
def shortForms : List (Char × Switch) :=
  [('c', .valued .config), ('d', .flag (.debug true)), ('q', .flag (.quiet true)),
    ('l', .valued .listen), ('p', .valued .protocol)]

/-- What has been taken from a command line, in order. -/
inductive Item where
  | valued (option : Valued) (value : String)
  | flag (option : Flag)
  | argument (text : String)
  deriving DecidableEq, Repr

/-! ## Taking arguments apart -/

/-- The short options of one argument. The last of them may have its value in
the rest of the argument or in the next one, and says whether it took that. -/
def takeShort (next : Option String) : List Char → Except Problem (List Item × Bool)
  | [] => .ok ([], false)
  | c :: rest =>
    match shortForms.lookup c with
    | none => .error .unknownOption
    | some (.flag f) => (takeShort next rest).map fun (items, took) => (.flag f :: items, took)
    | some (.valued v) =>
      match rest, next with
      | [], some value => .ok ([.valued v value], true)
      | [], none => .error .misusedOption
      | rest, _ => .ok ([.valued v (String.ofList rest)], false)

/-- A long option with its value after an equals sign or in the next argument;
also whether it took that. `none` if there is no such option. -/
def takeLong (next : Option String) (arg : List Char) :
    Option (Except Problem (List Item × Bool)) :=
  let attached := if arg.contains '=' then some (Text.afterFirst '=' arg) else none
  (longForms.lookup (String.ofList (Text.beforeFirst '=' arg))).map fun
    | .flag f => if attached.isSome then .error .misusedOption else .ok ([.flag f], false)
    | .valued v =>
      match attached, next with
      | some value, _ => .ok ([.valued v (String.ofList value)], false)
      | none, some value => .ok ([.valued v value], true)
      | none, none => .error .misusedOption

/-- The options of one argument that starts with a dash. -/
def takeOptions (next : Option String) (arg : List Char) : Except Problem (List Item × Bool) :=
  match takeLong next arg with
  | some result => result
  | none =>
    match arg with
    | '-' :: '-' :: _ => .error .unknownOption
    | _ => takeShort next (arg.drop 1)

/-- Takes a command line apart. -/
def takeApart : List String → Except Problem (List Item)
  | [] => .ok []
  | arg :: rest =>
    if arg = "--" then .ok (rest.map .argument)
    else if arg.toList.head? = some '-' ∧ arg ≠ "-" then
      match takeOptions rest.head? arg.toList with
      | .error problem => .error problem
      | .ok (items, false) => (takeApart rest).map (items ++ ·)
      | .ok (items, true) =>
        match rest with
        | [] => .ok items
        | _ :: rest => (takeApart rest).map (items ++ ·)
    else (takeApart rest).map (.argument arg :: ·)

/-! ## Reading values -/

/-- What a run of the program is asked to do. -/
structure Options where
  url : Option String := none
  config : Option String := none
  debug : Bool := false
  quiet : Bool := false
  listen : ListenAddress := {}
  protocol : Option String := none
  logStyle : String := "fancy"
  deriving DecidableEq, Repr

/-- What a command line asks for. -/
inductive Request where
  | run (options : Options)
  | showVersion
  | showHelp
  deriving DecidableEq, Repr

/-- The styles of log lines. -/
def logStyles : List String := ["fancy", "plain"]

/-- The options that have been given values, in the order of their first use,
each with its last value. -/
def lastValues (items : List Item) : List (Valued × String) :=
  let given := items.filterMap fun | .valued option value => some (option, value) | _ => none
  (given.map (·.1)).eraseDups.filterMap fun option =>
    (given.reverse.lookup option).map (option, ·)

/-- The request for help or the version that comes first. -/
def shownFirst (items : List Item) : Option Request :=
  items.findSome? fun
    | .flag .version => some .showVersion
    | .flag .help => some .showHelp
    | _ => none

/-- The last setting of each switch. -/
def switches (items : List Item) : Bool × Bool :=
  items.foldl (fun (debug, quiet) item =>
    match item with
    | .flag (.debug on) => (on, quiet)
    | .flag (.quiet on) => (debug, on)
    | _ => (debug, quiet)) (false, false)

/-- The arguments that are no options. -/
def arguments (items : List Item) : List String :=
  items.filterMap fun | .argument text => some text | _ => none

/-- The full path of a settings file. -/
def readConfig (home : List String) (name : String) : Except Problem String :=
  if name.toList.contains '\x00' then .error .unusablePath
  else .ok (Settings.pathText (Settings.resolve home name))

/-- The address to listen on. -/
def readListen (value : String) : Except Problem ListenAddress :=
  match ListenAddress.parse value with
  | some address => .ok address
  | none => .error .badValue

/-- The style of log lines. -/
def readLogStyle (value : String) : Except Problem String :=
  if logStyles.contains value then .ok value else .error .badValue

/-- Reads the value of one option. -/
def readValue (home : List String) (o : Options) : Valued × String → Except Problem Options
  | (.config, value) => (readConfig home value).map fun name => { o with config := some name }
  | (.listen, value) => (readListen value).map fun address => { o with listen := address }
  | (.protocol, value) => .ok { o with protocol := some value }
  | (.logStyle, value) => (readLogStyle value).map fun style => { o with logStyle := style }

/-- Reads the values of options; too many arguments are found out last. -/
def readValues (home : List String) (items : List Item) : Except Problem Options := do
  let (debug, quiet) := switches items
  let o ← (lastValues items).foldlM (readValue home)
    { url := (arguments items).head?, debug, quiet }
  if 1 < (arguments items).length then throw .tooManyArguments else return o

/-- Reads a command line in a working directory. -/
def parse (home : List String) (args : List String) : Except Problem Request := do
  let items ← takeApart args
  match shownFirst items with
  | some request => return request
  | none => return .run (← readValues home items)

end TunnelRelay.CommandLine
