import TunnelRelay.CommandLine.Options
/-!
# Help on the command line

The text that explains the command line, and what is said of one that is
refused.
-/

namespace TunnelRelay.CommandLine

/-- The form of a command line. -/
def usageText : String := "Usage: tunnelforward [OPTIONS] [URL]\n"

/-- The options and what each is for. -/
def optionTexts : List (String × List String) :=
  [("-c, --config PATH",
      ["Name of the configuration file to load; defaults",
        "to tunnelforward.cfg in the current directory"]),
    ("-d, --debug / --no-debug", ["Start the forwarder in debug mode"]),
    ("-q, --quiet / --no-quiet", ["Start the forwarder in quiet mode"]),
    ("-l, --listen HOST:PORT", ["Address to accept inbound connections on"]),
    ("-p, --protocol TAG",
      ["Protocol of the inbound connections, e.g. http,", "https or tcp"]),
    ("--log-style [fancy|plain]", ["Specify the style of the logging output"]),
    ("--version", ["Show the version and exit."]),
    ("--help", ["Show this message and exit."])]

/-- The column in which explanations start. -/
def explanationColumn : Nat := 29

/-- The lines about one option: the option stands before the first line of
its explanation. -/
def optionLines (option : String) (explanation : List String) : List String :=
  explanation.mapIdx fun i line =>
    let start := if i = 0 then "  " ++ option else ""
    String.ofList (start.toList.rightpad explanationColumn ' ') ++ line ++ "\n"

/-- What is shown for a request of help. -/
def helpText : String :=
  usageText ++ "\n  Forward inbound connections to the local destination given by URL.\n\nOptions:\n" ++
    String.join (optionTexts.flatMap fun (option, explanation) => optionLines option explanation)

/-- What is said of a problem. -/
def Problem.message : Problem → String
  | .unknownOption => "No such option."
  | .misusedOption => "An option needs a value and has none, or has one and needs none."
  | .badValue => "Invalid value of an option."
  | .tooManyArguments => "Got unexpected extra arguments."
  | .unusablePath => "No file can have such a path."

/-- What is shown of a command line that is refused. -/
def refusalText (problem : Problem) : String :=
  usageText ++ "Try 'tunnelforward --help' for help.\n\nError: " ++ problem.message ++ "\n"

/-- The exit code of a command line that is refused. -/
def refusalCode : Nat := 2

end TunnelRelay.CommandLine
