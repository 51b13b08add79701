import TunnelRelay.Settings.Script
import TunnelRelay.Text.Numeral
/-!
# Written settings files

The text of a settings file has one assignment to a line, of the form
`NAME = value`. A value is an integer, a text in single or double quotes, or
one of the words `None`, `True` and `False`. Blank lines and all that follows a
`#` outside of quotes do not count. Any other line cannot be read, and with it
the file cannot.
-/

namespace TunnelRelay.Settings

namespace Reader

/-- Whether nothing is left on the line that counts. -/
def isNothing (s : List Char) : Bool :=
  match s.dropWhile Text.isBlank with
  | [] | '#' :: _ => true
  | _ => false

/-- The character that a letter after a backslash stands for. -/
def escaped? (c : Char) : Option Char :=
  [('\\', '\\'), ('\'', '\''), ('"', '"'), ('n', '\n'), ('r', '\r'), ('t', '\t')].lookup c

/-- The text up to the closing quote, and what follows that. -/
def readQuoted (quote : Char) : List Char → Option (List Char × List Char)
  | [] => none
  | '\\' :: c :: rest =>
    (escaped? c).bind fun e =>
      (readQuoted quote rest).map fun (text, after) => (e :: text, after)
  | c :: rest =>
    if c = quote then some ([], rest)
    else (readQuoted quote rest).map fun (text, after) => (c :: text, after)

/-- The values that have a name. -/
def words : List (String × Value) :=
  [("None", .none), ("True", .bool true), ("False", .bool false)]

/-- Reads a named value or an integer. -/
def readWord (s : List Char) : Option Value :=
  let word := (Text.beforeFirst '#' s).reverse.dropWhile Text.isBlank |>.reverse
  words.lookup (String.ofList word) <|> (Text.Numeral.parse word).toOption.map .int

/-- Reads a value, which is all that counts on the rest of the line. -/
def readValue (s : List Char) : Option Value :=
  match s.dropWhile Text.isBlank with
  | [] => none
  | c :: rest =>
    if c = '\'' ∨ c = '"' then
      (readQuoted c rest).bind fun (text, after) =>
        if isNothing after then some (.string (String.ofList text)) else none
    else readWord (c :: rest)

/-- Reads a name and the equals sign after it; also gives what follows. -/
def readName (s : List Char) : Option (String × List Char) :=
  let isPart := Text.identifierPart.holds
  match (s.dropWhile isPart).dropWhile Text.isBlank with
  | '=' :: rest => some (String.ofList (s.takeWhile isPart), rest)
  | _ => none

/-- Reads a line that is not empty. -/
def readAssignment (line : List Char) : Statement :=
  match (readName line).bind fun (name, rest) => (readValue rest).map (name, ·) with
  | some (name, value) => .ofWritten name value
  | none => .malformed

end Reader

/-- Reads the text of a settings file. -/
def Script.ofText (text : String) : Script :=
  ((Text.pieces '\n' text.toList).filter (!Reader.isNothing ·)).map Reader.readAssignment

end TunnelRelay.Settings
