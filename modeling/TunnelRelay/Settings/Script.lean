import TunnelRelay.Fault.Named
import TunnelRelay.Settings.Store
import TunnelRelay.Text.Cut
import TunnelRelay.Text.Identifier
import TunnelRelay.Text.Normal
/-!
# Settings files

A settings file is a script that assigns values to names. Nothing of a script
counts if it cannot be read or fails. Scripts are found in a tree of files by
paths, which are taken from a working directory on; the faults of not finding
one are those of the system.
-/

namespace TunnelRelay.Settings

/-- A statement of a settings file. -/
inductive Statement where
  | assign (assignment : Assignment)
  /-- Something that cannot be read. -/
  | malformed
  /-- Something that fails when it is carried out. -/
  | fail (fault : Fault)

namespace Statement

/-- The words that have a meaning of their own and cannot be assigned to. -/
def reservedWords : List String :=
  ["False", "None", "True", "__debug__", "and", "as", "assert", "async", "await", "break", "class",
    "continue", "def", "del", "elif", "else", "except", "finally", "for", "from", "global", "if",
    "import", "in", "is", "lambda", "nonlocal", "not", "or", "pass", "raise", "return", "try",
    "while", "with", "yield"]

/-- The assignment of a value to a name as it is written; names that differ
only in how they are written are the same name. -/
def ofWritten (name : String) (value : Value) : Statement :=
  if Text.isIdentifier name.toList && !reservedWords.contains name then
    .assign (String.ofList (Text.normal name.toList), value)
  else .malformed

/-- The kinds of faults that a script knows by name, besides those of the
system. -/
def knownFaults : List String :=
  ["ArithmeticError", "AssertionError", "AttributeError", "BlockingIOError", "BufferError",
    "BytesWarning", "ChildProcessError", "DeprecationWarning", "EOFError", "EncodingWarning",
    "Exception", "FileExistsError", "FloatingPointError", "FutureWarning", "ImportError",
    "ImportWarning", "IndexError", "InterruptedError", "IsADirectoryError", "KeyError",
    "LookupError", "MemoryError", "ModuleNotFoundError", "NameError", "NotADirectoryError",
    "NotImplementedError", "OverflowError", "PendingDeprecationWarning", "ProcessLookupError",
    "RecursionError", "ReferenceError", "ResourceWarning", "RuntimeError", "RuntimeWarning",
    "StopAsyncIteration", "StopIteration", "SyntaxWarning", "SystemError", "TypeError",
    "UnboundLocalError", "UnicodeError", "UnicodeWarning", "UserWarning", "ValueError", "Warning",
    "ZeroDivisionError"]

/-- The kinds of faults that say that a script cannot be read. -/
def readingFaults : List String := ["IndentationError", "SyntaxError", "TabError"]

/-- The kinds of faults of libraries, which a script does not know. -/
def foreignFaults : List String := ["gaierror", "SSLError", "SSLCertVerificationError"]

/-- The statement that fails with a fault of the given name and text. A name
that scripts do not know is itself a fault. -/
def ofFault (name text : String) : Statement :=
  .fail
    (if readingFaults.contains name then .ofText .malformedScript text
    else if name = "EnvironmentError" ∨ name = "IOError" then .ofText (.system .general) text
    else if knownFaults.contains name ∨
        Fault.systemFaults.any (·.name = name) ∧ ¬ foreignFaults.contains name then
      Fault.named name [.string text]
    else .ofText (.other "NameError") ("name '" ++ name ++ "' is not defined"))

end Statement

/-- A settings file. -/
abbrev Script := List Statement

namespace Script

/-- Whether the whole script can be read. -/
def isReadable (s : Script) : Bool := !s.any (· matches .malformed)

/-- What the statements assign, unless one fails. -/
def carryOut : Script → Except Fault (List Assignment)
  | [] => .ok []
  | .assign a :: rest => (carryOut rest).map (a :: ·)
  | .malformed :: rest => carryOut rest
  | .fail fault :: _ => .error fault

/-- What a script assigns. -/
def assignments (s : Script) : Except Fault (List Assignment) :=
  if s.isReadable then s.carryOut else .error (.mk .malformedScript [] none)

end Script

/-! ## Paths -/

/-- The path that the pieces of a name lead to from another path. -/
def follow (start : List String) (pieces : List String) : List String :=
  pieces.foldl (fun path piece =>
    if piece = "" ∨ piece = "." then path
    else if piece = ".." then path.dropLast
    else path ++ [piece]) start

/-- The path that a name means in a working directory. -/
def resolve (home : List String) (name : String) : List String :=
  let start := if name.toList.head? = some '/' then [] else home
  follow start ((Text.pieces '/' name.toList).map String.ofList)

/-- The written form of a path. -/
def pathText (path : List String) : String := "/" ++ String.intercalate "/" path

/-! ## Files -/

/-- Whether the fault means that there is no file of that name. -/
def Files.isAbsence (fault : Fault) : Bool :=
  match fault.number? with
  | some (.int n) => n = 2 || n = 20 || n = 21
  | _ => false

/-- What a path can lead to. -/
inductive Entry where
  | directory
  | script (script : Script)
  /-- A file that is there but cannot be opened, with the fault of opening it. -/
  | locked (fault : Fault) (present : Files.isAbsence fault = false)

/-- A tree of files, with the working directory. -/
structure Files where
  home : List String := []
  entries : List (List String × Entry) := []

namespace Files

/-- Whether one path leads to or through another. -/
def leadsThrough (path through : List String) : Bool := path.take through.length = through

/-- What a path leads to. There are directories on the way to all entries and
to the working directory. -/
def lookup (f : Files) (path : List String) : Option Entry :=
  match f.entries.lookup path with
  | some entry => some entry
  | none =>
    if (f.home :: f.entries.map (·.1)).any (leadsThrough · path) then some .directory else none

/-- The greatest number of bytes in one piece of a path. -/
def maxPiece : Nat := 255

/-- The greatest number of bytes in a path. -/
def maxPath : Nat := 4095

/-- A path with nothing at its end. -/
def notFound : Fault := .ofNumber 2 "No such file or directory"
/-- A path through something that is no directory. -/
def notADirectory : Fault := .ofNumber 20 "Not a directory"
/-- A directory in the place of a file. -/
def isADirectory : Fault := .ofNumber 21 "Is a directory"
/-- A piece of a path, or a path, that is too long. -/
def nameTooLong : Fault := .ofNumber 36 "File name too long"
/-- A name that no file can have. -/
def nulInName : Fault := .ofText .value "embedded null byte"

/-- The script that the pieces of a path lead to from a path that has been
reached. -/
def walk (f : Files) (reached : List String) : List String → Except Fault Script
  | [] =>
    match f.lookup reached with
    | some (.script s) => .ok s
    | some (.locked fault _) => .error fault
    | some .directory => .error isADirectory
    | none => .error notFound
  | piece :: rest =>
    match f.lookup reached with
    | some .directory =>
      if maxPiece < piece.utf8ByteSize then .error nameTooLong
      else walk f (reached ++ [piece]) rest
    | some (.script _) | some (.locked _ _) => .error notADirectory
    | none => .error notFound

/-- The script of a name. -/
def read (f : Files) (name : String) : Except Fault Script :=
  let path := resolve f.home name
  if name.toList.contains '\x00' then .error nulInName
  else if maxPath < (pathText path).utf8ByteSize then .error nameTooLong
  else f.walk [] path

end Files

end TunnelRelay.Settings
