import TunnelRelay.Value
/-!
# Faults

A fault is what goes wrong: at the system beneath (`SystemFault`), on a byte
stream that is broken or closed, in a value or a key, or in forwarding itself.
It has arguments and may have another fault as its cause. `message` is its
text; `account` is what a report of it says, and is never empty.

The arguments are whatever values they were made with. A fault of the system
has a number and a text first, and may have the files that it is about after
them.
-/

namespace TunnelRelay

/-- The faults that the operating system and the libraries beneath report. -/
inductive SystemFault where
  | general
  | connection
  | connectionReset
  | connectionRefused
  | connectionAborted
  | brokenPipe
  | fileNotFound
  | permission
  | timeout
  | nameResolution
  | tls
  | certificate
  | blocking
  | childProcess
  | fileExists
  | isDirectory
  | notDirectory
  | interrupted
  | processLookup
  | windows (code : Option Int)
  deriving DecidableEq, Repr

namespace SystemFault

/-- The name under which the fault is shown. -/
def name : SystemFault → String
  | .general => "OSError"
  | .connection => "ConnectionError"
  | .connectionReset => "ConnectionResetError"
  | .connectionRefused => "ConnectionRefusedError"
  | .connectionAborted => "ConnectionAbortedError"
  | .brokenPipe => "BrokenPipeError"
  | .fileNotFound => "FileNotFoundError"
  | .permission => "PermissionError"
  | .timeout => "TimeoutError"
  | .nameResolution => "gaierror"
  | .tls => "SSLError"
  | .certificate => "SSLCertVerificationError"
  | .blocking => "BlockingIOError"
  | .childProcess => "ChildProcessError"
  | .fileExists => "FileExistsError"
  | .isDirectory => "IsADirectoryError"
  | .notDirectory => "NotADirectoryError"
  | .interrupted => "InterruptedError"
  | .processLookup => "ProcessLookupError"
  | .windows _ => "WinError"

/-- The fault that an error number of the system stands for. -/
def ofNumber (n : Int) : SystemFault :=
  if n = 1 ∨ n = 13 then .permission
  else if n = 2 then .fileNotFound
  else if n = 3 then .processLookup
  else if n = 4 then .interrupted
  else if n = 10 then .childProcess
  else if n = 11 ∨ n = 114 ∨ n = 115 then .blocking
  else if n = 17 then .fileExists
  else if n = 20 then .notDirectory
  else if n = 21 then .isDirectory
  else if n = 32 ∨ n = 108 then .brokenPipe
  else if n = 103 then .connectionAborted
  else if n = 104 then .connectionReset
  else if n = 110 then .timeout
  else if n = 111 then .connectionRefused
  else .general

end SystemFault

/-- The kinds of faults. The last five belong to forwarding. -/
inductive Fault.Kind where
  | system (fault : SystemFault)
  | brokenResource
  | closedResource
  | value
  | runtime
  | key
  | endOfFile
  | index
  | mismatch
  | attribute
  | assertion
  | malformedScript
  | other (name : String)
  | forwarding
  | dialFailure
  | invalidDestination (url : Value)
  | relayFailure (fromInbound fromOutbound : Value)
  | sourceUnavailable
  deriving DecidableEq, Repr

/-- A fault, with its arguments and the fault that caused it. -/
inductive Fault where
  | mk (kind : Fault.Kind) (args : List Value) (cause : Option Fault)

instance : Inhabited Fault := ⟨.mk .value [] none⟩

namespace Fault

namespace Kind

/-- The name under which a fault of this kind is shown. -/
def name : Kind → String
  | .system f => f.name
  | .brokenResource => "BrokenResourceError"
  | .closedResource => "ClosedResourceError"
  | .value => "ValueError"
  | .runtime => "RuntimeError"
  | .key => "KeyError"
  | .endOfFile => "EOFError"
  | .index => "IndexError"
  | .mismatch => "TypeError"
  | .attribute => "AttributeError"
  | .assertion => "AssertionError"
  | .malformedScript => "SyntaxError"
  | .other name => name
  | .forwarding => "ForwardingError"
  | .dialFailure => "DialFailure"
  | .invalidDestination _ => "InvalidDestination"
  | .relayFailure _ _ => "RelayFailure"
  | .sourceUnavailable => "SourceUnavailable"

/-- Whether the system beneath reported the fault. -/
def isSystem : Kind → Bool
  | .system _ => true
  | _ => false

/-- Whether the fault is one of reading from or writing to a byte stream. -/
def isStream : Kind → Bool
  | .system _ | .brokenResource | .closedResource => true
  | _ => false

/-- Whether the fault is about a value; a certificate that fails verification
is both that and a fault of the system. -/
def isValue : Kind → Bool
  | .value | .system .certificate => true
  | _ => false

/-- Whether the fault is one of forwarding. -/
def isForwarding : Kind → Bool
  | .forwarding | .dialFailure | .invalidDestination _ | .relayFailure _ _ | .sourceUnavailable =>
    true
  | _ => false

end Kind

/-- The kind of a fault. -/
def kind : Fault → Kind
  | mk k _ _ => k

/-- The arguments of a fault. -/
def args : Fault → List Value
  | mk _ a _ => a

/-- The fault that caused this one. -/
def cause : Fault → Option Fault
  | mk _ _ c => c

/-- The same fault with another cause. -/
def withCause (f : Fault) (cause : Option Fault) : Fault := mk f.kind f.args cause

/-- Whether the third argument of a fault of the system is a file. That of an
operation that would block may be a number instead, of what was done. -/
def namesFile (kind : SystemFault) (file : Value) : Bool :=
  file ≠ .none && !(kind = .blocking && file.number?.isSome)

/-- The files that the arguments of a fault of the system name. After number
and text there may be a file, and after one more argument a second file. -/
def filesOf (kind : SystemFault) : List Value → List Value
  | [_, _, file] | [_, _, file, _] => if namesFile kind file then [file] else []
  | [_, _, file, _, second] =>
    if namesFile kind file then file :: (if second = .none then [] else [second]) else []
  | _ => []

/-- The number of a fault of the system, which comes before its text. -/
def number? (f : Fault) : Option Value :=
  match f.kind, f.args with
  | .system _, number :: _ :: rest =>
    if rest.length ≤ 3 ∧ number ≠ .none then some number else none
  | _, _ => none

/-- The arguments that a fault shows; files are in its text instead. -/
def shownArgs : Kind → List Value → List Value
  | .system kind, args => if filesOf kind args = [] then args else args.take 2
  | _, args => args

/-- The files after the text of a fault of the system. -/
def filesText (files : List Value) : String :=
  if files = [] then "" else ": " ++ String.intercalate " -> " (Value.literals files)

/-- The text of a fault of the system: number, text and files. TLS faults show
the text alone. Arguments that are too few or too many have no such meaning. -/
def systemMessage (kind : SystemFault) (args : List Value) : String :=
  let all := Value.tupleLiteral (shownArgs (.system kind) args)
  let isTls := kind = .tls || kind = .certificate
  match args with
  | number :: text :: rest =>
    if 3 < rest.length then all
    else if isTls then
      match text with
      | .string s => s
      | _ => all
    else "[Errno " ++ number.text ++ "] " ++ text.text ++ filesText (filesOf kind args)
  | [v] => if isTls then all else v.text
  | [] => if isTls then all else ""

/-- The text that a fault of the given kind makes of its arguments: its only
argument as it is (quoted if it is a missing key), or all of them in brackets;
faults of the system have texts of their own. -/
def messageOf : Kind → List Value → String
  | .system kind, args => systemMessage kind args
  | _, [] => ""
  | .key, [v] => v.literal
  | _, [v] => v.text
  | _, args => Value.tupleLiteral args

/-- The text of a fault. -/
def message (f : Fault) : String := messageOf f.kind f.args

/-- The fault as a whole: its name and its arguments. -/
def display (f : Fault) : String :=
  f.kind.name ++ "(" ++ Value.commaSeparated (Value.literals (shownArgs f.kind f.args)) ++ ")"

/-- What is reported of a fault: the text of its cause if it has one, else
its own text, or the fault as a whole where that text is empty. -/
def account (f : Fault) : String :=
  let text := (f.cause.getD f).message
  if text = "" then f.display else text

/-- A fault of the given kind with one text. -/
def ofText (kind : Kind) (text : String) : Fault := mk kind [.string text] none

/-- A fault of the system, given by number and text; the number alone decides
what kind it is. -/
def ofNumber (number : Int) (text : String) : Fault :=
  mk (.system (.ofNumber number)) [.int number, .string text] none

/-- A destination that is malformed, incomplete or not supported. -/
def invalidDestination (message url : Value) : Fault :=
  mk (.invalidDestination url) [message.orText "Invalid destination URL"] none

/-- A source that fails while the next connection is waited for. -/
def sourceUnavailable (message : Value) : Fault :=
  mk .sourceUnavailable [message.orText "Tunnel source is unavailable"] none

/-- A relay ended by a fault, with the numbers of bytes moved before. -/
def relayFailure (message fromInbound fromOutbound : Value) : Fault :=
  mk (.relayFailure fromInbound fromOutbound) [message.orText "Relay failed"] none

/-- An outbound leg that could not be established, for the given reason. -/
def dialFailure (message : String) (cause : Fault) : Fault :=
  mk .dialFailure [.string message] (some cause)

/-- What a byte stream answers that was closed on this side. -/
def streamClosed : Fault := ofText .closedResource "stream was closed"

end Fault

end TunnelRelay
