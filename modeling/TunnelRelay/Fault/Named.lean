import TunnelRelay.Fault
/-!
# Faults by name

Whoever scripts the outside world names the faults that it meets. A fault is
made of its name and its arguments, as the name alone would make it: a general
fault of the system with a number becomes the one that the number stands for.
The faults of forwarding that hold more than a text have parameters, which
are given by place or by name.
-/

namespace TunnelRelay.Fault

/-- The faults of the system that are known by name. -/
def systemFaults : List SystemFault :=
  [.general, .connection, .connectionReset, .connectionRefused, .connectionAborted, .brokenPipe,
    .fileNotFound, .permission, .timeout, .nameResolution, .tls, .certificate]

/-- The kinds of faults that hold nothing but their arguments. -/
def plainKinds : List Kind :=
  [.value, .runtime, .key, .endOfFile, .brokenResource, .closedResource, .forwarding,
    .dialFailure] ++ systemFaults.map .system

/-- A fault of the system without a kind of its own takes the kind that its
number stands for, where it has number and text. -/
def systemKind (args : List Value) : SystemFault :=
  match args with
  | number :: _ :: rest => if rest.length ≤ 3 then number.number?.elim .general .ofNumber else .general
  | _ => .general

/-! ## Faults with parameters -/

/-- The parameters of the faults that have some, each with its default. -/
def parameters : List (String × List (String × Value)) :=
  [("InvalidDestination", [("message", .none), ("url", .none)]),
    ("SourceUnavailable", [("message", .none)]),
    ("RelayFailure", [("message", .none), ("from_inbound", .int 0), ("from_outbound", .int 0)])]

/-- The fault of naming something that is no parameter. -/
def unknownParameter (fault parameter : String) : Fault :=
  .ofText .mismatch (fault ++ ".__init__() got an unexpected keyword argument " ++
    "'" ++ parameter ++ "'")

/-- The fault of giving a parameter twice. -/
def repeatedParameter (fault parameter : String) : Fault :=
  .ofText .mismatch (fault ++ ".__init__() got multiple values for argument " ++
    "'" ++ parameter ++ "'")

/-- The fault of more arguments than parameters. The fault that is made counts
as one of both. -/
def tooManyArguments (fault : String) (allowed given : Nat) : Fault :=
  .ofText .mismatch (fault ++ ".__init__() takes from 1 to " ++ toString (allowed + 1) ++
    " positional arguments but " ++ toString (given + 1) ++ " were given")

/-- The fault of naming arguments where there are no parameters. -/
def noParameters (fault : String) : Fault :=
  .ofText .mismatch (fault ++ "() takes no keyword arguments")

/-- The values of parameters: by place, else by name, else the default. -/
def valuesOf (parameters : List (String × Value)) (args : List Value)
    (named : List (String × Value)) : List Value :=
  parameters.mapIdx fun i (name, default) => args.getD i ((named.lookup name).getD default)

/-- What is wrong with the arguments, if anything is. -/
def misuse (fault : String) (parameters : List (String × Value)) (args : List Value)
    (named : List (String × Value)) : Option Fault :=
  (named.findSome? fun (name, _) =>
    match parameters.findIdx? (·.1 = name) with
    | none => some (unknownParameter fault name)
    | some i => if i < args.length then some (repeatedParameter fault name) else none) <|>
  if parameters.length < args.length then
    some (tooManyArguments fault parameters.length args.length)
  else none

/-- The fault with parameters that has the given name and values. -/
def withParameters (name : String) (values : List Value) : Fault :=
  match name, values with
  | "InvalidDestination", [message, url] => invalidDestination message url
  | "SourceUnavailable", [message] => sourceUnavailable message
  | "RelayFailure", [message, fromInbound, fromOutbound] =>
    relayFailure message fromInbound fromOutbound
  | _, values => mk (.other name) values none

/-- Makes a fault of its name and arguments, some of which may be named. Faults
without parameters take any number of arguments, but none by name. -/
def make (name : String) (args : List Value) (named : List (String × Value)) :
    Except Fault Fault :=
  match parameters.lookup name with
  | some parameters =>
    match misuse name parameters args named with
    | some fault => .error fault
    | none => .ok (withParameters name (valuesOf parameters args named))
  | none =>
    if named ≠ [] then .error (noParameters name)
    else .ok (match (plainKinds.find? (·.name = name)).getD (.other name) with
      | .system .general => mk (.system (systemKind args)) args none
      | kind => mk kind args none)

/-- The fault of the given name and arguments; the fault of making it, where it
cannot be made. -/
def named (name : String) (args : List Value) : Fault :=
  match make name args [] with
  | .ok fault | .error fault => fault

end TunnelRelay.Fault
