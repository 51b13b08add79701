import TunnelRelay.Fault
/-!
# Log records

What the forwarder says about its work is data: a record names the part that
speaks, the weight of what it says, the connection or tunnel it is about, and
whether it tells of a request, a success or a failure.
-/

namespace TunnelRelay.Log

/-- The weight of a record. -/
structure Level where
  number : Int
  deriving DecidableEq, Repr

namespace Level

/-- Details of the work. -/
def debug : Level := ⟨10⟩
/-- The course of the work. -/
def info : Level := ⟨20⟩
/-- Something that went wrong and is dealt with. -/
def warning : Level := ⟨30⟩
/-- Something that went wrong. -/
def error : Level := ⟨40⟩
/-- Something that ends the work. -/
def critical : Level := ⟨50⟩

/-- The levels that can be asked for by name; some have a second one. -/
def named : List (String × Level) :=
  [("CRITICAL", critical), ("FATAL", critical), ("ERROR", error), ("WARN", warning),
    ("WARNING", warning), ("INFO", info), ("DEBUG", debug), ("NOTSET", ⟨0⟩)]

/-- The level that a number or a name asks for. -/
def ofValue (v : Value) : Except Fault Level :=
  match v, v.number? with
  | .string name, _ =>
    match named.lookup name with
    | some level => .ok level
    | none => .error (.ofText .value ("Unknown level: " ++ v.literal))
  | _, some n => .ok ⟨n⟩
  | _, none =>
    .error (.ofText .mismatch ("Level not an integer or a valid string: " ++ v.literal))

/-- The name of a level; a number without a name is shown itself. -/
def name (level : Level) : String :=
  if level = debug then "DEBUG"
  else if level = info then "INFO"
  else if level = warning then "WARNING"
  else if level = error then "ERROR"
  else if level = critical then "CRITICAL"
  else if level.number = 0 then "NOTSET"
  else "Level " ++ toString level.number

end Level

/-- The parts of the program that speak. -/
inductive Channel where
  | main
  | app
  | connections
  | degradation
  | forwarder
  | relay
  deriving DecidableEq, Repr

/-- The name under which a part speaks. -/
def Channel.name : Channel → String
  | .main => "tunnelforward"
  | .app => "tunnelforward.app"
  | .connections => "tunnelforward.connections"
  | .degradation => "tunnelforward.degradation"
  | .forwarder => "tunnelforward.forwarder"
  | .relay => "tunnelforward.relay"

/-- The semantics of a record that tells of a request. -/
def request : String := "request"
/-- The semantics of a record that tells of a success. -/
def success : String := "success"
/-- The semantics of a record that tells of a failure. -/
def failure : String := "failure"

/-- What a record is about. -/
structure Subject where
  /-- The connection or tunnel; the empty text if there is none. -/
  id : Value := .string ""
  /-- The semantics, if the record tells of a request and what became of it. -/
  semantics : Value := .none
  deriving DecidableEq, Repr

/-- One thing said. -/
structure Record extends Subject where
  channel : String
  level : Level
  message : String
  /-- The name of the fault whose origin is shown with the record. -/
  trace : Option String := none
  deriving DecidableEq, Repr

/-- A record of the given part about a subject. -/
def sayOf (subject : Subject) (channel : Channel) (level : Level) (message : String) : Record :=
  { subject with channel := channel.name, level, message }

/-- A record of the given part. -/
def say (channel : Channel) (level : Level) (message : String) (id : String := "")
    (semantics : Option String := none) : Record :=
  sayOf { id := .string id, semantics := .ofOption semantics } channel level message

/-- A record of an unexpected fault, shown with its origin. -/
def sayUnexpected (channel : Channel) (message id fault : String) : Record :=
  { say channel .error message id with trace := some fault }

end TunnelRelay.Log
