import TunnelRelay.App.Preparation
import TunnelRelay.Forwarder.Loop
import TunnelRelay.Text.Numeral
/-!
# Running the app

A session of the app opens its port, which may give several listeners. All but
the first are closed at once; the first is the source of the connections that
are forwarded, and is closed in the end, however the session ends.

`Session.machine` has the actions of the forwarder, those of the listener, and
the end of the session, so its runs are all interleavings of these.
-/

namespace TunnelRelay

namespace App

/-! ## Where to listen -/

/-- The fault of a text that is no integer. -/
def noInteger (text : String) : Fault :=
  .ofText .value ("invalid literal for int() with base 10: " ++
    String.ofList ((Text.quoted text).toList.take 200))

/-- The fault of a numeral with too many digits. -/
def tooManyDigits (digits : Nat) : Fault :=
  .ofText .value ("Exceeds the limit (4300 digits) for integer string conversion: value has " ++
    toString digits ++ " digits; use sys.set_int_max_str_digits() to increase the limit")

/-- The integer that a value stands for. -/
def integerOf : Value → Except Fault Int
  | .int n => .ok n
  | .bool b => .ok (if b then 1 else 0)
  | .string s =>
    match Text.Numeral.parse s.toList with
    | .ok n => .ok n
    | .error .malformed => .error (noInteger s)
    | .error (.tooLong digits) => .error (tooManyDigits digits)
  | v =>
    .error (.ofText .mismatch
      ("int() argument must be a string, a bytes-like object or a real number, not '" ++
        v.kindName ++ "'"))

/-- What the settings say about the port to open. -/
structure Port where
  /-- The host, unless all are listened on. -/
  host : Value
  port : Int
  /-- The protocol of the connections, in lower case. -/
  protocol : String

/-- The port that is configured. -/
def configuredPort (s : Settings) : Except Fault Port := do
  let host := (s.get? listenHostName).getD .none
  let port ← integerOf ((s.get? listenPortName).getD (.int 0))
  let protocol := ((s.get? protocolName).getD (.string "tcp")).text
  return {
    host := if host.isSet then host else .none
    port
    protocol := String.ofList (Text.lower protocol.toList) }

/-- The events of a session. -/
inductive Event where
  | listening (host : Value) (port : Int)
  | listenerClosed
  | log (record : Log.Record)
  | forwarder (event : Forwarder.Event)

/-- The actions of a session. -/
inductive Act where
  /-- Something arrives at the listener. -/
  | arrive (arrival : Listener.Arrival)
  /-- The listener is closed from outside. -/
  | shut
  /-- The forwarder takes what has arrived; some of those who are told fail. -/
  | accept (receivers : Receivers)
  /-- The forwarder does something else. -/
  | forward (act : Forwarder.Act)
  /-- The forwarder has ended, and so does the session. -/
  | finish

end App

/-- A session of the app, with its port open. -/
structure App.Session where
  forwarder : Forwarder
  source : ListenerSource
  listener : Listener := {}
  /-- How the session has ended; it returns an exit code or none. -/
  ending : Option (Ending (Option Nat)) := none

namespace App

/-- The fault of running an app that has not been prepared. -/
def notPrepared : Fault := .mk .assertion [] none

/-- The fault of a port that gives no listener. -/
def noListener : Fault := .ofText .index "list index out of range"

/-- Host and port of a listener. The name of one that is no internet socket is
read as if it were that of one. -/
def hostAndPort : PeerName → Except Fault (Value × Value)
  | .tuple (host :: port :: _) => .ok (host, port)
  | .tuple _ => .error (.ofText .index "tuple index out of range")
  | .plain (.string s) =>
    match s.toList with
    | host :: port :: _ => .ok (.string host.toString, .string port.toString)
    | _ => .error (.ofText .index "string index out of range")
  | .plain (.dict _) => .error (.mk .key [.int 0] none)
  | .plain value =>
    .error (.ofText .mismatch ("'" ++ value.kindName ++ "' object is not subscriptable"))

/-- A session that a fault ends before anything is forwarded. A listener that
was opened before stays open. -/
def failedSession (fault : Fault) (listener : Listener := { closed := true }) : Session :=
  { forwarder := { url := "", sourceId := "", loop := .ended (.raised fault) }
    source := {}, listener, ending := some (.raised fault) }

/-- The session on the listeners that opening the port gave, by their names or
the faults of asking for these. -/
def sessionOn (url : String) (platform : Platform) (port : Port)
    (listeners : List (Except Fault PeerName)) : Session × List Event :=
  let closed := (listeners.drop 1).map fun _ => Event.listenerClosed
  match listeners with
  | [] => (failedSession noListener, [])
  | first :: _ =>
    match first.bind hostAndPort with
    | .error fault => (failedSession fault {}, closed)
    | .ok (host, number) =>
      let source : ListenerSource := { protocol := port.protocol }
      let forwarder : Forwarder := { url, sourceId := source.id, platform }
      ({ forwarder, source },
        closed ++
          [.log (Log.say .app .info ("Accepting " ++ port.protocol ++ " connections on " ++
            host.text ++ ":" ++ number.text) "" Log.success),
            .forwarder forwarder.greeting])

/-- Starts a session; `listeners` is what opening the port gives. -/
def start (a : App) (listeners : Except Fault (List (Except Fault PeerName))) :
    Session × List Event :=
  match a.forwardTo with
  | none => (failedSession notPrepared, [])
  | some url =>
    match configuredPort a.settings with
    | .error fault => (failedSession fault, [])
    | .ok port =>
      let opened := Event.listening port.host port.port
      match listeners with
      | .error fault => (failedSession fault, [opened])
      | .ok listeners =>
        let (session, events) := sessionOn url a.platform port listeners
        (session, opened :: events)

namespace Session

/-- Closes the listener, which is an event the first time. -/
def closeListener (s : Session) : Session × List Event :=
  ({ s with listener := { s.listener with closed := true } },
    if s.listener.closed then [] else [.listenerClosed])

/-- A session with the next state of its forwarder. -/
def withForwarder (s : Session) : Forwarder × List Forwarder.Event → Session × List Event
  | (forwarder, events) => ({ s with forwarder }, events.map .forwarder)

/-- The forwarder takes what has arrived at the listener. -/
def accept (s : Session) (receivers : Receivers) : Option (Session × List Event) :=
  if s.forwarder.loop.isAccepting then
    (s.source.next s.listener).bind fun (supply, source, listener) =>
      (s.forwarder.step (.supplied supply receivers)).map
        { s with source, listener }.withForwarder
  else none

/-- How a session ends after its forwarder, and what it says. -/
def conclude : Ending Unit → Ending (Option Nat) × List Event
  | .returned _ => (.returned none, [])
  | .raised fault =>
    match fault.kind with
    | .sourceUnavailable => (.returned (some 1), [.log (Log.say .app .error fault.message)])
    | _ => (.raised fault, [])
  | .group faults => (.group faults, [])
  | .cancelled => (.cancelled, [])

/-- The end of a session. -/
def finish (s : Session) : Option (Session × List Event) :=
  match s.ending, s.forwarder.loop with
  | none, .ended ending =>
    let (ending, first) := conclude ending
    let (s, rest) := s.closeListener
    some ({ s with ending := some ending }, first ++ rest)
  | _, _ => none

/-- One action of a session. -/
def step (s : Session) : Act → Option (Session × List Event)
  | .arrive arrival =>
    some ({ s with
      listener := { s.listener with arrivals := s.listener.arrivals ++ [arrival] } }, [])
  | .shut => some s.closeListener
  | .accept receivers => s.accept receivers
  | .forward (.supplied _ _) => none
  | .forward act => (s.forwarder.step act).map s.withForwarder
  | .finish => s.finish

/-- The session as a machine. -/
def machine : Machine Session Act Event := ⟨step⟩

/-- What a session does by itself, if nobody who is told of connections
fails. -/
def own (load : Trust.Outcome Trust.Context) (s : Session) : List Act :=
  (s.forwarder.own load).map .forward ++ [.accept {}, .finish]

end Session

end App

end TunnelRelay
