import TunnelRelay.Connection.Opening
import TunnelRelay.Machine
/-!
# The life of a connection

A connection is opened, used and closed, or its leg is taken out of it and
left to somebody else. Several tasks may try so at the same time, and each can
be cancelled where it waits. The state of the connection and the leg it holds
are two things, changed before and after each wait; `Lifecycle.machine` has
one action for each stretch of work between two waits, so its runs are all
interleavings of the tasks.
-/

namespace TunnelRelay

/-- The states of a connection. -/
inductive Connection.State where
  | disconnected
  | connecting
  | connected
  | disconnecting
  deriving DecidableEq, Repr

/-- The name under which a state is shown. -/
def Connection.State.name : Connection.State → String
  | .disconnected => "DISCONNECTED"
  | .connecting => "CONNECTING"
  | .connected => "CONNECTED"
  | .disconnecting => "DISCONNECTING"

/-- A connection. The stream it holds is known by its number among the
streams that have been delivered to it. -/
structure Connection where
  transport : Transport
  state : Connection.State := .disconnected
  stream : Option Nat := none
  peer : Option String := none
  /-- The number of tries that the last opening of a pipe has taken. -/
  attempts : Nat := 0
  deriving DecidableEq, Repr

namespace Connection

/-- A connection that has not been opened yet. -/
def new (transport : Transport) : Connection :=
  { transport, peer := transport.initialPeer }

/-- The connection to a destination. -/
def ofDestination (platform : Platform) (d : Destination) : Except Fault Connection :=
  ((Registry.standard platform).create d).map new

/-- The fault of opening a connection that is neither open nor closed. -/
def busyFault (state : State) : Fault :=
  .ofText .runtime ("cannot open connection in state " ++ state.name)

/-- The fault of taking the stream out of a connection that has none. -/
def notOpenFault : Fault := .ofText .runtime "connection is not open"

end Connection

namespace Lifecycle

/-- What a task on a connection waits for. -/
inductive Task where
  | dialing (guard : Option Opening.Guard)
  | handshaking (stream : Nat) (guard : Opening.Guard)
  | closing (stream : Nat)
  | finished
  deriving DecidableEq, Repr

/-- Whether the task waits for the result of a dial. -/
def Task.isDialing : Task → Bool
  | .dialing _ => true
  | _ => false

/-- What is asked of a connection. -/
inductive Call where
  | opening
  | closing
  | detaching
  deriving DecidableEq, Repr

/-- How a call ends. -/
inductive Result where
  | done
  | failed (fault : Fault)
  | cancelled

/-- The events of a connection. -/
inductive Event where
  | state (old new : Connection.State)
  | ended (call : Call) (result : Result)
  | opening (event : Opening.Event)

/-- The actions on a connection. -/
inductive Act where
  /-- A task begins to open the connection; `load` is what loading the
  certificates would give. -/
  | start (load : Trust.Outcome Trust.Context)
  /-- A task begins to close the connection. -/
  | shut
  | detach
  /-- The dial of a task gives its result. -/
  | delivered (task : Nat) (result : Except Fault Delivery)
  /-- The handshake of a task ends, with its fault if it fails. -/
  | handshaken (task : Nat) (fault : Option Fault)
  /-- The close that a task waits for goes through. -/
  | closed (task : Nat)
  | cancel (task : Nat)
  /-- The closes of all streams are no longer held up. -/
  | release

end Lifecycle

/-- A connection, the streams delivered to it, and the tasks at work on it. -/
structure Lifecycle where
  connection : Connection
  /-- All streams that dials have delivered, oldest first. -/
  streams : List Leg := []
  tasks : List Lifecycle.Task := []
  cache : Trust.Cache Trust.Context := {}
  /-- The streams that openings have put into the connection, latest first. -/
  opened : List Nat := []
  /-- The streams that have been closed or begun to be, whether held by the
  connection or still on their way to it, latest first. -/
  shut : List Nat := []
  /-- The streams handed out, latest first. -/
  handedOut : List Nat := []

namespace Lifecycle

/-- A connection that no task has touched. -/
def start (connection : Connection) : Lifecycle := { connection }

/-- Changes the state, which is an event if it is another one. -/
def setState (l : Lifecycle) (state : Connection.State) : Lifecycle × List Event :=
  ({ l with connection := { l.connection with state } },
    if l.connection.state = state then [] else [.state l.connection.state state])

/-- Puts a task at another place. -/
def moveTask (l : Lifecycle) (task : Nat) (place : Task) : Lifecycle :=
  { l with tasks := l.tasks.set task place }

/-- A call ends in the given state. -/
def endCall (l : Lifecycle) (state : Connection.State) (call : Call) (result : Result) :
    Lifecycle × List Event :=
  let (l, events) := l.setState state
  (l, events ++ [.ended call result])

/-- An opening fails. -/
def failOpening (l : Lifecycle) (fault : Fault) : Lifecycle × List Event :=
  l.endCall .disconnected .opening (.failed (Opening.report fault))

/-- A task begins to open the connection. -/
def beginOpening (l : Lifecycle) (load : Trust.Outcome Trust.Context) : Lifecycle × List Event :=
  match l.connection.state with
  | .connected => (l, [.ended .opening .done])
  | .disconnected =>
    let (l, first) := l.setState .connecting
    let (trusted, cache) := Opening.askTrust l.connection.transport l.cache load
    let l := { l with cache }
    match trusted with
    | .error fault =>
      let (l, rest) := l.failOpening fault
      (l, first ++ rest)
    | .ok guard =>
      ({ l with tasks := l.tasks ++ [.dialing guard] },
        first ++ [.opening (.dial l.connection.transport.target)])
  | state => (l, [.ended .opening (.failed (Connection.busyFault state))])

/-- An opening goes on after one of its stages; the stream of the stage has
the given number. -/
def afterStage (l : Lifecycle) (task stream : Nat) :
    Opening.Result × List Opening.Event → Lifecycle × List Event
  | (.opened leg, events) =>
    let l := { l.moveTask task .finished with streams := l.streams.set stream leg }
    let (l, rest) :=
      { l with
          connection := { l.connection with stream := some stream }
          opened := stream :: l.opened }.endCall .connected .opening .done
    (l, events.map .opening ++ rest)
  | (.handshaking leg guard, events) =>
    ({ l.moveTask task (.handshaking stream guard) with streams := l.streams.set stream leg },
      events.map .opening)
  | (.failed fault leg, events) =>
    let l := l.moveTask task .finished
    let l := leg.elim l fun leg =>
      { l with streams := l.streams.set stream leg, shut := stream :: l.shut }
    let (l, rest) := l.failOpening fault
    (l, events.map .opening ++ rest)

/-- The dial of a task gives its result. -/
def deliver (l : Lifecycle) (task : Nat) (guard : Option Opening.Guard) :
    Except Fault Delivery → Lifecycle × List Event
  | .error fault => (l.moveTask task .finished).failOpening fault
  | .ok delivery =>
    let stream := l.streams.length
    let l := { l with streams := l.streams ++ [delivery.leg] }
    match Opening.peerAfter l.connection.transport l.connection.peer delivery with
    | .error fault => l.afterStage task stream (.failed fault none, [])
    | .ok peer =>
      { l with connection := { l.connection with peer } }.afterStage task stream
        (Opening.afterDelivery guard delivery)

/-- The handshake of a task ends. -/
def handshake (l : Lifecycle) (task stream : Nat) (guard : Opening.Guard)
    (fault : Option Fault) : Lifecycle × List Event :=
  match l.streams[stream]? with
  | some leg => l.afterStage task stream (Opening.afterHandshake guard leg fault)
  | none => (l, [])

/-- A task begins to close the connection. -/
def beginClosing (l : Lifecycle) : Lifecycle × List Event :=
  match l.connection.state, l.connection.stream with
  | .connected, some stream =>
    let (l, events) := l.setState .disconnecting
    ({ l with tasks := l.tasks ++ [.closing stream], shut := stream :: l.shut }, events)
  | .connected, none =>
    let (l, first) := l.setState .disconnecting
    let (l, rest) := l.endCall .disconnected .closing .done
    (l, first ++ rest)
  | _, _ => (l, [.ended .closing .done])

/-- The close of a stream goes through. The connection lets go of whatever
stream it holds by then, unless the close fails. -/
def closeStream (l : Lifecycle) (task stream : Nat) : Option (Lifecycle × List Event) :=
  match l.streams[stream]? with
  | none => none
  | some leg =>
    if leg.closeHeld && !leg.closed then none
    else
      let l :=
        { l.moveTask task .finished with streams := l.streams.set stream leg.closeNow }
      let closed := leg.closeEvents.map fun e => Event.opening (.leg leg.cover e)
      let (l, rest) :=
        match leg.closeFault? with
        | some fault => l.endCall .disconnected .closing (.failed fault)
        | none =>
          { l with connection := { l.connection with stream := none } }.endCall .disconnected
            .closing .done
      some (l, closed ++ rest)

/-- The stream is taken out of the connection and handed to the caller. -/
def detach (l : Lifecycle) : Lifecycle × List Event :=
  match l.connection.stream with
  | none => (l, [.ended .detaching (.failed Connection.notOpenFault)])
  | some stream =>
    { l with
        connection := { l.connection with stream := none }
        handedOut := stream :: l.handedOut }.endCall .disconnected .detaching .done

/-- A task is cancelled where it waits. A stream in its handshake is closed; a
close that is held up leaves its stream as it is. -/
def cancel (l : Lifecycle) (task : Nat) : Option (Lifecycle × List Event) :=
  match l.tasks[task]? with
  | some (.dialing _) =>
    some ((l.moveTask task .finished).endCall .disconnected .opening .cancelled)
  | some (.handshaking stream _) =>
    l.streams[stream]?.map fun leg =>
      let (fault, leg, closed) := Opening.cancelHandshake leg
      let l :=
        { l.moveTask task .finished with
            streams := l.streams.set stream leg, shut := stream :: l.shut }
      let (l, rest) :=
        match fault with
        | some fault => l.failOpening fault
        | none => l.endCall .disconnected .opening .cancelled
      (l, closed.map .opening ++ rest)
  | some (.closing stream) =>
    l.streams[stream]?.map fun leg =>
      let l := { l.moveTask task .finished with streams := l.streams.set stream leg.closeNow }
      let (l, rest) := l.endCall .disconnected .closing .cancelled
      (l, leg.closeEvents.map (fun e => Event.opening (.leg leg.cover e)) ++ rest)
  | _ => none

/-- One action on a connection. -/
def step (l : Lifecycle) : Act → Option (Lifecycle × List Event)
  | .start load => some (l.beginOpening load)
  | .shut => some l.beginClosing
  | .detach => some l.detach
  | .delivered task result =>
    match l.tasks[task]? with
    | some (.dialing guard) => some (l.deliver task guard result)
    | _ => none
  | .handshaken task fault =>
    match l.tasks[task]? with
    | some (.handshaking stream guard) => some (l.handshake task stream guard fault)
    | _ => none
  | .closed task =>
    match l.tasks[task]? with
    | some (.closing stream) => l.closeStream task stream
    | _ => none
  | .cancel task => l.cancel task
  | .release =>
    some ({ l with streams := l.streams.map fun leg => { leg with closeHeld := false } }, [])

/-- The connection and its tasks as a machine. -/
def machine : Machine Lifecycle Act Event := ⟨step⟩

/-! ## Following a script of dial results -/

/-- A connection whose dials take their results from a script. -/
structure Scripted where
  lifecycle : Lifecycle
  plan : List DialScript := []
  /-- What loading the certificates gives. -/
  load : Trust.Outcome Trust.Context := .ok .client

namespace Scripted

/-- What can happen next: the oldest dial that waits takes the next result of
the plan with its handshake, and closes go through. -/
def next (s : Scripted) : Option (Scripted × List Event) :=
  let waiting := s.lifecycle.tasks.findIdx? Task.isDialing
  match waiting, s.plan with
  | some task, script :: plan =>
    (s.lifecycle.step (.delivered task script.result)).map fun (l, first) =>
      let (l, rest) := (l.step (.handshaken task script.handshakeFault)).getD (l, [])
      ({ s with lifecycle := l, plan }, first ++ rest)
  | _, _ =>
    (machine.stepAny s.lifecycle ((List.range s.lifecycle.tasks.length).map .closed)).map
      fun (lifecycle, events) => ({ s with lifecycle }, events)

/-- The script as a machine: what is asked of the connection, then all that
follows from it. -/
def settle : Nat → Scripted → Scripted × List Event
  | 0, s => (s, [])
  | fuel + 1, s =>
    match s.next with
    | none => (s, [])
    | some (s, first) =>
      let (s, rest) := settle fuel s
      (s, first ++ rest)

/-- Takes an action and all that follows from it. -/
def act (s : Scripted) (a : Act) : Scripted × List Event :=
  let (lifecycle, first) := (s.lifecycle.step a).getD (s.lifecycle, [])
  let s := { s with lifecycle }
  let (s, rest) := s.settle (s.plan.length + s.lifecycle.tasks.length)
  (s, first ++ rest)

/-- Adds a result to the plan. -/
def addResult (s : Scripted) (script : DialScript) : Scripted × List Event :=
  let s := { s with plan := s.plan ++ [script] }
  s.settle (s.plan.length + s.lifecycle.tasks.length)

/-- Cancels all tasks, oldest first. -/
def cancelAll (s : Scripted) : Scripted × List Event :=
  (List.range s.lifecycle.tasks.length).foldl
    (fun (s, events) task =>
      let (s, more) := s.act (.cancel task)
      (s, events ++ more))
    (s, [])

/-- Whether the stream that was handed out last is closed. -/
def lastHandedOutClosed? (s : Scripted) : Option Bool :=
  s.lifecycle.handedOut.head?.bind fun stream =>
    s.lifecycle.streams[stream]?.map (·.closed)

end Scripted

end Lifecycle

end TunnelRelay
