import TunnelRelay.Connection.Lifecycle
import TunnelRelay.Pipe.Dial
import TunnelRelay.Pipe.Stream
/-!
# Connections to named pipes

Opening such a connection tries to open the pipe until it is no longer busy,
then has a stream made of the handle, and does not try again if that fails. How
the stream is made is up to the caller. The usual maker gives back a handle
that it cannot use; the handle of a stream is given back when the connection is
closed. `Supplied.machine` is the connection under any calls, one after the
other.
-/

namespace TunnelRelay.Pipe

/-- A connection to a named pipe. -/
structure Connection where
  lifecycle : Lifecycle
  pause : Delay := defaultPause
  /-- The streams that have been made, each with its number among the streams of
  the connection. -/
  streams : List Stream := []

namespace Connection

/-- What happens on the way to an open or a closed connection. -/
inductive Event where
  | lifecycle (event : Lifecycle.Event)
  | dial (event : Pipe.Event)
  /-- A handle is passed to the maker of streams. -/
  | passed (handle : Int)
  | stream (event : Stream.Event)

/-- What makes streams of handles: it gives the stream or a fault, and what it
has done with the handle. -/
abbrev Maker := Int → Except Fault Stream × List Stream.Event

/-- The usual maker; `registration` is the fault of registering the handle for
overlapped transfers, if that fails. -/
def overlapped (registration : Option Fault) : Maker := fun handle =>
  Stream.make handle Stream.defaultChunkSize registration

/-- A connection to the pipe with the given address. -/
def new (address : Option String) (pause : Delay := defaultPause) : Connection :=
  { lifecycle := .start (.new (.pipe address)), pause }

/-- What the result of a dial is to the connection. Its streams are byte
streams like all others; the one made last is known by its number. -/
def deliver (c : Connection) (task : Nat) (result : Except Fault Stream) :
    Connection × List Event :=
  let (lifecycle, events) :=
    c.lifecycle.deliver task none (result.map fun _ => { leg := {} })
  ({ c with lifecycle, streams := c.streams ++ result.toOption.toList },
    events.map .lifecycle)

/-- Has a stream made of the handle that a dial gave. -/
def receiveHandle (c : Connection) (task : Nat) (maker : Maker) :
    Except Fault Int → Connection × List Event
  | .error fault => c.deliver task (.error fault)
  | .ok handle =>
    let (made, first) := maker handle
    let (c, rest) := c.deliver task made
    (c, .passed handle :: first.map .stream ++ rest)

/-- The address of the pipe. -/
def address (c : Connection) : Option String := c.lifecycle.connection.transport.initialPeer

/-- Opens the connection with the given maker of streams, given the results of
trying to open the pipe; also gives the results that were not needed. An opening
that waits for ever leaves the connection as it is meanwhile. -/
def connectBy (c : Connection) (maker : Maker) (results : List (Except Fault Int)) :
    Connection × List Event × List (Except Fault Int) :=
  let task := c.lifecycle.tasks.length
  let (lifecycle, first) := c.lifecycle.beginOpening (.ok .client)
  match lifecycle.tasks[task]? with
  | some _ =>
    let dialed := dial c.address c.pause results
    let lifecycle :=
      { lifecycle with connection := { lifecycle.connection with attempts := dialed.attempts } }
    let c := { c with lifecycle }
    let (c, rest) := (dialed.result.map (c.receiveHandle task maker)).getD (c, [])
    (c, first.map .lifecycle ++ dialed.events.map .dial ++ rest, dialed.unused)
  | none => ({ c with lifecycle }, first.map .lifecycle, results)

/-- Opens the connection with the usual maker of streams. -/
def connect (c : Connection) (registration : Option Fault) (results : List (Except Fault Int)) :
    Connection × List Event × List (Except Fault Int) :=
  c.connectBy (overlapped registration) results

/-- Closes the connection; the stream it holds gives back its handle. -/
def close (c : Connection) : Connection × List Event :=
  let task := c.lifecycle.tasks.length
  let held := c.lifecycle.connection.stream
  let (lifecycle, first) := c.lifecycle.beginClosing
  match held, lifecycle.step (.closed task) with
  | some stream, some (lifecycle, rest) =>
    match c.streams[stream]?.bind (·.step .close) with
    | some (closed, given) =>
      ({ c with lifecycle, streams := c.streams.set stream closed },
        first.map .lifecycle ++ given.map .stream ++ rest.map .lifecycle)
    | none => ({ c with lifecycle }, (first ++ rest).map .lifecycle)
  | _, _ => ({ c with lifecycle }, first.map .lifecycle)

/-- The stream is taken out of the connection and handed to the caller. -/
def detach (c : Connection) : Connection × List Event :=
  let (lifecycle, events) := c.lifecycle.detach
  ({ c with lifecycle }, events.map .lifecycle)

/-! ## Calls one after the other -/

/-- What is asked of a connection. -/
inductive Call where
  | connect (maker : Maker)
  | close
  | detach

/-- A connection, with what trying to open the pipe will give. -/
structure Supplied where
  connection : Connection
  results : List (Except Fault Int)

namespace Supplied

/-- One call, to its end. -/
def step (s : Supplied) : Call → Option (Supplied × List Event)
  | .connect maker =>
    let (connection, events, results) := s.connection.connectBy maker s.results
    some ({ connection, results }, events)
  | .close =>
    let (connection, events) := s.connection.close
    some ({ s with connection }, events)
  | .detach =>
    let (connection, events) := s.connection.detach
    some ({ s with connection }, events)

/-- A connection under any calls. -/
def machine : Machine Supplied Call Event := ⟨step⟩

end Supplied

end Connection

end TunnelRelay.Pipe
