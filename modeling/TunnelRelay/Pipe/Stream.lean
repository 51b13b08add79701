import TunnelRelay.Leg
import TunnelRelay.Machine
/-!
# Streams over pipes

A pipe is read and written by overlapped transfers: a transfer is started on
the handle of the pipe and completes later. One task may read while another
writes. Closing gives the handle back, after which nothing is started on it; a
read that breaks after that was broken by the close, one that breaks before
was ended by the server.
-/

namespace TunnelRelay.Pipe

namespace Stream

/-- What is asked of a stream. -/
inductive Call where
  | receive
  | send
  | close
  | wait
  deriving DecidableEq, Repr

/-- What a call gives. -/
inductive Answer where
  | bytes (data : Bytes)
  | done
  | failed (fault : Fault)

/-- The events of a stream. -/
inductive Event where
  | register (handle : Int)
  | readInto (handle : Int) (size : Nat)
  | write (handle : Int) (data : Bytes)
  | closeHandle (handle : Int)
  | answered (call : Call) (answer : Answer)

/-- The actions on a stream. -/
inductive Act where
  | receive (max : Option Int)
  | send (data : Bytes)
  | close
  | wait
  /-- A pending read completes: the oldest, or the one that comes after the
  given number of older ones. -/
  | readDone (result : Except Fault Bytes) (place : Nat := 0)
  /-- A pending write completes; which one makes no difference. -/
  | writeDone (result : Except Fault Unit)

end Stream

/-- The number of bytes to read at once, unless another is given. -/
def Stream.defaultChunkSize : Int := 65536

/-- A stream over the handle of a pipe. -/
structure Stream where
  /-- The handle, until the stream is closed. -/
  handle : Option Int
  chunkSize : Int := Stream.defaultChunkSize
  /-- The sizes of the buffers of the pending reads, oldest first. -/
  reads : List Nat := []
  /-- The number of pending writes. -/
  writes : Nat := 0

namespace Stream

/-- Whether the stream has been closed. -/
def closed (s : Stream) : Bool := s.handle.isNone

/-- Makes a stream over a handle. Where the handle cannot be registered for
overlapped transfers, it is given back. -/
def make (handle : Int) (chunkSize : Int) (registration : Option Fault) :
    Except Fault Stream × List Event :=
  match registration with
  | none => (.ok { handle := some handle, chunkSize }, [.register handle])
  | some fault => (.error fault, [.register handle, .closeHandle handle])

/-- The size of the buffer of a read: the given one unless it is missing or
zero. -/
def bufferSize (s : Stream) (max : Option Int) : Int :=
  match max with
  | some n => if n = 0 then s.chunkSize else n
  | none => s.chunkSize

/-- The fault of asking for a buffer of negative size. -/
def negativeSize : Fault := .ofText .value "negative count"

/-- Whether the fault says that the pipe is broken. -/
def isBroken (fault : Fault) : Bool := fault.kind = .system .brokenPipe

/-- What a read gives: all bytes that the transfer has delivered. -/
def readAnswer (s : Stream) : Except Fault Bytes → Answer
  | .ok data => .bytes data
  | .error fault =>
    if isBroken fault then if s.closed then .failed .streamClosed else .bytes []
    else .failed fault

/-- The fault of writing to a pipe that the server has closed. -/
def brokenByServer (fault : Fault) : Fault :=
  .mk .brokenResource [.string "pipe was closed by the server"] (some fault)

/-- What a write gives. -/
def writeAnswer : Except Fault Unit → Answer
  | .ok () => .done
  | .error fault => .failed (if isBroken fault then brokenByServer fault else fault)

/-- One action on a stream. -/
def step (s : Stream) : Act → Option (Stream × List Event)
  | .receive max =>
    match s.handle with
    | none => some (s, [.answered .receive (.failed .streamClosed)])
    | some handle =>
      match s.bufferSize max with
      | .ofNat size => some ({ s with reads := s.reads ++ [size] }, [.readInto handle size])
      | .negSucc _ => some (s, [.answered .receive (.failed negativeSize)])
  | .send data =>
    match s.handle with
    | none => some (s, [.answered .send (.failed .streamClosed)])
    | some handle =>
      if data = [] then some (s, [.answered .send .done])
      else some ({ s with writes := s.writes + 1 }, [.write handle data])
  | .close =>
    match s.handle with
    | none => some (s, [.answered .close .done])
    | some handle =>
      some ({ s with handle := none }, [.closeHandle handle, .answered .close .done])
  | .wait => some (s, [.answered .wait .done])
  | .readDone result place =>
    if place < s.reads.length then
      some ({ s with reads := s.reads.eraseIdx place }, [.answered .receive (s.readAnswer result)])
    else none
  | .writeDone result =>
    match s.writes with
    | 0 => none
    | writes + 1 => some ({ s with writes }, [.answered .send (writeAnswer result)])

/-- The stream as a machine. -/
def machine : Machine Stream Act Event := ⟨step⟩

/-! ## Transfers that complete before they start -/

/-- A stream, with the completions that have come before their transfers. -/
structure Scripted where
  stream : Stream
  early : List Act := []

/-- Takes an action; a completion without a transfer waits for the next one. -/
def Scripted.act (s : Scripted) (a : Act) : Scripted × List Event :=
  match s.stream.step a with
  | none => ({ s with early := s.early ++ [a] }, [])
  | some (stream, first) =>
    match s.early.findIdx? fun e => (stream.step e).isSome with
    | none => ({ s with stream }, first)
    | some i =>
      let (stream, rest) := (s.early[i]?.bind stream.step).getD (stream, [])
      ({ stream, early := s.early.eraseIdx i }, first ++ rest)

end Stream

end TunnelRelay.Pipe
