import Std.Async.DNS
import Std.Async.Signal
import Std.Async.TCP
import Std.Sync.Channel
import Std.Time
import TunnelRelay.App.Session
import TunnelRelay.CommandLine.Help
import TunnelRelay.CommandLine.Start
import TunnelRelay.Settings.Reader
/-!
# The program

The outer layer: it gives the machine of a session to the sockets of the
system. What happens at a socket becomes an action of the session, and what the
session's events tell of is done to the sockets. A socket is read only once
the session has taken what was read before, and a write holds up its leg until
the system has taken it.

Sockets are those of TCP. There are no root certificates here, nor other ways
to dial, and the session is told so where it asks for them.
-/

namespace TunnelRelay.Program

open Std.Async

/-- A connected socket. -/
abbrev Socket := TCP.Socket.Client

/-! ## Faults and addresses -/

/-- The number and the text of an error of the system. -/
def numbered? : IO.Error → Option (UInt32 × String)
  | .otherError n text | .resourceBusy n text | .resourceVanished n text
  | .unsupportedOperation n text | .hardwareFault n text | .unsatisfiedConstraints n text
  | .illegalOperation n text | .protocolError n text | .timeExpired n text
  | .interrupted _ n text | .noFileOrDirectory _ n text | .invalidArgument _ n text
  | .permissionDenied _ n text | .resourceExhausted _ n text | .inappropriateType _ n text
  | .noSuchThing _ n text | .alreadyExists _ n text => some (n, text)
  | .unexpectedEof | .userError _ => none

/-- The fault of an operation that the system refused. The numbers of sockets
are negative. -/
def faultOf (error : IO.Error) : Fault :=
  match numbered? error with
  | some (n, text) => .ofNumber n.toInt32.toInt.natAbs text
  | none => .ofText (.system .general) (toString error)

/-- The fault of what this program cannot do. -/
def unsupported : Fault := .ofNumber 95 "Operation not supported"

/-- The root certificates. -/
def certificates : Trust.Outcome Trust.Context := .error unsupported

/-- The name of one end of a socket. -/
def nameOf : Std.Net.SocketAddress → PeerName
  | .v4 address => .ofHostPort (toString address.addr) address.port.toNat
  | .v6 address => .ofHostPort (toString address.addr) address.port.toNat

/-- The name of the peer of a socket. -/
def peerOf (socket : Socket) : IO (Except Fault PeerName) := do
  try return .ok (nameOf (← socket.getPeerName))
  catch error => return .error (faultOf error)

/-- The address of a port on a machine. -/
def addressOf (port : Int) : Std.Net.IPAddr → Std.Net.SocketAddress
  | .v4 addr => .v4 { addr, port := .ofNat port.toNat }
  | .v6 addr => .v6 { addr, port := .ofNat port.toNat }

/-- The addresses of a port on the machines of a name. -/
def lookUp (host : String) (port : Int) : Async (List Std.Net.SocketAddress) := do
  return (← DNS.getAddrInfo host "").toList.map (addressOf port)

/-- A socket that is connected to the first of the addresses that answers. -/
def connect : List Std.Net.SocketAddress → Async Socket
  | [] => throw (.userError "the host has no address")
  | address :: rest => do
    try
      let socket ← TCP.Socket.Client.mk
      socket.connect address
      return socket
    catch error => if rest.isEmpty then throw error else connect rest

/-! ## What happens -/

/-- What happens outside of the session. -/
inductive Message where
  | accepted (socket : Socket)
  | dialed (handler : Nat) (socket : Socket)
  | act (act : App.Act)

instance : Inhabited Message := ⟨.act .shut⟩

/-- The socket of a leg, and whether it is being read. -/
structure Wire where
  handler : Nat
  side : Side
  socket : Socket
  reading : Bool := false

/-- A session with its sockets. -/
structure Running where
  session : App.Session
  server : TCP.Socket.Server
  console : Log.Console
  inbox : Std.Channel Message
  wires : List Wire := []
  /-- The number of sockets that have been accepted. -/
  accepted : Nat := 0

/-- Writes a record to the console. -/
def write (console : Log.Console) (record : Log.Record) : IO Unit := do
  let time := (← Std.Time.PlainDateTime.now).format "uuuu-MM-dd HH:mm:ss,SSS"
  (← IO.getStderr).putStr (console.write time record)

namespace Running

/-- Lets a job run that puts what comes of it into the inbox. -/
def start (r : Running) (job : Async Message) : IO Unit := do
  let run : Async Unit := do discard (r.inbox.send (← job))
  discard run.toIO

/-- What happens to a leg. -/
def toLeg (handler : Nat) (side : Side) (act : Leg.Act) : App.Act :=
  .forward (.handler handler (.peer side act))

/-- Waits for the next inbound connection. -/
def accept (r : Running) : IO Unit :=
  r.start do
    try return .accepted (← r.server.accept)
    catch error => return .act (.arrive (.fault (faultOf error)))

/-- Dials for a handler. -/
def dial (r : Running) (handler : Nat) (target : Target) : IO Unit :=
  let failed (fault : Fault) : Message :=
    .act (.forward (.handler handler (.delivered (.error fault))))
  r.start do
    match target with
    | .tcp host port =>
      try return .dialed handler (← connect (← lookUp host (port.getD 0)))
      catch error => return failed (faultOf error)
    | _ => return failed unsupported

/-- The greatest number of bytes in one read. -/
def chunkSize : UInt64 := 65536

/-- Reads from a socket. -/
def read (r : Running) (w : Wire) : IO Unit :=
  r.start do
    let act : Leg.Act ← try
        match ← w.socket.recv? chunkSize with
        | some data => pure (.deliver data.toList)
        | none => pure .finish
      catch error => pure (.snap (faultOf error))
    return .act (toLeg w.handler w.side act)

/-- Writes to a socket; the leg goes on after that. -/
def send (r : Running) (w : Wire) (data : Bytes) : IO Unit :=
  r.start do
    try
      w.socket.send ⟨data.toArray⟩
      return .act (toLeg w.handler w.side .resume)
    catch error =>
      discard (r.inbox.send (.act (toLeg w.handler w.side (.refuse (faultOf error)))))
      return .act (toLeg w.handler w.side .resume)

/-- Closes a socket once all that was written is sent. -/
def close (w : Wire) : IO Unit := do
  let job : Async Unit := do
    try w.socket.shutdown catch _ => pure ()
    w.socket.native.cancelRecv
  discard job.toIO

/-- The socket of a leg. -/
def wire? (r : Running) (handler : Nat) (side : Side) : Option Wire :=
  r.wires.find? fun w => w.handler = handler && w.side = side

/-- The session after something that happened to it without anybody else. -/
def settled (r : Running) (act : App.Act) : Running :=
  { r with session := ((r.session.step act).map (·.1)).getD r.session }

/-- Does what an event of a handler tells of. -/
def carryOut (r : Running) (handler : Nat) : Handler.Event → IO Running
  | .log record => do
    write r.console record
    return r
  | .dial target => do
    r.dial handler target
    return r
  | .leg side _ (.wrote data) =>
    match r.wire? handler side with
    | none => return r
    | some w => do
      r.send w data
      return r.settled (toLeg handler side .stall)
  | .leg side _ .closed => do
    (r.wire? handler side).forM close
    return { r with wires := r.wires.filter fun w => w.handler ≠ handler || w.side ≠ side }
  | _ => return r

/-- Does what an event tells of. -/
def perform (r : Running) : App.Event → IO Running
  | .log record | .forwarder (.log record) => do
    write r.console record
    return r
  | .forwarder (.handler handler event) => r.carryOut handler event
  | _ => return r

/-- Takes an action of the session. -/
def take (r : Running) (act : App.Act) : IO Running :=
  match r.session.step act with
  | none => return r
  | some (session, events) => events.foldlM perform { r with session }

/-- The sockets after a read of one of them has given something. -/
def stopReading (r : Running) (handler : Nat) (side : Side) : Running :=
  { r with
    wires := r.wires.map fun (w : Wire) =>
      if w.handler = handler ∧ w.side = side then { w with reading := false } else w }

/-- Takes what comes from outside. -/
def receive (r : Running) : Message → IO Running
  | .accepted socket => do
    let peer ← peerOf socket
    let r := { r with
      wires := { handler := r.accepted, side := .inbound, socket } :: r.wires
      accepted := r.accepted + 1 }
    r.accept
    r.take (.arrive (.leg {} (some peer)))
  | .dialed handler socket => do
    let peer ← peerOf socket
    let r := { r with wires := { handler, side := .outbound, socket } :: r.wires }
    r.take (.forward (.handler handler
      (.delivered (peer.map fun name => { leg := {}, peer := .ok name }))))
  | .act act => do
    match act with
    | .forward (.handler handler (.peer side (.deliver _))) =>
      (r.stopReading handler side).take act
    | _ => r.take act

/-- Lets the session take its own actions until it has to wait. -/
partial def settle (r : Running) : IO Running :=
  match App.Session.machine.stepAny r.session (r.session.own certificates) with
  | none => return r
  | some (session, events) => do settle (← events.foldlM perform { r with session })

/-- Reads from the sockets whose legs have nothing left to take. -/
def readMore (r : Running) : IO Running := do
  let wires ← r.wires.mapM fun w => do
    let leg := r.session.forwarder.handlers[w.handler]?.bind (·.leg? w.side)
    if !w.reading && leg.any (·.arrivals.isEmpty) then
      r.read w
      return { w with reading := true }
    else return w
  return { r with wires }

/-- Runs the session to its end. -/
partial def run (r : Running) : IO (Ending (Option Nat)) := do
  let r ← r.settle
  match r.session.ending with
  | some ending => return ending
  | none =>
    let r ← r.readMore
    let message ← IO.wait (← r.inbox.recv)
    run (← r.receive message)

end Running

/-! ## From the command line -/

/-- The files that may have settings for the app. -/
def findFiles (home : List String) (a : App) (config : Option String)
    (environment : String → Option String) : IO Settings.Files := do
  let names := (a.layers.fileNames environment config).map (·.1)
  let entries ← names.filterMapM fun name => do
    let path := Settings.resolve home name
    try return some (path, .script (.ofText (← IO.FS.readFile (Settings.pathText path))))
    catch error =>
      let fault := faultOf error
      return if present : Settings.Files.isAbsence fault = false then
        some (path, .locked fault present) else none
  return { home, entries }

/-- Opens a port. -/
def listen (port : App.Port) : IO TCP.Socket.Server := do
  let host := if port.host.isSet then port.host.text else "0.0.0.0"
  match ← (lookUp host port.port).block with
  | [] => throw (.userError "the host has no address")
  | address :: _ =>
    let server ← TCP.Socket.Server.mk
    server.bind address
    server.listen 128
    return server

/-- A session of the app on a port that has been opened. -/
def runOn (a : App) (console : Log.Console) (server : TCP.Socket.Server) :
    IO (Ending (Option Nat)) := do
  let (session, events) := a.start (.ok [.ok (nameOf (← server.getSockName))])
  let r ← events.foldlM Running.perform
    { session, server, console, inbox := ← Std.Channel.new }
  let interrupt ← (← Signal.Waiter.mk .sigint false).wait
  r.start do
    discard (await interrupt)
    return .act (.forward .cancel)
  r.accept
  r.run

/-- Runs the app once it has been prepared. -/
def runApp (a : App) (console : Log.Console) : IO (Ending (Option Nat)) := do
  match App.configuredPort a.settings with
  | .error fault => return .raised fault
  | .ok port =>
    try runOn a console (← listen port)
    catch error => return .raised (faultOf error)

/-- Says what ended the program. -/
def failWith (reason : String) : IO UInt32 := do
  IO.eprintln reason
  return 1

/-- Runs the program with options. -/
def start (home : List String) (o : CommandLine.Options) : IO UInt32 := do
  let console := CommandLine.console o
  let named := App.standard.layers.environmentVariable
  let value ← named.bindM (IO.getEnv ·)
  let environment := fun name => if some name = named then value else none
  let files ← findFiles home .standard o.config environment
  let (a, records, prepared) := CommandLine.prepare .standard { files, environment } o
  records.forM (write console)
  match prepared with
  | .error fault => failWith fault.display
  | .ok (.ends code) => return .ofNat code
  | .ok .ready =>
    let ending ← runApp a console
    let (records, code) := CommandLine.leave ending
    records.forM (write console)
    match ending with
    | .raised fault => failWith fault.display
    | .group faults => failWith (faults.name ++ ": " ++ ", ".intercalate (faults.map (·.display)))
    | _ => return .ofNat (code.getD 0)

end TunnelRelay.Program

/-- Runs the program. -/
def main (args : List String) : IO UInt32 := do
  let home := TunnelRelay.Settings.resolve [] (← IO.currentDir).toString
  match TunnelRelay.CommandLine.parse home args with
  | .error problem =>
    IO.eprint (TunnelRelay.CommandLine.refusalText problem)
    return .ofNat TunnelRelay.CommandLine.refusalCode
  | .ok .showVersion =>
    IO.print TunnelRelay.CommandLine.versionText
    return 0
  | .ok .showHelp =>
    IO.print TunnelRelay.CommandLine.helpText
    return 0
  | .ok (.run options) => TunnelRelay.Program.start home options
