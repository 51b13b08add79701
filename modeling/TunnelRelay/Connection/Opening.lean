import TunnelRelay.Connection.Transport
import TunnelRelay.Leg
import TunnelRelay.SocketAddress
import TunnelRelay.Trust.Cache
import TunnelRelay.Trust.Context
/-!
# Opening the outbound leg

A leg is opened in stages: for TLS the certificates are asked for first; then
the destination is dialed; then TLS is put on the leg and its handshake is
made. Each stage waits for the outside world, so an opening can be cancelled
in each. This file has the single stages and what a fault of each becomes; who
holds the leg in between is decided by the users of the stages.
-/

namespace TunnelRelay

/-- What is dialed. -/
inductive Target where
  | tcp (host : String) (port : Option Int)
  | unix (path : Option String)
  | pipe (address : Option String)
  | custom
  deriving DecidableEq, Repr

/-- What a transport dials. -/
def Transport.target : Transport → Target
  | .tcp host port | .tls host port _ => .tcp host port
  | .unix path => .unix path
  | .pipe address => .pipe address
  | .custom => .custom

/-- A leg that a dial has delivered. -/
structure Delivery where
  leg : Leg
  /-- What the socket of the leg says about its other end. -/
  peer : Except Fault PeerName := .ok (.plain .none)
  /-- The fault of putting TLS on the leg, where that fails. -/
  coverFault : Option Fault := none

/-- What a dial will give, and the fault of the handshake if it fails. -/
structure DialScript where
  result : Except Fault Delivery
  handshakeFault : Option Fault := none

namespace Opening

/-- What the server of a leg has to prove to be. -/
structure Guard where
  serverName : String
  context : Trust.Context
  deriving DecidableEq, Repr

/-- The events of an opening. -/
inductive Event where
  | dial (target : Target)
  /-- TLS was put on a leg. -/
  | cover (guard : Guard)
  | handshake
  | leg (cover : Cover) (event : Leg.Event)
  deriving DecidableEq, Repr

/-- What is reported of the fault of an opening: faults of the system and
broken streams are dial failures, all others stay what they are. -/
def report (fault : Fault) : Fault :=
  if fault.kind.isForwarding then fault
  else if fault.kind.isSystem || fault.kind = .brokenResource then
    .dialFailure fault.account fault
  else fault

/-- What a fault of putting TLS on a leg, or of the handshake, becomes: one
about a value means that the name of the server cannot be used. -/
def coverFault (serverName : String) (fault : Fault) : Fault :=
  if fault.kind.isValue then
    .dialFailure ("invalid TLS server name " ++ Text.quoted serverName ++ ": " ++ fault.message)
      fault
  else fault

/-- What a stage ends with: a leg to use, a leg that waits for its handshake,
or a fault. A leg that is there besides a fault is left as it is. -/
inductive Result where
  | opened (leg : Leg)
  | handshaking (leg : Leg) (guard : Guard)
  | failed (fault : Fault) (leg : Option Leg)

/-- Asks for the certificates where the transport needs them; `load` is what
loading them would give. -/
def askTrust (transport : Transport) (cache : Trust.Cache Trust.Context)
    (load : Trust.Outcome Trust.Context) :
    Except Fault (Option Guard) × Trust.Cache Trust.Context :=
  match transport with
  | .tls _ _ serverName =>
    let (outcome, cache) := cache.get load
    (outcome.map fun context => some { serverName, context }, cache)
  | _ => (.ok none, cache)

/-- The name of the peer once a leg has been delivered. A socket that does not
know its peer has none; any other fault of asking is passed on. -/
def peerAfter (transport : Transport) (old : Option String) (delivery : Delivery) :
    Except Fault (Option String) :=
  match transport with
  | .tcp _ _ | .tls _ _ _ =>
    match delivery.peer.bind PeerName.text with
    | .ok name => .ok (some name)
    | .error fault => if fault.kind.isSystem then .ok none else .error fault
  | _ => .ok old

/-- Closes a leg that cannot be used. A fault of closing takes the place of the
fault that made it unusable. The close is forceful and so waits for nothing; it is
taken to be over before a cancellation can reach it, although the program does not
shield it from one. The leg is closed in either case. -/
def discard (leg : Leg) (fault : Fault) : Result × List Event :=
  (.failed ((leg.closeFault?).getD fault) (some leg.closeNow),
    leg.closeEvents.map (.leg leg.cover))

/-- What follows the delivery of a leg: TLS is put on it if the server has
something to prove. -/
def afterDelivery (guard : Option Guard) (delivery : Delivery) : Result × List Event :=
  match guard, delivery.coverFault with
  | none, _ => (.opened delivery.leg, [])
  | some guard, none => (.handshaking { delivery.leg with cover := .tls } guard, [.cover guard])
  | some guard, some fault =>
    let (result, events) := discard delivery.leg (coverFault guard.serverName fault)
    (result, .cover guard :: events)

/-- What follows the handshake, given its fault if it fails. -/
def afterHandshake (guard : Guard) (leg : Leg) : Option Fault → Result × List Event
  | none => (.opened leg, [.handshake])
  | some fault => discard leg (coverFault guard.serverName fault)

/-- Stops an opening in its handshake: the fault of closing the leg, if any,
and the leg. -/
def cancelHandshake (leg : Leg) : Option Fault × Leg × List Event :=
  (leg.closeFault?, leg.closeNow, leg.closeEvents.map (.leg leg.cover))

end Opening

end TunnelRelay
