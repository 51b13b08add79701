import TunnelRelay.Destination
/-!
# Transports

A transport is how the outbound leg to a destination is made: over TCP, over
TLS on top of TCP, over a Unix domain socket, over a named pipe, or by a
function of the caller's. A registry says which transport reaches which kind
of destination; the standard registries hold what works on each platform.
-/

namespace TunnelRelay

/-- The features of a destination that a transport is made from. -/
structure Endpoint where
  host : Option String := none
  port : Option Int := none
  address : Option String := none
  serverName : Option String := none
  deriving DecidableEq, Repr

/-- The features of a destination. -/
def Destination.endpoint (d : Destination) : Endpoint :=
  { host := d.host, port := d.port, address := d.address, serverName := d.serverName }

/-- How an outbound leg is made. -/
inductive Transport where
  | tcp (host : String) (port : Option Int)
  | tls (host : String) (port : Option Int) (serverName : String)
  /-- A socket without a path is one that no dial finds. -/
  | unix (path : Option String)
  /-- A pipe without an address is one that no dial finds. -/
  | pipe (address : Option String)
  | custom
  deriving DecidableEq, Repr

namespace Transport

/-- The local machine stands in for a host that is missing or empty. -/
def hostOr (host : Option String) (default : String) : String :=
  match host with
  | some h => if h = "" then default else h
  | none => default

/-- TCP to the given host and port. -/
def ofTcp (e : Endpoint) : Transport := .tcp (hostOr e.host "localhost") e.port

/-- TLS to the given host and port; the server must prove to have the given
name, or else that of the host. -/
def ofTls (e : Endpoint) : Transport :=
  let host := hostOr e.host "localhost"
  .tls host e.port (hostOr e.serverName host)

/-- A Unix domain socket. -/
def ofUnix (e : Endpoint) : Transport := .unix (some (e.address.getD ""))

/-- A named pipe. -/
def ofPipe (e : Endpoint) : Transport := .pipe (some (e.address.getD ""))

/-- The name of the peer before anything has been dialed. -/
def initialPeer : Transport → Option String
  | .unix path => path
  | .pipe address => address
  | _ => none

end Transport

/-- Which maker reaches which kind of destination; a later registration for a
kind takes the place of an earlier one. -/
structure Registry (α : Type) where
  entries : List (Destination.Kind × α) := []

namespace Registry

variable {α β : Type}

/-- Registers a maker for a kind of destination. -/
def register (r : Registry α) (kind : Destination.Kind) (maker : α) : Registry α :=
  ⟨(kind, maker) :: r.entries.filter (·.1 ≠ kind)⟩

/-- The maker for a kind of destination. -/
def lookup (r : Registry α) (kind : Destination.Kind) : Option α :=
  (r.entries.find? (·.1 = kind)).map (·.2)

/-- The kinds of destinations that can be reached. -/
def kinds (r : Registry α) : List Destination.Kind := r.entries.map (·.1)

/-- Makes what the destination needs. -/
def create (r : Registry (Endpoint → β)) (d : Destination) : Except Fault β :=
  match r.lookup d.kind with
  | some maker => .ok (maker d.endpoint)
  | none => .error (Destination.Rejection.unsupportedTransport.fault d.url)

/-- A socket without a port is left to the system, but for TLS. -/
def withPort (maker : Endpoint → Transport) (default : Int) (e : Endpoint) : Transport :=
  maker { e with port := some (e.port.getD default) }

/-- What works on a platform. -/
def standard (platform : Platform) : Registry (Endpoint → Transport) :=
  let sockets : Registry (Endpoint → Transport) :=
    (((⟨[]⟩ : Registry (Endpoint → Transport)).register .tcp (withPort .ofTcp 0)).register .http
      (withPort .ofTcp 0)).register .https (withPort .ofTls 443)
  match platform with
  | .windows => sockets.register .pipe .ofPipe
  | .posix => sockets.register .unix .ofUnix

end Registry

end TunnelRelay
