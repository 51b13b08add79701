import TunnelRelay.Fault
import TunnelRelay.Url.Split
/-!
# Destinations

A destination says where the inbound connections of a tunnel are sent. It is
written as a URL whose scheme selects the transport:

    tcp://host:port
    http://host[:80]
    https://host[:443]  or  tls://host[:443]
    unix://host/path  |  unix:relative/path  |  unix:///abs/path  |  unix:/abs/path
    pipe:name  |  pipe://host/name

Unix domain sockets are known on every platform but Windows, named pipes on
Windows only; a scheme that the platform does not have is as unknown as any
other.
-/

namespace TunnelRelay

/-- The platforms that differ in the transports they have. -/
inductive Platform where
  | windows
  | posix
  deriving DecidableEq, Repr

namespace Destination

/-- The transports of destinations. -/
inductive Kind where
  | tcp
  | http
  | https
  | unix
  | pipe
  deriving DecidableEq, Repr

/-- The schemes of destination URLs. -/
inductive Scheme where
  | http
  | https
  | pipe
  | tcp
  | tls
  | unix
  deriving DecidableEq, Repr

/-- Why a URL is not a destination. -/
inductive Rejection where
  | malformed (problem : Url.Problem)
  | unknownScheme
  | invalidPort
  | missingPort
  | missingPath
  | missingPipeName
  | unsupportedTransport
  deriving DecidableEq, Repr

/-- What is said about the rejected URL. -/
def Rejection.message (url : String) : Rejection → String
  | .malformed problem => "malformed forwarding url " ++ url ++ ": " ++ problem.message
  | .unknownScheme => "unrecognized scheme in forwarding url: " ++ url
  | .invalidPort => "invalid port in forwarding url " ++ url
  | .missingPort => "missing port for tcp forwarding url " ++ url
  | .missingPath => "missing socket path in forwarding url " ++ url
  | .missingPipeName => "missing pipe name in forwarding url " ++ url
  | .unsupportedTransport => "unsupported transport in forwarding url: " ++ url

/-- A rejection as a fault, which carries what was given as the URL. -/
def Rejection.faultOf (given : Value) (r : Rejection) : Fault :=
  .invalidDestination (.string (r.message given.text)) given

/-- The rejection of a URL as a fault. -/
def Rejection.fault (url : String) (r : Rejection) : Fault := r.faultOf (.string url)

end Destination

/-- A destination. Host and port are there for sockets; the address is the
path of a Unix domain socket or the full name of a pipe. -/
structure Destination where
  kind : Destination.Kind
  url : String
  host : Option String := none
  port : Option Int := none
  address : Option String := none
  deriving DecidableEq, Repr

namespace Destination

/-- The name that the server of a TLS destination must prove to have. -/
def serverName (d : Destination) : Option String :=
  match d.kind with
  | .https => d.host
  | _ => none

namespace Scheme

/-- The written form of a scheme. -/
def name : Scheme → String
  | .http => "http"
  | .https => "https"
  | .pipe => "pipe"
  | .tcp => "tcp"
  | .tls => "tls"
  | .unix => "unix"

/-- The schemes of a platform, in alphabetical order. -/
def available : Platform → List Scheme
  | .windows => [.http, .https, .pipe, .tcp, .tls]
  | .posix => [.http, .https, .tcp, .tls, .unix]

/-- The scheme of a platform with the given written form. -/
def find? (platform : Platform) (text : List Char) : Option Scheme :=
  (available platform).find? fun s => s.name.toList == text

end Scheme

/-- The port of a URL; nothing if none is written. -/
def readPort (parts : Url.Parts) : Except Rejection (Option Nat) :=
  match parts.portText with
  | [] => .ok none
  | text =>
    match Url.portNumber? text with
    | some n => .ok (some n)
    | none => .error .invalidPort

/-- The host of a URL, or the local one if none is written. -/
def readHost (parts : Url.Parts) : String :=
  match parts.host? with
  | some host => String.ofList host
  | none => "localhost"

/-- A destination reached through a socket. Without a port in the URL the
default is taken; where there is no default the port is missing. -/
def ofSocketUrl (kind : Kind) (defaultPort : Option Nat) (parts : Url.Parts) (url : String) :
    Except Rejection Destination := do
  match (← readPort parts).or defaultPort with
  | some port => return { kind, url, host := readHost parts, port := some (port : Int) }
  | none => throw .missingPort

/-- A Unix domain socket. A host in the URL is the first part of a relative
path; without one the path is taken as it is. -/
def ofUnixUrl (parts : Url.Parts) (url : String) : Except Rejection Destination :=
  match parts.authority ++ parts.path with
  | [] => .error .missingPath
  | path => .ok { kind := .unix, url, address := String.ofList path }

/-- The full address of a named pipe. -/
def pipeAddress (host name : String) : String := "\\\\" ++ host ++ "\\pipe\\" ++ name

/-- A named pipe. No host and `localhost` both mean this machine, written as a
dot; a slash after a host does not belong to the name. -/
def ofPipeUrl (parts : Url.Parts) (url : String) : Except Rejection Destination :=
  let name :=
    match parts.authority, parts.path with
    | _ :: _, '/' :: name => name
    | _, name => name
  if name = [] then .error .missingPipeName
  else
    let host := String.ofList parts.authority
    let host := if host = "" ∨ host = "localhost" then "." else host
    .ok { kind := .pipe, url, host, address := pipeAddress host (String.ofList name) }

/-- The destination of a URL with the given scheme. -/
def ofParts (scheme : Scheme) (parts : Url.Parts) (url : String) : Except Rejection Destination :=
  match scheme with
  | .tcp => ofSocketUrl .tcp none parts url
  | .http => ofSocketUrl .http (some 80) parts url
  | .https | .tls => ofSocketUrl .https (some 443) parts url
  | .unix => ofUnixUrl parts url
  | .pipe => ofPipeUrl parts url

/-- Reads a destination URL. -/
def parse (platform : Platform) (url : String) : Except Rejection Destination :=
  match Url.split url.toList with
  | .error problem => .error (.malformed problem)
  | .ok parts =>
    match Scheme.find? platform parts.scheme with
    | some scheme => ofParts scheme parts url
    | none => .error .unknownScheme

/-- The fault of a value that cannot be taken for a URL. -/
def notUrl (v : Value) : Fault :=
  match v with
  | .list _ | .dict _ => .ofText .mismatch ("unhashable type: '" ++ v.kindName ++ "'")
  | _ => .ofText .attribute ("'" ++ v.kindName ++ "' object has no attribute 'decode'")

/-- Reads a destination from a value. A value without a URL in it has no scheme
that is known. -/
def ofValue (platform : Platform) (v : Value) : Except Fault Destination :=
  match v with
  | .string url => (parse platform url).mapError (·.fault url)
  | .list _ | .dict _ => .error (notUrl v)
  | _ => .error (if v.isSet then notUrl v else Rejection.unknownScheme.faultOf v)

end Destination

end TunnelRelay
