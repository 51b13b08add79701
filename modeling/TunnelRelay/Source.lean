import TunnelRelay.Leg
import TunnelRelay.Log.Record
import TunnelRelay.SocketAddress
/-!
# Sources

A source supplies inbound connections one by one, in the order in which they
arrive. `ListenerSource` takes them from a listener, numbers them, and gives
them all the same protocol; a listener that is closed is a source that is
exhausted.
-/

namespace TunnelRelay

/-- What is known of an inbound connection besides its leg. -/
structure Inbound where
  remoteAddress : String := ""
  protocol : String := "tcp"
  id : String := ""
  deriving DecidableEq, Repr, Inhabited

/-- The subject of records about a connection. -/
def Inbound.subject (c : Inbound) : Log.Subject := { id := .string c.id }

/-- What a source gives when it is asked for the next connection. -/
inductive Supply where
  | connection (conn : Inbound) (leg : Leg)
  | exhausted
  | failed (fault : Fault)

/-- What arrives at a listener: a leg, which may have a socket that tells its
peer or fails to, or a fault of accepting. -/
inductive Listener.Arrival where
  | leg (leg : Leg) (peer : Option (Except Fault PeerName))
  | fault (fault : Fault)

/-- A listener. -/
structure Listener where
  arrivals : List Listener.Arrival := []
  closed : Bool := false

namespace Listener

/-- The fault of accepting on a closed listener. -/
def closedFault : Fault := .ofText .closedResource "listener was closed"

/-- The next arrival, if there is one; a closed listener has only its fault. -/
def accept (l : Listener) : Option (Arrival × Listener) :=
  if l.closed then some (.fault closedFault, l)
  else match l.arrivals with
    | [] => none
    | a :: rest => some (a, { l with arrivals := rest })

end Listener

/-- A source that takes its connections from a listener. -/
structure ListenerSource where
  protocol : String := "tcp"
  id : String := "local"
  /-- The number of connections supplied so far. -/
  supplied : Nat := 0
  deriving DecidableEq, Repr

namespace ListenerSource

/-- The address of the peer of a leg; it is empty where there is no socket or
where the socket does not know it. -/
def remoteAddress (peer : Option (Except Fault PeerName)) : Except Fault String :=
  match peer with
  | none => .ok ""
  | some peer =>
    match peer.bind PeerName.text with
    | .ok text => .ok text
    | .error fault => if fault.kind.isSystem then .ok "" else .error fault

/-- What the source makes of an arrival. -/
def supply (s : ListenerSource) : Listener.Arrival → Supply × ListenerSource
  | .fault fault =>
    (if fault.kind = .closedResource then .exhausted else .failed fault, s)
  | .leg leg peer =>
    match remoteAddress peer with
    | .error fault => (.failed fault, s)
    | .ok remoteAddress =>
      (.connection
        { remoteAddress, protocol := s.protocol
          id := s.id ++ "-" ++ toString (s.supplied + 1) } leg,
        { s with supplied := s.supplied + 1 })

/-- The next connection, if something has arrived. -/
def next (s : ListenerSource) (l : Listener) : Option (Supply × ListenerSource × Listener) :=
  l.accept.map fun (arrival, l) =>
    let (supply, s) := s.supply arrival
    (supply, s, l)

/-- How going through all connections stops. -/
inductive Stop where
  | waiting
  | exhausted
  | failed (fault : Fault)

/-- All connections that have arrived, and what comes after them. -/
def takeAll : Nat → ListenerSource → Listener → List Inbound × Stop × ListenerSource × Listener
  | 0, s, l => ([], .waiting, s, l)
  | fuel + 1, s, l =>
    match s.next l with
    | none => ([], .waiting, s, l)
    | some (.exhausted, s, l) => ([], .exhausted, s, l)
    | some (.failed fault, s, l) => ([], .failed fault, s, l)
    | some (.connection conn _, s, l) =>
      let (conns, rest) := takeAll fuel s l
      (conn :: conns, rest)

/-- Goes through all connections that have arrived. -/
def iterate (s : ListenerSource) (l : Listener) :
    List Inbound × Stop × ListenerSource × Listener :=
  takeAll (l.arrivals.length + 1) s l

end ListenerSource

end TunnelRelay
