import TunnelRelay.Connection.Opening
import TunnelRelay.Gateway
import TunnelRelay.Relay
import TunnelRelay.Source
/-!
# Handling one connection

The handler of an inbound connection dials the destination, then relays bytes
between the two legs; where the destination cannot be dialed it lets the
bad-gateway responder answer HTTP clients. Whatever happens, the inbound leg is
closed in the end. No fault leaves the handler but one of closing that leg, or
faults of a relay that was cancelled beside them.

A handler passes through its stages in one direction only: it starts, dials,
makes the handshake of TLS, relays or answers, and ends.
-/

namespace TunnelRelay

/-- Which of those who are told about a connection fail, and how. -/
structure Receivers where
  accepted : Option Fault := none
  dialFailed : Option Fault := none
  relayClosed : Option Fault := none
  deriving Inhabited

namespace Handler

/-- The stages of a handler. -/
inductive Stage where
  | starting (inbound : Leg)
  | dialing (inbound : Leg) (transport : Transport) (guard : Option Opening.Guard)
  | handshaking (inbound : Leg) (guard : Opening.Guard) (peer : Option String) (outbound : Leg)
  | relaying (relay : Relay)
  | answering (gateway : Gateway) (outbound : Option Leg)
  | ended (inbound : Leg) (outbound : Option Leg) (ending : Ending Unit)
  /-- Those who were told about the arrival of the connection failed, and so it
  is not handled. -/
  | dropped (inbound : Leg)

/-- The events of a handler. -/
inductive Event where
  | log (record : Log.Record)
  | dial (target : Target)
  | cover (guard : Opening.Guard)
  | handshake
  | leg (side : Side) (cover : Cover) (event : Leg.Event)
  | dialFailed (fault : Fault)
  | relayClosed (outcome : Relay.Outcome)

/-- The actions of a handler that has started. -/
inductive Act where
  /-- Something happens to a leg from outside. -/
  | peer (side : Side) (act : Leg.Act)
  | delivered (result : Except Fault Delivery)
  | handshaken (fault : Option Fault)
  /-- The pump that reads from the side makes its next read or write. -/
  | advance (side : Side)
  /-- The pump that reads from the side is stopped where it waits. -/
  | abandon (side : Side)
  /-- The pumps have ended and the legs are closed. -/
  | closeLegs
  /-- The responder makes its next read or write, or ends. -/
  | answer
  | cancel

end Handler

/-- The handler of one connection. -/
structure Handler where
  conn : Inbound
  receivers : Receivers := {}
  stage : Handler.Stage

namespace Handler

/-- What the events of an opening are to the handler. -/
def ofOpening : Opening.Event → Event
  | .dial target => .dial target
  | .cover guard => .cover guard
  | .handshake => .handshake
  | .leg cover event => .leg .outbound cover event

/-- What the events of a relay are to the handler. -/
def ofRelay (e : Relay.Event) : Event := .leg e.side e.cover e.event

/-- What the events of a responder are to the handler. -/
def ofGateway (cover : Cover) : Gateway.Event → Event
  | .leg event => .leg .inbound cover event
  | .log record => .log record

/-- A record about the connection. -/
def note (h : Handler) (level : Log.Level) (message : String)
    (semantics : Option String := none) : Event :=
  .log (Log.say .forwarder level message h.conn.id semantics)

/-- The record of a fault that nobody deals with. -/
def noteUnexpected (h : Handler) (doing fault : String) : Event :=
  .log (Log.sayUnexpected .forwarder ("Unexpected error while " ++ doing) h.conn.id fault)

/-- The end of a handler. A fault of its work is only said, and the inbound leg
is closed; a fault of closing it leaves the handler, as do faults beside which
the work was cancelled, of which nothing is said. -/
def finish (h : Handler) (inbound : Leg) (outbound : Option Leg) (ending : Ending Unit)
    (events : List Event) : Handler × List Event :=
  let said := (ending.faultName?.map (h.noteUnexpected "forwarding connection")).toList
  let ending := (inbound.closeFault?.map .raised).getD ending.contained
  ({ h with stage := .ended inbound.closeNow outbound ending },
    events ++ said ++ inbound.closeEvents.map (.leg .inbound inbound.cover))

/-- Whether a fault of dialing is one of the destination, and so the client may
be told. -/
def isDialFault (fault : Fault) : Bool := fault.kind.isForwarding || fault.kind.isSystem

/-- What is said of a fault of dialing. -/
def dialRecord (h : Handler) (fault : Fault) : Event :=
  if isDialFault fault then
    h.note .warning ("Error establishing local connection: " ++ fault.message) Log.failure
  else h.noteUnexpected "establishing local connection" fault.kind.name

/-- What follows when the outbound leg cannot be established. -/
def dialFailed (h : Handler) (inbound : Leg) (outbound : Option Leg) (fault : Fault)
    (events : List Event) : Handler × List Event :=
  let events := events ++ [h.dialRecord fault, .dialFailed fault]
  match h.receivers.dialFailed with
  | some failure => h.finish inbound outbound (.raised failure) events
  | none =>
    if isDialFault fault && Gateway.answers h.conn.protocol then
      let gateway : Gateway :=
        { leg := inbound, reason := fault.message, subject := h.conn.subject }
      ({ h with stage := .answering gateway outbound }, events)
    else h.finish inbound outbound (.returned ()) events

/-- What follows when the outbound leg has been established. -/
def established (h : Handler) (inbound outbound : Leg) (peer : Option String)
    (events : List Event) : Handler × List Event :=
  let peer := peer.getD ""
  let whereTo := if peer = "" then "" else " to " ++ peer
  ({ h with stage := .relaying (.start ⟨inbound, outbound⟩) },
    events ++ [h.note .debug ("Established local connection" ++ whereTo ++ ", joining streams")
      Log.success])

/-- What follows a stage of the opening. -/
def afterStage (h : Handler) (inbound : Leg) (peer : Option String) :
    Opening.Result × List Opening.Event → Handler × List Event
  | (.opened outbound, events) => h.established inbound outbound peer (events.map ofOpening)
  | (.handshaking outbound guard, events) =>
    ({ h with stage := .handshaking inbound guard peer outbound }, events.map ofOpening)
  | (.failed fault outbound, events) =>
    h.dialFailed inbound outbound (Opening.report fault) (events.map ofOpening)

/-- The connection that the destination of a URL needs. -/
def transportOf (platform : Platform) (url : String) : Except Fault Transport :=
  match Destination.parse platform url with
  | .error rejection => .error (rejection.fault url)
  | .ok destination => (Registry.standard platform).create destination

/-- The start of a handler: the destination is resolved and dialed. `load` is
what loading the certificates would give. -/
def start (h : Handler) (platform : Platform) (url : String) (cache : Trust.Cache Trust.Context)
    (load : Trust.Outcome Trust.Context) (inbound : Leg) :
    (Handler × List Event) × Trust.Cache Trust.Context :=
  match transportOf platform url with
  | .error fault => (h.dialFailed inbound none fault [], cache)
  | .ok transport =>
    let (trusted, cache) := Opening.askTrust transport cache load
    match trusted with
    | .error fault => (h.dialFailed inbound none (Opening.report fault) [], cache)
    | .ok guard =>
      (({ h with stage := .dialing inbound transport guard }, [.dial transport.target]), cache)

/-- What follows the result of a dial. -/
def deliver (h : Handler) (inbound : Leg) (transport : Transport)
    (guard : Option Opening.Guard) : Except Fault Delivery → Handler × List Event
  | .error fault => h.dialFailed inbound none (Opening.report fault) []
  | .ok delivery =>
    match Opening.peerAfter transport transport.initialPeer delivery with
    | .error fault => h.dialFailed inbound (some delivery.leg) (Opening.report fault) []
    | .ok peer => h.afterStage inbound peer (Opening.afterDelivery guard delivery)

/-- How the work on a connection ends after its relay, and what is said. -/
def conclude (h : Handler) (ending : Ending Relay.Outcome) : Ending Unit × List Event :=
  let (ending, records) := Relay.join h.conn.subject ending
  match ending with
  | .returned outcome =>
    (h.receivers.relayClosed.elim (.returned ()) .raised,
      records.map .log ++ [.relayClosed outcome])
  | ending => (ending.void, records.map .log)

/-- What follows when the relay has ended. -/
def afterRelay (h : Handler) (relay : Relay) (ending : Ending Relay.Outcome) (events : List Event) :
    Handler × List Event :=
  let (ending, said) := h.conclude ending
  h.finish relay.legs.inbound (some relay.legs.outbound) ending (events ++ said)

/-- A relay goes on, or has ended. -/
def withRelay (h : Handler) : Relay × List Relay.Event → Handler × List Event
  | (relay, events) =>
    match relay.ending with
    | some ending => h.afterRelay relay ending (events.map ofRelay)
    | none => ({ h with stage := .relaying relay }, events.map ofRelay)

/-- A responder goes on, or has ended. -/
def withGateway (h : Handler) (outbound : Option Leg) :
    Gateway × List Gateway.Event → Handler × List Event
  | (gateway, events) =>
    let events := events.map (ofGateway gateway.leg.cover)
    match gateway.stage with
    | .ended ending => h.finish gateway.leg outbound ending.void events
    | _ => ({ h with stage := .answering gateway outbound }, events)

/-- The leg of a side, where there is one. -/
def leg? (h : Handler) (side : Side) : Option Leg :=
  match h.stage, side with
  | .starting inbound, .inbound | .dialing inbound _ _, .inbound
  | .handshaking inbound _ _ _, .inbound | .ended inbound _ _, .inbound
  | .dropped inbound, .inbound => some inbound
  | .handshaking _ _ _ outbound, .outbound => some outbound
  | .answering _ outbound, .outbound | .ended _ outbound _, .outbound => outbound
  | .relaying relay, side => some (relay.legs.get side)
  | .answering gateway _, .inbound => some gateway.leg
  | _, _ => none

/-- Puts the next state of the leg of a side in its place, where there is
one. -/
def withLeg (h : Handler) (side : Side) (leg : Leg) : Handler :=
  let stage := match h.stage, side with
    | .starting _, .inbound => .starting leg
    | .dialing _ transport guard, .inbound => .dialing leg transport guard
    | .handshaking _ guard peer outbound, .inbound => .handshaking leg guard peer outbound
    | .handshaking inbound guard peer _, .outbound => .handshaking inbound guard peer leg
    | .relaying relay, side => .relaying { relay with legs := relay.legs.set side leg }
    | .answering gateway outbound, .inbound => .answering { gateway with leg } outbound
    | .answering gateway (some _), .outbound => .answering gateway (some leg)
    | .ended _ outbound ending, .inbound => .ended leg outbound ending
    | .ended inbound (some _) ending, .outbound => .ended inbound (some leg) ending
    | .dropped _, .inbound => .dropped leg
    | stage, _ => stage
  { h with stage }

/-- Something happens to a leg from outside. -/
def peer (h : Handler) (side : Side) (act : Leg.Act) : Option (Handler × List Event) :=
  (h.leg? side).map fun leg =>
    let (next, events) := leg.apply act
    (h.withLeg side next, events.map (.leg side leg.cover))

/-- A handler is cancelled where it waits. One that has not started waits for
nothing; a leg in its handshake is closed, and a fault of that is one of
dialing. -/
def cancel (h : Handler) : Option (Handler × List Event) :=
  match h.stage with
  | .dialing inbound _ _ => some (h.finish inbound none .cancelled [])
  | .handshaking inbound _ _ outbound =>
    let (fault, leg, events) := Opening.cancelHandshake outbound
    let events := events.map ofOpening
    some (match fault with
      | some fault => h.dialFailed inbound (some leg) (Opening.report fault) events
      | none => h.finish inbound (some leg) .cancelled events)
  | .relaying relay => (relay.step .cancel).map h.withRelay
  | .answering gateway outbound => (gateway.step .cancel).map (h.withGateway outbound)
  | _ => none

/-- One action of a handler that has started. -/
def step (h : Handler) : Act → Option (Handler × List Event)
  | .peer side act => h.peer side act
  | .delivered result =>
    match h.stage with
    | .dialing inbound transport guard => some (h.deliver inbound transport guard result)
    | _ => none
  | .handshaken fault =>
    match h.stage with
    | .handshaking inbound guard peer outbound =>
      some (h.afterStage inbound peer (Opening.afterHandshake guard outbound fault))
    | _ => none
  | .advance side =>
    match h.stage with
    | .relaying relay => (relay.step (.advance side)).map h.withRelay
    | _ => none
  | .abandon side =>
    match h.stage with
    | .relaying relay => (relay.step (.abandon side)).map h.withRelay
    | _ => none
  | .closeLegs =>
    match h.stage with
    | .relaying relay => (relay.step .close).map h.withRelay
    | _ => none
  | .answer =>
    match h.stage with
    | .answering gateway outbound => (gateway.step .advance).map (h.withGateway outbound)
    | _ => none
  | .cancel => h.cancel

/-- The handler as a machine. -/
def machine : Machine Handler Act Event := ⟨step⟩

/-- What a handler does by itself. -/
def own : List Act :=
  [.abandon .inbound, .abandon .outbound, .advance .inbound, .advance .outbound, .closeLegs,
    .answer]

/-- Whether nothing is left to do for the handler. -/
def isEnded (h : Handler) : Bool :=
  match h.stage with
  | .ended _ _ _ | .dropped _ => true
  | _ => false

/-- Whether the handler waits for the result of its dial. -/
def isDialing (h : Handler) : Bool :=
  match h.stage with
  | .dialing _ _ _ => true
  | _ => false

/-- The fault that has left the handler, if one has. -/
def escaped? (h : Handler) : Option Fault :=
  match h.stage with
  | .ended _ _ (.raised fault) => some fault
  | .ended _ _ (.group faults) => some faults.asFault
  | _ => none

/-- A bound on what a handler does besides moving bytes. -/
def overhead : Nat := 32

/-- A bound on what a handler can do by itself. -/
def work (h : Handler) : Nat :=
  match h.stage with
  | .relaying relay => relay.work + overhead
  | .answering gateway _ => gateway.work + overhead
  | .starting inbound | .dialing inbound _ _ => 2 * inbound.pending + overhead
  | .handshaking inbound _ _ outbound => 2 * (inbound.pending + outbound.pending) + overhead
  | .ended _ _ _ | .dropped _ => 0

end Handler

end TunnelRelay
