import TunnelRelay.Ending
import TunnelRelay.Leg
import TunnelRelay.Log.Record
import TunnelRelay.Machine
/-!
# The relay

A relay moves bytes between the two legs of a forwarded connection. Two pumps
work at the same time, one from each leg to the other, and each alternates
between reading a chunk and writing it. The first pump that ends stops the
other; then both legs are closed, the inbound one first.

`Relay.machine` has one action per read or write of a pump, so its runs are
the interleavings of the two pumps with the peers, with a cancellation and
with each other. It ends by returning its counts, by the failure of a read
or a write with the counts so far, by other faults as a group, or cancelled. A
cancellation from outside does not take the place of other faults: where it
meets a pump that was stopped beside them, the group is a cancellation too.
-/

namespace TunnelRelay

/-- The greatest number of bytes that a pump reads at once. -/
def Relay.chunkSize : Nat := 65536

/-- What a pump does next: read, or write what it has read. -/
inductive Relay.Pump where
  | reading
  | writing (chunk : Bytes)
  | ended
  deriving DecidableEq, Repr

/-- The numbers of bytes moved from each leg, and the fault that ended the
relay, if any. The numbers are values, as those of a relay failure are. -/
structure Relay.Outcome where
  fromInbound : Value := .int 0
  fromOutbound : Value := .int 0
  fault : Option Fault := none

/-- A relay at work. -/
structure Relay where
  legs : Both Leg
  pumps : Both Relay.Pump := ⟨.reading, .reading⟩
  /-- The number of bytes read from each leg and written to the other. -/
  moved : Both Nat := ⟨0, 0⟩
  /-- The faults of reading and writing, in the order they were met. -/
  faults : List Fault := []
  /-- All other faults. -/
  crashes : List Fault := []
  /-- A pump has ended or the relay was cancelled: the pumps are told to stop. -/
  stopping : Bool := false
  /-- A pump was stopped before its end, and so has ended by its cancellation. -/
  halted : Bool := false
  /-- The relay was cancelled from outside. -/
  cancelled : Bool := false
  ending : Option (Ending Relay.Outcome) := none

namespace Relay

/-- The actions of a relay. -/
inductive Act where
  /-- Something happens to a leg from outside. -/
  | peer (side : Side) (act : Leg.Act)
  /-- The pump that reads from the side makes its next read or write. -/
  | advance (side : Side)
  /-- The pump that reads from the side is stopped where it waits. -/
  | abandon (side : Side)
  | cancel
  /-- Both pumps have ended: the legs are closed. -/
  | close

/-- The events of a relay, each on a leg. -/
structure Event where
  side : Side
  cover : Cover
  event : Leg.Event
  deriving DecidableEq, Repr

/-- Whether both pumps have ended. -/
def pumpsEnded (r : Relay) : Bool := r.pumps = ⟨.ended, .ended⟩

/-- Whether the fault of a read or write is passed on as a relay failure. -/
def recordFault (r : Relay) (fault : Fault) : Relay :=
  if fault.kind.isStream then { r with faults := r.faults ++ [fault] }
  else { r with crashes := r.crashes ++ [fault] }

/-- The pump of a side ends, which tells the other to stop. -/
def endPump (r : Relay) (side : Side) : Relay :=
  { r with pumps := r.pumps.set side .ended, stopping := true }

/-- The pump of a side goes on, unless it has been told to stop. -/
def continuePump (r : Relay) (side : Side) (pump : Pump) : Relay :=
  { r with
    pumps := r.pumps.set side (if r.stopping then .ended else pump)
    halted := r.halted || r.stopping }

/-- The pump of a side is stopped where it waits. -/
def haltPump (r : Relay) (side : Side) : Relay := { r.endPump side with halted := true }

/-- An event on the leg of a side. -/
def legEvent (r : Relay) (side : Side) (event : Leg.Event) : Event :=
  ⟨side, (r.legs.get side).cover, event⟩

/-- The next read of the pump of a side. -/
def readStep (r : Relay) (side : Side) : Option (Relay × List Event) :=
  match (r.legs.get side).receive chunkSize with
  | .waiting => none
  | .data [] leg => some ({ r.endPump side with legs := r.legs.set side leg }, [])
  | .data chunk leg =>
    some ({ r.continuePump side (.writing chunk) with legs := r.legs.set side leg }, [])
  | .fault fault => some ((r.recordFault fault).endPump side, [])

/-- The next write of the pump of a side. -/
def writeStep (r : Relay) (side : Side) (chunk : Bytes) : Option (Relay × List Event) :=
  match (r.legs.get side.other).send with
  | .waiting => none
  | .sent =>
    some ({ r.continuePump side .reading with
        moved := r.moved.set side (r.moved.get side + chunk.length) },
      [r.legEvent side.other (.wrote chunk)])
  | .fault fault => some ((r.recordFault fault).endPump side, [])

/-- What is reported of the fault that ended a relay. -/
def failureOf (r : Relay) (fault : Fault) : Fault :=
  let counts := r.moved
  (Fault.relayFailure (.string fault.account) (.int counts.inbound)
    (.int counts.outbound)).withCause (some fault)

/-- How the relay ends once its legs are closed; a fault of closing a leg
takes the place of all else. What stopped a pump stays beside other faults only
if it came from outside. -/
def endingOf (r : Relay) : Ending Outcome :=
  match r.legs.inbound.closeFault?.or r.legs.outbound.closeFault?, r.crashes, r.faults with
  | some fault, _, _ => .raised fault
  | none, [], [] =>
    if r.cancelled then .cancelled
    else .returned { fromInbound := .int r.moved.inbound, fromOutbound := .int r.moved.outbound }
  | none, [], fault :: _ => if r.cancelled then .cancelled else .raised (r.failureOf fault)
  | none, crashes, _ => .group { faults := crashes, cancelled := r.cancelled && r.halted }

/-- The outbound leg after the relay: a fault of closing the inbound leg keeps
it from being closed. -/
def closeLegs (r : Relay) : Relay × List Event :=
  let inboundEvents := r.legs.inbound.closeEvents.map (r.legEvent .inbound)
  let ended := { r with ending := some r.endingOf }
  match r.legs.inbound.closeFault? with
  | some _ =>
    ({ ended with legs := r.legs.set .inbound r.legs.inbound.closeNow }, inboundEvents)
  | none =>
    ({ ended with legs := ⟨r.legs.inbound.closeNow, r.legs.outbound.closeNow⟩ },
      inboundEvents ++ r.legs.outbound.closeEvents.map (r.legEvent .outbound))

/-- One action of a relay. -/
def step (r : Relay) : Act → Option (Relay × List Event)
  | .peer side act =>
    let (leg, events) := (r.legs.get side).apply act
    some ({ r with legs := r.legs.set side leg }, events.map (r.legEvent side))
  | .advance side =>
    match r.pumps.get side with
    | .reading => r.readStep side
    | .writing chunk => r.writeStep side chunk
    | .ended => none
  | .abandon side =>
    if r.stopping ∧ r.pumps.get side ≠ .ended then some (r.haltPump side, []) else none
  | .cancel =>
    if r.ending.isNone && !r.cancelled then
      some ({ r with stopping := true, cancelled := true }, [])
    else none
  | .close => if r.pumpsEnded ∧ r.ending.isNone then some r.closeLegs else none

/-- The relay as a machine. -/
def machine : Machine Relay Act Event := ⟨step⟩

/-- What a relay does by itself. A pump that is told to stop does so before it
makes another read or write. -/
def own (_ : Relay) : List Act :=
  [.abandon .inbound, .abandon .outbound, .advance .inbound, .advance .outbound, .close]

/-- A bound on what a relay can do by itself. -/
def work (r : Relay) : Nat := 2 * (r.legs.inbound.pending + r.legs.outbound.pending) + 8

/-- The relay of two legs, before its first action. -/
def start (legs : Both Leg) : Relay := { legs }

/-! ## Joining two legs -/

/-- A failure of the relay is only said and kept in the outcome; whatever else
ends the relay passes. -/
def join (subject : Log.Subject) : Ending Outcome → Ending Outcome × List Log.Record
  | .returned outcome =>
    (.returned outcome,
      [Log.sayOf subject .relay .debug ("Joined streams closed, bytes from tunnel: " ++
        outcome.fromInbound.text ++ ", bytes from local: " ++ outcome.fromOutbound.text)])
  | .raised fault =>
    match fault.kind with
    | .relayFailure fromInbound fromOutbound =>
      (.returned { fromInbound, fromOutbound, fault := some fault },
        [Log.sayOf subject .relay .debug ("Joined streams error: " ++ fault.message)])
    | _ => (.raised fault, [])
  | ending => (ending, [])

end Relay

end TunnelRelay
