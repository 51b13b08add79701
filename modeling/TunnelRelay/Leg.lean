import TunnelRelay.Fault
/-!
# Legs

A leg is one byte stream of a forwarded connection, seen from this side: what
has arrived from the peer and is not yet read, how writes fare, and whether
the leg has been closed. The peer changes a leg through `Leg.Act`; this side
reads (`receive`), writes (`send`) and closes it (`closeNow`).
-/

namespace TunnelRelay

/-- A sequence of bytes. -/
abbrev Bytes := List UInt8

/-- The two sides of a forwarded connection. -/
inductive Side where
  | inbound
  | outbound
  deriving DecidableEq, Repr

/-- The other side. -/
def Side.other : Side → Side
  | .inbound => .outbound
  | .outbound => .inbound

/-- Something for each side. -/
structure Both (α : Type) where
  inbound : α
  outbound : α
  deriving DecidableEq, Repr

namespace Both

variable {α β : Type}

/-- What belongs to a side. -/
def get (b : Both α) : Side → α
  | .inbound => b.inbound
  | .outbound => b.outbound

/-- Replaces what belongs to a side. -/
def set (b : Both α) (side : Side) (a : α) : Both α :=
  match side with
  | .inbound => { b with inbound := a }
  | .outbound => { b with outbound := a }

@[simp] theorem get_set_same (b : Both α) (s : Side) (a : α) : (b.set s a).get s = a := by
  cases s <;> rfl

@[simp] theorem get_set_other (b : Both α) (s : Side) (a : α) :
    (b.set s a).get s.other = b.get s.other := by
  cases s <;> rfl

end Both

/-- How a leg is protected on the wire. -/
inductive Cover where
  | bare
  | tls
  deriving DecidableEq, Repr

/-- What the peer of a leg has sent, in order. After an end or a break nothing
more is read. -/
inductive Leg.Arrival where
  | data (chunk : Bytes)
  | ended
  | broken (fault : Fault)

/-- A bound on the number of reads that an arrival allows. -/
def Leg.Arrival.size : Leg.Arrival → Nat
  | .data chunk => chunk.length + 1
  | _ => 1

/-- One byte stream of a forwarded connection. -/
structure Leg where
  arrivals : List Leg.Arrival := []
  sendFault : Option Fault := none
  stalled : Bool := false
  closed : Bool := false
  cover : Cover := .bare
  /-- A close waits while it is held up. -/
  closeHeld : Bool := false
  /-- A close that has closed the leg fails with this fault. -/
  closeFault : Option Fault := none
  deriving Inhabited

namespace Leg

/-- What happens to a leg from outside. -/
inductive Act where
  | deliver (data : Bytes)
  | finish
  | snap (fault : Fault)
  | refuse (fault : Fault)
  | stall
  | resume
  | close

/-- What this side does to a leg and others can see. -/
inductive Event where
  | wrote (data : Bytes)
  | closed
  deriving DecidableEq, Repr

/-- The leg after something happened to it. -/
def apply (leg : Leg) : Act → Leg × List Event
  | .deliver data => ({ leg with arrivals := leg.arrivals ++ [.data data] }, [])
  | .finish => ({ leg with arrivals := leg.arrivals ++ [.ended] }, [])
  | .snap fault => ({ leg with arrivals := leg.arrivals ++ [.broken fault] }, [])
  | .refuse fault => ({ leg with sendFault := some fault }, [])
  | .stall => ({ leg with stalled := true }, [])
  | .resume => ({ leg with stalled := false }, [])
  | .close => ({ leg with closed := true }, if leg.closed then [] else [.closed])

/-- What a read gives: nothing yet, a chunk of data (the empty one at the end
of the stream) with the leg after it, or a fault. -/
inductive Reading where
  | waiting
  | data (chunk : Bytes) (leg : Leg)
  | fault (fault : Fault)

/-- Reads at most `max` bytes of the first chunk that has arrived. -/
def receive (max : Nat) (leg : Leg) : Reading :=
  if leg.closed then .fault .streamClosed
  else match leg.arrivals with
    | [] => .waiting
    | .data chunk :: rest =>
      let left := chunk.drop max
      .data (chunk.take max)
        { leg with arrivals := if left = [] then rest else .data left :: rest }
    | .ended :: _ => .data [] leg
    | .broken fault :: _ => .fault fault

/-- What a write gives: nothing yet, success, or a fault. -/
inductive Sending where
  | waiting
  | sent
  | fault (fault : Fault)

/-- Writes to the leg. -/
def send (leg : Leg) : Sending :=
  if leg.closed then .fault .streamClosed
  else if leg.stalled then .waiting
  else match leg.sendFault with
    | some fault => .fault fault
    | none => .sent

/-- Closes the leg, unless the close is held up. -/
def closeNow (leg : Leg) : Leg :=
  if leg.closeHeld then leg else { leg with closed := true }

/-- The event of closing the leg: there is one if the leg was open and the
close is not held up. -/
def closeEvents (leg : Leg) : List Event :=
  if leg.closed || leg.closeHeld then [] else [.closed]

/-- The fault of closing the leg. -/
def closeFault? (leg : Leg) : Option Fault :=
  if leg.closed || leg.closeHeld then none else leg.closeFault

/-- A bound on the number of reads that the arrivals allow. -/
def pending (leg : Leg) : Nat :=
  leg.arrivals.foldr (fun arrival n => arrival.size + n) 0

end Leg

end TunnelRelay
