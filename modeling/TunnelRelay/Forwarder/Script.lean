import TunnelRelay.Forwarder.Loop
/-!
# Forwarding by a script

A forwarder whose surroundings follow a script: what its source supplies, what
its dials give, oldest dial first, and who fails on being told of a
connection. After each action it goes on until it has to wait for more.
-/

namespace TunnelRelay

namespace Forwarder

/-- Where the connections come from. -/
inductive Feed where
  | given (supplies : List Supply)
  | listening (source : ListenerSource) (listener : Listener)

namespace Feed

/-- The identifier of a source that listens. -/
def sourceId? : Feed → Option String
  | .given _ => none
  | .listening source _ => some source.id

/-- What the source gives next, if there is something. -/
def next : Feed → Option (Supply × Feed)
  | .given [] => none
  | .given (supply :: rest) => some (supply, .given rest)
  | .listening source listener =>
    (source.next listener).map fun (supply, source, listener) =>
      (supply, .listening source listener)

/-- Adds something to what the source will give. -/
def addSupply (supply : Supply) : Feed → Feed
  | .given supplies => .given (supplies ++ [supply])
  | feed => feed

/-- Adds something to what arrives at the listener. -/
def addArrival (arrival : Listener.Arrival) : Feed → Feed
  | .listening source listener =>
    .listening source { listener with arrivals := listener.arrivals ++ [arrival] }
  | feed => feed

/-- Whether there is a listener that has been closed. -/
def isClosed : Feed → Bool
  | .given _ => false
  | .listening _ listener => listener.closed

/-- Closes the listener. -/
def close : Feed → Feed
  | .listening source listener => .listening source { listener with closed := true }
  | feed => feed

/-- The legs that have not been taken yet. -/
def legs : Feed → List Leg
  | .given supplies => supplies.filterMap fun | .connection _ leg => some leg | _ => none
  | .listening _ listener =>
    listener.arrivals.filterMap fun | .leg leg _ => some leg | _ => none

/-- A bound on the number of times that the source can give something. -/
def size : Feed → Nat
  | .given supplies => supplies.length
  | .listening _ listener => listener.arrivals.length + 1

end Feed

/-- The oldest dial that waits takes a result, with its handshake. Also gives
the handler that dialed, if a leg was delivered to it. -/
def takeResult (f : Forwarder) (script : DialScript) :
    Option (Forwarder × List Event × Option Nat) :=
  (f.handlers.findIdx? (·.isDialing)).bind fun i =>
    (f.step (.handler i (.delivered script.result))).map fun (f, first) =>
      let (f, rest) := (f.step (.handler i (.handshaken script.handshakeFault))).getD (f, [])
      (f, first ++ rest, script.result.toOption.map fun _ => i)

/-- A forwarder and its surroundings. -/
structure Scripted where
  forwarder : Forwarder
  feed : Feed
  /-- The results of the dials to come. -/
  plan : List DialScript := []
  /-- What loading the certificates gives. -/
  load : Trust.Outcome Trust.Context := .ok .client
  receivers : Inbound → Receivers := fun _ => {}
  /-- The handlers to which dials have delivered legs, oldest first. -/
  delivered : List Nat := []

namespace Scripted

/-- The surroundings with the next state of the forwarder. -/
def withForwarder (s : Scripted) : Forwarder × List Event → Scripted × List Event
  | (forwarder, events) => ({ s with forwarder }, events)

/-- What the forwarder does by itself. -/
def ownStep (s : Scripted) : Option (Scripted × List Event) :=
  (machine.stepAny s.forwarder (own s.load s.forwarder)).map s.withForwarder

/-- The oldest dial that waits takes the next result of the plan. -/
def dialStep (s : Scripted) : Option (Scripted × List Event) :=
  match s.plan with
  | [] => none
  | script :: plan =>
    (s.forwarder.takeResult script).map fun (forwarder, events, handler) =>
      ({ s with forwarder, plan, delivered := s.delivered ++ handler.toList }, events)

/-- The source gives something that is waited for. -/
def supplyStep (s : Scripted) : Option (Scripted × List Event) :=
  if s.forwarder.loop.isAccepting then
    s.feed.next.bind fun (supply, feed) =>
      let receivers := match supply with
        | .connection conn _ => s.receivers conn
        | _ => {}
      (s.forwarder.step (.supplied supply receivers)).map { s with feed }.withForwarder
  else none

/-- What happens next. -/
def next (s : Scripted) : Option (Scripted × List Event) :=
  s.ownStep <|> s.dialStep <|> s.supplyStep

/-- All that happens until more has to be waited for, in at most `fuel`
steps. -/
def settleIn : Nat → Scripted → Scripted × List Event
  | 0, s => (s, [])
  | fuel + 1, s =>
    match s.next with
    | none => (s, [])
    | some (s, first) =>
      let (s, rest) := settleIn fuel s
      (s, first ++ rest)

/-- A bound on what can happen without further actions. -/
def work (s : Scripted) : Nat :=
  s.feed.legs.foldr (fun leg n => 2 * leg.pending + Handler.overhead + n)
    (s.forwarder.work + s.plan.length + s.feed.size + 1)

/-- All that happens until more has to be waited for. -/
def settle (s : Scripted) : Scripted × List Event := s.settleIn s.work

/-- Takes an action if it can happen, and all that follows from it. -/
def act (s : Scripted) (a : Act) : Scripted × List Event :=
  let (s, first) := ((s.forwarder.step a).map s.withForwarder).getD (s, [])
  let (s, rest) := s.settle
  (s, first ++ rest)

/-- The start of the forwarder. -/
def start (s : Scripted) : Scripted × List Event :=
  let (s, rest) := s.settle
  (s, s.forwarder.greeting :: rest)

/-- The source will give something more. -/
def feedWith (s : Scripted) (add : Feed → Feed) : Scripted × List Event :=
  { s with feed := add s.feed }.settle

/-- A dial will have the given result. -/
def addResult (s : Scripted) (script : DialScript) : Scripted × List Event :=
  { s with plan := s.plan ++ [script] }.settle

/-- The handler of the given number among those to which legs were
delivered, or among all. -/
def handlerOf (s : Scripted) (side : Side) (number : Nat) : Option Nat :=
  match side with
  | .inbound => some number
  | .outbound => s.delivered[number]?

/-- Something happens to a leg from outside. -/
def peer (s : Scripted) (side : Side) (number : Nat) (act : Leg.Act) : Scripted × List Event :=
  match s.handlerOf side number with
  | some i => s.act (.handler i (.peer side act))
  | none => (s, [])

end Scripted

end Forwarder

end TunnelRelay
