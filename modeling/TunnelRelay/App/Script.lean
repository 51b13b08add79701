import TunnelRelay.App.Session
import TunnelRelay.Forwarder.Script
/-!
# Sessions by a script

A session of the app whose dials follow a script, oldest dial first. After each
action it goes on until it has to wait for more.
-/

namespace TunnelRelay

namespace App

/-- A session whose dials follow a script. -/
structure Scripted where
  session : Session
  plan : List DialScript := []
  load : Trust.Outcome Trust.Context := .ok .client
  /-- The handlers to which dials have delivered legs, oldest first. -/
  delivered : List Nat := []

namespace Scripted

/-- What the session does by itself. -/
def ownStep (s : Scripted) : Option (Scripted × List Event) :=
  (Session.machine.stepAny s.session (s.session.own s.load)).map fun (session, events) =>
    ({ s with session }, events)

/-- The oldest dial that waits takes the next result of the plan. -/
def dialStep (s : Scripted) : Option (Scripted × List Event) :=
  match s.plan with
  | [] => none
  | script :: plan =>
    (s.session.forwarder.takeResult script).map fun (forwarder, events, handler) =>
      ({ s with
          session := { s.session with forwarder }, plan
          delivered := s.delivered ++ handler.toList },
        events.map .forwarder)

/-- All that happens until more has to be waited for, in at most `fuel`
steps. -/
def settleIn : Nat → Scripted → Scripted × List Event
  | 0, s => (s, [])
  | fuel + 1, s =>
    match s.ownStep <|> s.dialStep with
    | none => (s, [])
    | some (s, first) =>
      let (s, rest) := settleIn fuel s
      (s, first ++ rest)

/-- A bound on what can happen without further actions. -/
def work (s : Scripted) : Nat :=
  let legs := s.session.listener.arrivals.filterMap fun | .leg leg _ => some leg | _ => none
  legs.foldr (fun leg n => 2 * leg.pending + Handler.overhead + n)
    (s.session.forwarder.work + s.plan.length + s.session.listener.arrivals.length + 3)

/-- All that happens until more has to be waited for. -/
def settle (s : Scripted) : Scripted × List Event := s.settleIn s.work

/-- Takes an action if it can happen, and all that follows from it. -/
def act (s : Scripted) (a : Act) : Scripted × List Event :=
  let (session, first) := (s.session.step a).getD (s.session, [])
  let (s, rest) := { s with session }.settle
  (s, first ++ rest)

/-- A dial will have the given result. -/
def addResult (s : Scripted) (script : DialScript) : Scripted × List Event :=
  { s with plan := s.plan ++ [script] }.settle

/-- Something happens to a leg from outside. An outbound leg is known by its
number among those that dials have delivered. -/
def peer (s : Scripted) (side : Side) (number : Nat) (act : Leg.Act) : Scripted × List Event :=
  let handler := match side with
    | .inbound => some number
    | .outbound => s.delivered[number]?
  match handler with
  | some i => s.act (.forward (.handler i (.peer side act)))
  | none => (s, [])

end Scripted

end App

end TunnelRelay
