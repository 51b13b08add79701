import TunnelRelay.Proofs.Closing
/-!
# A closed leg is left alone

What is seen of a leg is a trace (`Leg.Trace`): writes while it is open, then at
most one close, and nothing after it. Every act of the peer, every step of a
relay or a responder and every turn of a handler adds to the trace of the
inbound leg, from what the leg was to what it has become. So nothing is written
on it once it is closed.
-/

namespace TunnelRelay

namespace Leg

variable {leg next : Leg} {events more before after : List Event} {a b c : Bool}

/-- **A trace of a leg** from one moment to another, at each of which it is
closed or not. -/
inductive Trace : Bool → List Event → Bool → Prop
  | nil {closed : Bool} : Trace closed [] closed
  /-- An open leg is written on. -/
  | wrote {data : Bytes} {events : List Event} {closed : Bool} : Trace false events closed →
      Trace false (.wrote data :: events) closed
  /-- An open leg is closed. -/
  | closed {events : List Event} {closed : Bool} : Trace true events closed →
      Trace false (.closed :: events) closed

theorem Trace.append (h : Trace a events b) (h' : Trace b more c) : Trace a (events ++ more) c := by
  induction h with
  | nil => exact h'
  | wrote _ ih => exact .wrote (ih h')
  | closed _ ih => exact .closed (ih h')

/-- A closed leg stays closed, and nothing is seen of it. -/
theorem Trace.eq_nil (h : Trace true events b) : events = [] ∧ b = true := by
  cases h
  exact ⟨rfl, rfl⟩

/-- **Nothing follows a close.** -/
theorem Trace.last (h : Trace a (before ++ .closed :: after) b) : after = [] ∧ b = true := by
  induction before generalizing a with
  | nil =>
    cases h with
    | closed h => exact h.eq_nil
  | cons e before ih =>
    cases h with
    | wrote h | closed h => exact ih h

theorem trace_apply (leg : Leg) (act : Act) :
    Trace leg.closed (leg.apply act).2 (leg.apply act).1.closed := by
  cases act with
  | close =>
    cases hclosed : leg.closed with
    | true => simpa [apply, hclosed] using Trace.nil
    | false => simpa [apply, hclosed] using Trace.closed .nil
  | deliver | finish | snap | refuse | stall | resume => exact .nil

theorem trace_closeNow (leg : Leg) : Trace leg.closed leg.closeEvents leg.closeNow.closed := by
  cases hheld : leg.closeHeld with
  | true => simpa [closeEvents, closeNow, hheld] using Trace.nil
  | false =>
    cases hclosed : leg.closed with
    | true => simpa [closeEvents, closeNow, hheld, hclosed] using Trace.nil
    | false => simpa [closeEvents, closeNow, hheld, hclosed] using Trace.closed .nil

/-- A leg that takes a write is open. -/
theorem open_of_send (h : leg.send = .sent) : leg.closed = false := by
  unfold send at h
  split at h
  · cases h
  · rename_i hopen
    simpa using hopen

theorem trace_wrote (h : leg.send = .sent) (data : Bytes) :
    Trace leg.closed [.wrote data] leg.closed := by
  rw [open_of_send h]
  exact .wrote .nil

end Leg

open Leg (Trace)

namespace Relay

variable {r next : Relay} {act : Act} {result : Relay × List Event} {side : Side}

/-- What an event shows of the leg of a side. -/
def Event.on? (side : Side) (e : Event) : Option Leg.Event :=
  if e.side = side then some e.event else none

/-- What is seen of the leg of a side. -/
def eventsOn (side : Side) (events : List Event) : List Leg.Event :=
  events.filterMap (Event.on? side)

theorem eventsOn_append (side : Side) (events more : List Event) :
    eventsOn side (events ++ more) = eventsOn side events ++ eventsOn side more :=
  List.filterMap_append

theorem eventsOn_map (r : Relay) (side other : Side) (seen : List Leg.Event) :
    eventsOn side (seen.map (r.legEvent other)) = if other = side then seen else [] := by
  rw [eventsOn, List.filterMap_map]
  split
  · rename_i h
    simp [Function.comp_def, Event.on?, legEvent, h]
  · rename_i h
    simp [Function.comp_def, Event.on?, legEvent, h]

/-- One leg changes as its trace tells, and nothing is seen of the other. -/
theorem trace_set {legs : Both Leg} {other : Side} {leg : Leg} {seen : List Leg.Event}
    (h : Trace (legs.get other).closed seen leg.closed) (side : Side) :
    Trace (legs.get side).closed (if other = side then seen else [])
      ((legs.set other leg).get side).closed := by
  rcases Side.eq_or_eq_other other side with rfl | rfl
  · rw [if_pos rfl, Both.get_set_same]
    exact h
  · rw [if_neg (Side.ne_other other), Both.get_set_other]
    exact .nil

theorem trace_closeLegs (r : Relay) (side : Side) :
    Trace (r.legs.get side).closed (eventsOn side r.closeLegs.2)
      (r.closeLegs.1.legs.get side).closed := by
  unfold closeLegs
  split
  · rw [eventsOn_map]
    exact @trace_set r.legs .inbound _ _ (Leg.trace_closeNow _) side
  · rw [eventsOn_append, eventsOn_map, eventsOn_map]
    cases side with
    | inbound =>
      rw [if_pos rfl, if_neg nofun, List.append_nil]
      exact Leg.trace_closeNow _
    | outbound =>
      rw [if_neg nofun, if_pos rfl, List.nil_append]
      exact Leg.trace_closeNow _

/-- A pump writes on a leg that takes the write. -/
theorem send_of_write {events : List Event} {e : Event}
    (hstep : r.step (.advance side) = some (next, e :: events)) :
    (r.legs.get side.other).send = .sent := by
  obtain ⟨meeting, -, hpumps⟩ := pumps_of_advance hstep
  cases hpumps with
  | @wrote other hother hsend => exact hsend

/-- **What a step of a relay shows of its legs.** -/
theorem trace_step (hstep : r.step act = some result) (side : Side) :
    Trace (r.legs.get side).closed (eventsOn side result.2)
      (result.1.legs.get side).closed := by
  cases passage_of_step hstep with
  | @peer other act =>
    rw [eventsOn_map]
    exact trace_set (Leg.trace_apply _ act) side
  | @last other leg _ hread | @read other _ leg _ hread =>
    -- a read is not seen
    have hkept : Trace (r.legs.get other).closed [] leg.closed := by
      rw [Leg.closed_of_receive hread]
      exact .nil
    have hside := trace_set hkept side
    rw [ite_self] at hside
    exact hside
  | unread | unsent => simpa [endPump, eventsOn] using Trace.nil
  | @write other chunk hpump =>
    have hside := trace_set (Leg.trace_wrote (send_of_write hstep) chunk) side
    have hsame : r.legs.set other.other (r.legs.get other.other) = r.legs := by
      cases other <;> rfl
    rw [hsame] at hside
    rw [show [r.legEvent other.other (.wrote chunk)] =
      [Leg.Event.wrote chunk].map (r.legEvent other.other) from rfl, eventsOn_map]
    exact hside
  | abandon | cancel => exact .nil
  | close => exact trace_closeLegs r side

end Relay

namespace Gateway

variable {g : Gateway} {act : Act} {result : Gateway × List Event}

/-- What an event shows of the leg. -/
def Event.seen? : Event → Option Leg.Event
  | .leg event => some event
  | .log _ => none

/-- What is seen of the leg. -/
def seen (events : List Event) : List Leg.Event := events.filterMap Event.seen?

theorem seen_append (events more : List Event) : seen (events ++ more) = seen events ++ seen more :=
  List.filterMap_append

theorem seen_legs (events : List Leg.Event) : seen (events.map .leg) = events := by
  simp [seen, List.filterMap_map, Function.comp_def, Event.seen?]

theorem trace_finish {a : Bool} {ending : Ending Bool} {events : List Event}
    (h : Trace a (seen events) g.leg.closed) :
    Trace a (seen (g.finish ending events).2) (g.finish ending events).1.leg.closed := by
  rw [finish, seen_append, seen_legs]
  exact h.append (Leg.trace_closeNow g.leg)

/-- **What a step of a responder shows of its leg.** -/
theorem trace_passage (hp : Passage g act result) :
    Trace g.leg.closed (seen result.2) result.1.leg.closed := by
  cases hp with
  | listen _ hread | settle _ hread =>
    rw [← Leg.closed_of_receive hread]
    exact .nil
  | decline _ hread =>
    rw [← Leg.closed_of_receive hread]
    exact trace_finish .nil
  | @unread fault | @unsent _ fault =>
    unfold fail
    split <;> exact trace_finish .nil
  | @answer data _ hsend => exact trace_finish (Leg.trace_wrote hsend data)
  | stop =>
    rw [stop, seen_legs]
    exact Leg.trace_closeNow g.leg
  | leave | interrupt => exact .nil

end Gateway

namespace Handler

variable {h : Handler} {inbound leg : Leg} {outbound : Option Leg} {ending : Ending Unit}
variable {events : List Event} {platform : Platform} {url : String} {t : Turn} {a : Bool}
variable {taken : List Turn} {result : Handler × List Event}

/-- What an event shows of the inbound leg. -/
def Event.inbound? : Event → Option Leg.Event
  | .leg .inbound _ event => some event
  | _ => none

/-- What is seen of the inbound leg. -/
def inboundEvents (events : List Event) : List Leg.Event := events.filterMap Event.inbound?

@[simp] theorem inboundEvents_append (events more : List Event) :
    inboundEvents (events ++ more) = inboundEvents events ++ inboundEvents more :=
  List.filterMap_append

theorem inboundEvents_legs (side : Side) (cover : Cover) (seen : List Leg.Event) :
    inboundEvents (seen.map (.leg side cover)) = if side = .inbound then seen else [] := by
  rw [inboundEvents, List.filterMap_map]
  cases side <;> simp [Function.comp_def, Event.inbound?]

theorem inboundEvents_ofRelay (own : List Relay.Event) :
    inboundEvents (own.map ofRelay) = Relay.eventsOn .inbound own := by
  rw [inboundEvents, Relay.eventsOn, List.filterMap_map]
  congr 1
  funext e
  obtain ⟨side, cover, event⟩ := e
  cases side <;> rfl

theorem inboundEvents_ofGateway (cover : Cover) (own : List Gateway.Event) :
    inboundEvents (own.map (ofGateway cover)) = Gateway.seen own := by
  rw [inboundEvents, Gateway.seen, List.filterMap_map]
  congr 1
  funext e
  cases e <;> rfl

theorem inboundEvents_discarded (leg : Leg) : inboundEvents (discarded leg) = [] :=
  inboundEvents_legs .outbound leg.cover leg.closeEvents

/-- What is said at the end of a relay shows nothing of a leg. -/
theorem inboundEvents_conclude (h : Handler) (ending : Ending Relay.Outcome) :
    inboundEvents (h.conclude ending).2 = [] := by
  have hrecords (records : List Log.Record) : inboundEvents (records.map .log) = [] := by
    simp [inboundEvents, List.filterMap_map, Function.comp_def, Event.inbound?]
  simp only [conclude]
  split
  · rw [inboundEvents_append, hrecords]
    rfl
  · exact hrecords _

/-- **The trace of the inbound leg**, from what it was to what it has become. -/
def Traces (a : Bool) (result : Handler × List Event) : Prop :=
  ∃ leg, result.1.leg? .inbound = some leg ∧ Trace a (inboundEvents result.2) leg.closed

theorem traces_finish (hin : Trace a (inboundEvents events) inbound.closed) :
    Traces a (h.finish inbound outbound ending events) := by
  refine ⟨inbound.closeNow, rfl, ?_⟩
  have hsaid : inboundEvents
      (ending.faultName?.map (h.noteUnexpected "forwarding connection")).toList = [] := by
    cases ending.faultName? <;> rfl
  rw [finish, inboundEvents_append, inboundEvents_append, hsaid, List.append_nil,
    inboundEvents_legs, if_pos rfl]
  exact hin.append (Leg.trace_closeNow inbound)

theorem traces_dialFailed {fault : Fault} (hevents : inboundEvents events = []) :
    Traces inbound.closed (h.dialFailed inbound outbound fault events) := by
  have htold : inboundEvents (events ++ [h.dialRecord fault, .dialFailed fault]) = [] := by
    rw [inboundEvents_append, hevents]
    unfold dialRecord
    split <;> rfl
  rcases h.dialFailed_cases inbound outbound fault events with
    ⟨-, -, -, heq⟩ | ⟨-, ending, -, heq⟩
  · rw [heq]
    exact ⟨inbound, rfl, by rw [htold]; exact .nil⟩
  · rw [heq]
    exact traces_finish (by rw [htold]; exact .nil)

/-- **What a turn shows of the inbound leg.** -/
theorem traces_step (hleg : h.leg? .inbound = some leg) (hp : Passage h t result) :
    Traces leg.closed result := by
  cases hp with
  | @peer side act other hother =>
    obtain ⟨hsame, hkept⟩ := leg?_withLeg hother (other.apply act).1
    cases side with
    | inbound =>
      obtain rfl : leg = other := Option.some.inj (hleg.symm.trans hother)
      exact ⟨_, hsame, by rw [inboundEvents_legs]; exact Leg.trace_apply leg act⟩
    | outbound => exact ⟨leg, hkept.trans hleg, by rw [inboundEvents_legs]; exact .nil⟩
  | unresolved hstage | refused hstage | unnamed hstage =>
    simp only [leg?, hstage, Option.some.injEq] at hleg
    subst hleg
    exact traces_dialFailed rfl
  | uncovered hstage | unshaken hstage | cancelFailed hstage =>
    simp only [leg?, hstage, Option.some.injEq] at hleg
    subst hleg
    exact traces_dialFailed (inboundEvents_discarded _)
  | dial hstage | covered hstage | connected hstage | shaken hstage =>
    simp only [leg?, hstage, Option.some.injEq] at hleg
    subst hleg
    exact ⟨_, rfl, .nil⟩
  | cancelDial hstage =>
    simp only [leg?, hstage, Option.some.injEq] at hleg
    subst hleg
    exact traces_finish .nil
  | cancelHandshake hstage =>
    simp only [leg?, hstage, Option.some.injEq] at hleg
    subst hleg
    exact traces_finish (by rw [inboundEvents_discarded]; exact .nil)
  | @relay relay act own result hstage hown hstep =>
    obtain rfl : relay.legs.inbound = leg := by simpa [leg?, hstage, Both.get] using hleg
    have hin : Trace relay.legs.inbound.closed (inboundEvents (result.2.map ofRelay))
        result.1.legs.inbound.closed := by
      rw [inboundEvents_ofRelay]
      exact Relay.trace_step hstep .inbound
    rcases h.withRelay_cases result.1 result.2 with ⟨-, heq⟩ | ⟨ending, -, heq⟩
    · rw [heq]
      exact ⟨_, rfl, hin⟩
    · rw [heq]
      refine traces_finish ?_
      rw [inboundEvents_append, inboundEvents_conclude, List.append_nil]
      exact hin
  | @gateway gateway outbound act own result hstage hown hstep =>
    obtain rfl : gateway.leg = leg := by simpa [leg?, hstage] using hleg
    have hin : Trace gateway.leg.closed
        (inboundEvents (result.2.map (ofGateway result.1.leg.cover))) result.1.leg.closed := by
      rw [inboundEvents_ofGateway]
      exact Gateway.trace_passage (Gateway.passage_of_step (Act.onGateway_ne_peer hown) hstep)
    rcases h.withGateway_cases outbound result.1 result.2 with ⟨-, heq⟩ | ⟨ending, -, heq⟩
    · rw [heq]
      exact ⟨_, rfl, hin⟩
    · rw [heq]
      exact traces_finish hin

/-- So does the whole life of a handler. -/
theorem traces_run {start : Handler} {first : Leg} (hfirst : start.leg? .inbound = some first)
    (h' : (life platform url).run start taken = some (h, events)) :
    Traces first.closed (h, events) := by
  refine Machine.run_induction (P := fun k _ events => Traces first.closed (k, events)) ?_ ?_ h'
  · exact ⟨first, hfirst, .nil⟩
  · rintro k next t taken events more - ⟨leg, hleg, htrace⟩ hstep
    obtain ⟨last, hlast, hmore⟩ := traces_step hleg (passage_of_turn hstep)
    refine ⟨last, hlast, ?_⟩
    rw [inboundEvents_append]
    exact htrace.append hmore

end Handler

end TunnelRelay
