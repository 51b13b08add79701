import TunnelRelay.Proofs.Signals
/-!
# The chronicle of a connection

All that is known of how a connection goes, from its acceptance on: the course
of its phases, what happens at most once, what is told of it and when, and that
nothing is written on its inbound leg after the close (`Handler.Chronicle`). It
holds of every handler at every moment, whatever happens on other connections,
whichever receivers fail, and also when the handler is cancelled.
-/

namespace TunnelRelay

namespace Handler

variable {start h : Handler} {events : List Event} {platform : Platform} {url : String}
variable {taken : List Turn}

/-- **The chronicle of a connection.** -/
structure Chronicle (start h : Handler) (taken : List Turn) (events : List Event) : Prop where
  /-- It is accepted, then dialed, then relayed or degraded, then closed. -/
  course : Course .accepted events h.phase
  /-- Its destination is resolved once at most. -/
  begun : begins taken ≤ 1
  /-- It is dialed once at most. -/
  dialed : dials events ≤ 1
  /-- It is told once at most that the dial has failed or that the relay is
  closed. -/
  told : (signals events).length ≤ 1
  /-- If the dial has failed, nothing is written on an outbound leg. -/
  refused : ∀ fault, .dialFailed fault ∈ events → writtenOn .outbound events = []
  /-- What is told of the relay is right. -/
  reported : ∀ before outcome after, events = before ++ .relayClosed outcome :: after →
    Report start h taken before events outcome
  /-- A handler that has ended without telling anything was cancelled, or an
  unexpected fault has ended it, and there is one record of that. -/
  unexpected : ∀ ending, h.ending? = some ending → signals events = [] →
    .act .cancel ∉ taken → ∃ fault, traced events = [unexpected start.conn fault]
  /-- Nothing is seen of the inbound leg after its close. -/
  shut : ∀ before after, inboundEvents events = before ++ .closed :: after → after = []

/-- What has been told so far, whatever the stage. -/
theorem Tallied.bounds (ht : h.Tallied taken events) :
    begins taken ≤ 1 ∧ dials events ≤ 1 ∧ (signals events).length ≤ 1 := by
  unfold Tallied at ht
  cases hstage : h.stage with
  | starting | dropped =>
    simp only [hstage] at ht
    obtain ⟨hbegun, hdialed, huntold, -⟩ := ht
    simp [hbegun, hdialed, huntold]
  | dialing | handshaking =>
    simp only [hstage] at ht
    simp [ht.begun, ht.dialed, ht.untold]
  | relaying =>
    simp only [hstage] at ht
    simp [ht.1.begun, ht.1.dialed, ht.1.untold]
  | answering =>
    simp only [hstage] at ht
    obtain ⟨hbegun, hdialed, fault, htold⟩ := ht
    simp [hbegun, hdialed, htold]
  | ended =>
    simp only [hstage] at ht
    exact ⟨Nat.le_of_eq ht.1, ht.2.1, ht.2.2.1⟩

/-- A dial that has failed is not said to have succeeded, and so nothing is
written on an outbound leg. -/
theorem Transparent.unwritten {protocol : String} {b : Ledger} (ht : Transparent protocol b)
    (hfaults : b.faults ≠ []) : b.written .outbound = [] := by
  cases hsucceeded : b.succeeded with
  | true => exact absurd (ht.relayed hsucceeded).1 hfaults
  | false => exact (ht.unrelayed hsucceeded).1

theorem chronicle_of_run {conn : Inbound} {leg : Leg} {receivers : Receivers}
    (h' : (life platform url).run (accepted conn leg receivers) taken = some (h, events)) :
    Chronicle (accepted conn leg receivers) h taken events := by
  have htallied := tallied_run h'
  obtain ⟨hbegun, hdialed, htold⟩ := htallied.bounds
  have hfirst : (accepted conn leg receivers).phase = .accepted := by
    unfold accepted
    split <;> rfl
  refine {
    course := ?course
    begun := hbegun
    dialed := hdialed
    told := htold
    refused := ?refused
    reported := fun before outcome after hsplit => report_run h' hsplit
    unexpected := ?unexpected
    shut := ?shut }
  case course =>
    rw [← hfirst]
    refine Machine.run_induction
      (P := fun k _ events => Course (accepted conn leg receivers).phase events k.phase) .nil ?_ h'
    intro k next t taken events more _ hcourse hstep
    exact hcourse.append (course_step (passage_of_turn hstep))
  case refused =>
    intro fault hmem
    refine (balanced_run h').transparent.unwritten fun hnone => ?_
    have hfault : fault ∈ dialFaults events := List.mem_filterMap.mpr ⟨_, hmem, rfl⟩
    rw [show dialFaults events = [] from hnone] at hfault
    cases hfault
  case unexpected =>
    intro ending hending huntold hkept
    unfold ending? at hending
    split at hending
    · rename_i hstage
      simp only [Tallied, hstage] at htallied
      rw [← (same_of_run h').1]
      exact htallied.2.2.2 huntold hkept
    · cases hending
  case shut =>
    intro before after hsplit
    obtain ⟨last, -, htrace⟩ := traces_run (leg?_accepted conn leg receivers).1 h'
    rw [show inboundEvents (h, events).2 = _ from hsplit] at htrace
    exact htrace.last.1

/-- The chronicle does not depend on the trust cache. -/
theorem Chronicle.bare (hc : Chronicle start h taken events) :
    Chronicle start h (taken.map Turn.bare) events := by
  have hdeliveries : (taken.map Turn.bare).filterMap Turn.delivery? =
      taken.filterMap Turn.delivery? := by
    rw [List.filterMap_map]
    congr 1
    funext t
    cases t <;> rfl
  have hcancel : .act .cancel ∈ taken → .act .cancel ∈ taken.map Turn.bare :=
    fun hmem => List.mem_map.mpr ⟨_, hmem, rfl⟩
  refine { hc with
    begun := begins_bare taken ▸ hc.begun
    reported := fun before outcome after hsplit => ?_
    unexpected := fun ending hending huntold hkept =>
      hc.unexpected ending hending huntold fun hmem => hkept (hcancel hmem) }
  obtain ⟨hexact, hshut⟩ := hc.reported before outcome after hsplit
  refine ⟨hexact, fun hin hheld side => ?_⟩
  have hside := hshut hin hheld side
  rw [CameShut, ← hdeliveries] at hside
  exact hside

end Handler

namespace Forwarder

open Handler (Chronicle Course Turn life)

variable {url sourceId : String} {platform : Platform} {cache : Trust.Cache Trust.Context}
variable {f : Forwarder} {act : Act} {acts : List Act} {events : List Event}
variable {result : Forwarder × List Event} {i : Nat}

/-! ## Every connection -/

/-- An action shows something of the connections that have been told of. -/
theorem handler_mem_of_passage (hp : Passage f act result) {e : Handler.Event}
    (hmem : .handler i e ∈ result.2) : i < f.handlers.length := by
  cases hp with
  | accept => simp at hmem
  | exhausted | failed | cancel => cases hmem
  | @turn act j old t cache next hget _ _ hstep =>
    obtain ⟨own, -, heq⟩ := List.mem_map.mp hmem
    obtain ⟨rfl, -⟩ := Event.handler.inj heq
    exact (List.getElem?_eq_some_iff.mp hget).1
  | finish _ hconclude =>
    have hnone := (eventsOf_conclude (i := i) hconclude).1
    have hseen : e ∈ eventsOf i _ := List.mem_filterMap.mpr ⟨_, hmem, if_pos rfl⟩
    rw [hnone] at hseen
    cases hseen

/-- **A connection is told of before anything is seen of it.** -/
theorem announced_before (h : machine.run (new url sourceId platform cache) acts = some (f, events))
    {before after : List Event} {e : Handler.Event}
    (hsplit : events = before ++ .handler i e :: after) : i < (announced before).length := by
  refine Machine.run_induction (P := fun _ _ events => ∀ before e after,
    events = before ++ .handler i e :: after → i < (announced before).length) ?_ ?_ h before e after
    hsplit
  · intro before e after hsplit
    simp at hsplit
  · intro f next act acts events more hrun hall hstep before e after hsplit
    rcases split_append hsplit with ⟨tail, htail⟩ | ⟨hbefore, hmem⟩
    · exact hall before e tail htail
    · -- seen by this action: all that have arrived were told of
      have hi := handler_mem_of_passage (passage_of_step hstep) hmem
      obtain ⟨-, -, hlanes⟩ := lanes_of_run hrun
      have htold : (announced events).length = f.handlers.length := by
        rw [(told_of_run hrun).announced, List.length_map, hlanes.count]
      have hlonger := (hbefore.filterMap Event.announced?).length_le
      exact Nat.lt_of_lt_of_le (htold ▸ hi) hlonger

/-- **Connections run their course.** Take any run, whichever receivers fail and
whatever is cancelled. Every connection is told of once and before anything is
seen of it, and it has a handler with the chronicle of a connection. From there
on it goes on with its course, whatever comes. -/
theorem connections_run_their_course
    (h : machine.run (new url sourceId platform cache) acts = some (f, events)) {start : Handler}
    (hstart : (arrivals acts)[i]? = some start) :
    announced events = (arrivals acts).map (·.conn) ∧
      (∀ before e after, events = before ++ .handler i e :: after →
        (announced before)[i]? = some start.conn) ∧
      ∃ k, f.handlers[i]? = some k ∧ Chronicle start k (turns i acts) (eventsOf i events) ∧
        ∀ later f' more, machine.run f later = some (f', more) →
          ∃ k', f'.handlers[i]? = some k' ∧ k.phase.Leads k'.phase ∧
            Course k.phase (eventsOf i more) k'.phase := by
  obtain ⟨conn, leg, receivers, -, rfl⟩ := mem_arrivals (List.mem_of_getElem? hstart)
  obtain ⟨k, taken, hget, htaken, hrun⟩ := lane_of_run h hstart
  have htold := told_of_run h
  refine ⟨htold.announced, fun before e after hsplit => ?_, k, hget, ?_,
    fun later f' more hlater => ?_⟩
  · -- the connections told of before are the first of all
    have hi := announced_before h hsplit
    have hall := (htold.at hstart).1
    rw [hsplit, announced_append, List.getElem?_append_left hi] at hall
    exact hall
  · rw [← htaken]
    exact (Handler.chronicle_of_run hrun).bare
  · obtain ⟨k', hget', hcourse⟩ := course_run hget hlater
    exact ⟨k', hget', hcourse.leads, hcourse⟩

/-- A run in which one connection is relayed until its client has sent all, and
the dial of another is refused. -/
def relayedAndRefused : List Act :=
  [.supplied (.connection {} {}) {}, .begin 0 (.error .streamClosed),
    .supplied (.connection { id := "b" } {}) {}, .begin 1 (.error .streamClosed),
    .handler 0 (.delivered (.ok { leg := {} })), .handler 1 (.delivered (.error .streamClosed)),
    .handler 0 (.peer .inbound (.deliver [1, 2, 3])), .handler 0 (.advance .inbound),
    .handler 0 (.advance .inbound), .handler 0 (.peer .inbound .finish),
    .handler 0 (.advance .inbound), .handler 0 (.abandon .outbound), .handler 0 .closeLegs]

theorem relayedAndRefused_run_their_course :
    ∃ f events before outcome after fault,
      machine.run (new "tcp://a:1" "s" .posix {}) relayedAndRefused = some (f, events) ∧
      announced events = [{}, { id := "b" }] ∧
      eventsOf 0 events = before ++ .relayClosed outcome :: after ∧
      outcome.fromInbound = .int 3 ∧ outcome.fromOutbound = .int 0 ∧
      (∀ side, ∃ cover, .leg side cover .closed ∈ before) ∧
      .dialFailed fault ∈ eventsOf 1 events ∧
      Handler.writtenOn .outbound (eventsOf 1 events) = [] := by
  obtain ⟨⟨f, events⟩, h⟩ := Option.isSome_iff_exists.mp
    (show (machine.run (new "tcp://a:1" "s" .posix {}) relayedAndRefused).isSome = true by
      decide +kernel)
  have hseen : (machine.run (new "tcp://a:1" "s" .posix {}) relayedAndRefused).all (fun r =>
      (eventsOf 0 r.2).any (fun e => e.isSignal && e.dialFault?.isNone) &&
        (eventsOf 1 r.2).any (·.dialFault?.isSome) &&
        (Handler.writtenOn .outbound (eventsOf 0 r.2)).length == 3 &&
        (Handler.writtenOn .inbound (eventsOf 0 r.2)).length == 0 &&
        r.1.handlers[0]?.all fun k => [Side.inbound, .outbound].all fun side =>
          (k.leg? side).all fun leg => leg.closeFault.isNone && !leg.closeHeld) = true := by
    decide +kernel
  simp only [h, Option.all_some, Bool.and_eq_true, beq_iff_eq] at hseen
  obtain ⟨⟨⟨⟨hclosed, hfailed⟩, hout⟩, hin⟩, hlegs⟩ := hseen
  -- the first connection: the report of its relay
  obtain ⟨htold, -, k, hk, hchronicle, -⟩ := connections_run_their_course h
    (show (arrivals relayedAndRefused)[0]? = some (.accepted {} {} {}) from rfl)
  have hfine (side : Side) (leg : Leg) (hleg : k.leg? side = some leg) :
      leg.Blameless ∧ leg.closeHeld = false := by
    have hside : leg.closeFault = none ∧ leg.closeHeld = false := by
      cases side <;> simp_all
    refine ⟨fun fault hfault => ?_, hside.2⟩
    rw [hside.1] at hfault
    cases hfault
  obtain ⟨e, he, hkind⟩ := List.any_eq_true.mp hclosed
  obtain ⟨outcome, rfl⟩ : ∃ outcome, e = .relayClosed outcome := by
    cases e with
    | relayClosed outcome => exact ⟨outcome, rfl⟩
    | log | dial | cover | handshake | leg | dialFailed => simp_all [Handler.Event.isSignal,
        Handler.Event.dialFault?]
  obtain ⟨before, after, hsplit⟩ := List.append_of_mem he
  obtain ⟨hexact, hshut⟩ := hchronicle.reported before outcome after hsplit
  obtain ⟨hfrom, hback⟩ := hexact fun side leg hleg => (hfine side leg hleg).1
  rw [hout] at hfrom
  rw [hin] at hback
  -- the second one: its dial has failed
  obtain ⟨e', he', hfault⟩ := List.any_eq_true.mp hfailed
  obtain ⟨fault, rfl⟩ : ∃ fault, e' = .dialFailed fault := by
    cases e' with
    | dialFailed fault => exact ⟨fault, rfl⟩
    | log | dial | cover | handshake | leg | relayClosed =>
      simp [Handler.Event.dialFault?] at hfault
  obtain ⟨-, -, other, -, hrefused, -⟩ := connections_run_their_course h
    (show (arrivals relayedAndRefused)[1]? = some (.accepted { id := "b" } {} {}) from rfl)
  refine ⟨f, events, before, outcome, after, fault, h, htold, hsplit, hfrom, hback,
    fun side => ?_, he', hrefused.refused fault he'⟩
  refine (hshut (fun leg hleg => (hfine .inbound leg hleg).1)
    (fun side leg hleg => (hfine side leg hleg).2) side).resolve_left ?_
  rintro (⟨first, hfirst, hcame⟩ | ⟨rfl, delivery, hmem, hcame⟩)
  · cases side with
    | inbound =>
      obtain rfl : ({} : Leg) = first := Option.some.inj hfirst
      cases hcame
    | outbound => cases hfirst
  · obtain rfl : { leg := {} } = delivery := by
      simpa [turns, relayedAndRefused, Act.turn?, Handler.Turn.delivery?] using hmem
    cases hcame

/-- A run in which the close of the outbound leg gives what a relay takes for a
failure of its own. -/
def misreported : List Act :=
  [.supplied (.connection {} {}) {}, .begin 0 (.error .streamClosed),
    .handler 0 (.delivered (.ok
      { leg := { closeFault := some (.relayFailure (.string "x") (.int 5) (.int 7)) } })),
    .handler 0 (.peer .inbound (.deliver [1, 2, 3])), .handler 0 (.advance .inbound),
    .handler 0 (.advance .inbound), .handler 0 (.peer .inbound .finish),
    .handler 0 (.advance .inbound), .handler 0 (.abandon .outbound), .handler 0 .closeLegs]

/-- Its numbers are told, and they are not those of the bytes written. -/
theorem misreported_is_wrong :
    ∃ f events outcome,
      machine.run (new "tcp://a:1" "s" .posix {}) misreported = some (f, events) ∧
      .relayClosed outcome ∈ eventsOf 0 events ∧ outcome.fromInbound = .int 5 ∧
      (Handler.writtenOn .outbound (eventsOf 0 events)).length = 3 := by
  obtain ⟨⟨f, events⟩, h⟩ := Option.isSome_iff_exists.mp
    (show (machine.run (new "tcp://a:1" "s" .posix {}) misreported).isSome = true by
      decide +kernel)
  have hseen : (machine.run (new "tcp://a:1" "s" .posix {}) misreported).all (fun r =>
      (eventsOf 0 r.2).any (fun | .relayClosed outcome => outcome.fromInbound == .int 5
                                | _ => false) &&
        (Handler.writtenOn .outbound (eventsOf 0 r.2)).length == 3) = true := by
    decide +kernel
  simp only [h, Option.all_some, Bool.and_eq_true, beq_iff_eq] at hseen
  obtain ⟨e, he, hkind⟩ := List.any_eq_true.mp hseen.1
  cases e with
  | relayClosed outcome => exact ⟨f, events, outcome, h, he, by simpa using hkind, hseen.2⟩
  | log | dial | cover | handshake | leg | dialFailed => cases hkind

end Forwarder

end TunnelRelay
