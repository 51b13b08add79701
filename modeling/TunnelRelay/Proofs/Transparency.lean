import TunnelRelay.Proofs.Lanes
import TunnelRelay.Proofs.Ledger
import TunnelRelay.Proofs.Verdicts
/-!
# Forwarding is transparent

For every connection of every run of a forwarder, the ledger is transparent: no
response is ever mixed into a relayed connection, nothing is relayed after a
failed dial, and nothing is written on a leg that was not sent to it.

The other half is that the response comes. While nobody cancels the handler or
keeps it from writing to its client, a handler whose dial fails expects an
answer to every request that is heard in what the client has sent
(`Attends`). So if the responder goes on, the answer is written.
-/

namespace TunnelRelay

namespace Handler

variable {h : Handler} {inbound : Leg} {outbound : Option Leg} {ending : Ending Unit}
variable {events : List Event} {platform : Platform} {url : String} {t : Turn}
variable {taken : List Turn} {result : Handler × List Event} {b : Ledger}
variable {heard : List Leg.Arrival}

/-! ## What is heard of a client -/

/-- What a turn makes arrive on the inbound leg. -/
def Turn.arrivals : Turn → List Leg.Arrival
  | .act (.peer .inbound own) => own.arrivals
  | _ => []

/-- All that has arrived on the inbound leg. -/
def heardBy (start : Handler) (taken : List Turn) : List Leg.Arrival :=
  ((start.leg? .inbound).elim [] (·.arrivals)) ++ taken.flatMap Turn.arrivals

/-- **A turn that is gentle to the client**: it neither cancels the handler nor
keeps what it writes from the client. -/
structure Turn.Gentle (t : Turn) : Prop where
  cancel : t ≠ .act .cancel
  close : t ≠ .act (.peer .inbound .close)
  refuse : ∀ fault, t ≠ .act (.peer .inbound (.refuse fault))

/-- **The handler attends to its client**: until the dial has failed it keeps
what it has heard, then it expects an answer, and has given it when it ends. -/
def Attends (h : Handler) (heard : List Leg.Arrival) (b : Ledger) : Prop :=
  match h.stage with
  | .starting inbound | .dialing inbound _ _ | .handshaking inbound _ _ _ =>
    inbound.Writable ∧ inbound.arrivals = heard
  | .answering gateway _ => (∀ ending, gateway.stage ≠ .ended ending) ∧
      ∀ more request, Gateway.Hears [] (heard ++ more) request →
        gateway.Gives more request (b.written .inbound)
  | .ended _ _ _ => ∀ fault ∈ b.faults, isDialFault fault = true →
      Gateway.answers h.conn.protocol = true →
      ∀ more request, Gateway.Hears [] (heard ++ more) request →
        b.written .inbound = Gateway.response (Gateway.body fault.message) request
  | .relaying _ | .dropped _ => True

/-- Where no fault of dialing was told, there is nothing to answer. -/
theorem attends_finish (hfaults : (b.then t events).faults = []) :
    (h.finish inbound outbound ending events).1.Attends heard
      (b.then t (h.finish inbound outbound ending events).2) := by
  rw [then_finish]
  intro fault hfault
  rw [hfaults] at hfault
  cases hfault

theorem attends_dialFailed {fault : Fault} (hleg : inbound.Writable)
    (hheard : inbound.arrivals = heard) (hquiet : (b.then t events).Quiet)
    (hreceivers : h.receivers.dialFailed = none) :
    (h.dialFailed inbound outbound fault events).1.Attends heard
      (b.then t (h.dialFailed inbound outbound fault events).2) := by
  rcases h.dialFailed_cases inbound outbound fault events with
    ⟨-, -, -, heq⟩ | ⟨hsilent, ending, -, heq⟩
  · rw [heq, then_dialFailed]
    refine ⟨nofun, fun more request hhears => Or.inl ⟨hquiet.written .inbound, hleg, ?_⟩⟩
    rw [← hheard] at hhears
    exact hhears
  · rw [heq, then_finish, then_dialFailed]
    intro other hother hdial hanswers
    rw [hquiet.faults] at hother
    obtain rfl := List.mem_singleton.mp hother
    change Gateway.answers h.conn.protocol = true at hanswers
    -- there was nothing for which the handler could have stayed silent
    rw [hreceivers, hdial, hanswers] at hsilent
    simp at hsilent

/-- What arrives on the inbound leg is heard too; nothing else that happens to
the legs changes what is expected. -/
theorem attends_peer {side : Side} {leg : Leg} {act : Leg.Act} (ha : h.Attends heard b)
    (hleg : h.leg? side = some leg) (ht : Turn.Gentle (.act (.peer side act))) :
    (h.withLeg side (leg.apply act).1).Attends (heard ++ Turn.arrivals (.act (.peer side act)))
      (b.then (.act (.peer side act)) ((leg.apply act).2.map (.leg side leg.cover))) := by
  have hwritable (hside : side = .inbound) (hw : leg.Writable) : (leg.apply act).1.Writable := by
    subst hside
    exact hw.apply (fun hact => ht.close (by rw [hact])) fun fault hact =>
      ht.refuse fault (by rw [hact])
  rw [then_of_silent (silent_apply leg act side leg.cover)]
  unfold Attends at ha
  cases hstage : h.stage with
  | starting inbound | dialing inbound =>
    simp only [hstage] at ha
    cases side with
    | inbound =>
      obtain rfl : inbound = leg := by simpa [leg?, hstage] using hleg
      simp only [withLeg, hstage, Attends]
      exact ⟨hwritable rfl ha.1, by rw [Leg.arrivals_apply, ha.2]; rfl⟩
    | outbound => simp [leg?, hstage] at hleg
  | handshaking inbound guard peer outbound =>
    simp only [hstage] at ha
    cases side with
    | inbound =>
      obtain rfl : inbound = leg := by simpa [leg?, hstage] using hleg
      simp only [withLeg, hstage, Attends]
      exact ⟨hwritable rfl ha.1, by rw [Leg.arrivals_apply, ha.2]; rfl⟩
    | outbound =>
      simp only [withLeg, hstage, Attends]
      exact ⟨ha.1, ha.2.trans (List.append_nil heard).symm⟩
  | answering gateway outbound =>
    simp only [hstage] at ha
    cases side with
    | inbound =>
      obtain rfl : gateway.leg = leg := by simpa [leg?, hstage] using hleg
      simp only [withLeg, hstage, Attends]
      refine ⟨ha.1, fun more request hhears => ?_⟩
      rw [List.append_assoc] at hhears
      rcases ha.2 _ request hhears with ⟨hnone, hleg, hexpects⟩ | hdone
      · exact Or.inl ⟨hnone, hwritable rfl hleg, hexpects.arrive Leg.arrivals_apply⟩
      · exact Or.inr hdone
    | outbound =>
      obtain rfl : outbound = some leg := by simpa [leg?, hstage] using hleg
      simp only [withLeg, hstage, Attends]
      have hnone : Turn.arrivals (.act (.peer .outbound act)) = [] := rfl
      rw [hnone, List.append_nil]
      exact ha
  | ended inbound outbound ending =>
    simp only [hstage] at ha
    have hnext : ∀ fault ∈ b.faults, isDialFault fault = true →
        Gateway.answers h.conn.protocol = true → ∀ more request,
        Gateway.Hears [] (heard ++ Turn.arrivals (.act (.peer side act)) ++ more) request →
        b.written .inbound = Gateway.response (Gateway.body fault.message) request := by
      intro fault hfault hdial hanswers more request hhears
      rw [List.append_assoc] at hhears
      exact ha fault hfault hdial hanswers _ request hhears
    cases side <;> cases outbound <;> simp only [withLeg, hstage, Attends] <;> exact hnext
  | relaying relay => simp only [withLeg, hstage, Attends]
  | dropped inbound => cases side <;> simp only [withLeg, hstage, Attends]

theorem arrivals_of_onGateway {act : Act} {own : Gateway.Act} (h : act.onGateway = some own) :
    Turn.arrivals (.act act) = [] := by
  cases act with
  | answer | cancel => rfl
  | peer | delivered | handshaken | advance | abandon | closeLegs => cases h

/-- The responder goes on with what is expected, and ends with it written. -/
theorem attends_withGateway {gateway : Gateway} {act : Act} {own : Gateway.Act}
    {step : Gateway × List Gateway.Event} (hb : h.Balanced b) (ha : h.Attends heard b)
    (ht : Turn.Gentle (.act act)) (hstage : h.stage = .answering gateway outbound)
    (hown : act.onGateway = some own) (hstep : gateway.step own = some step) :
    (h.withGateway outbound step).1.Attends heard
      (b.then (.act act) (h.withGateway outbound step).2) := by
  simp only [Balanced, hstage] at hb
  simp only [Attends, hstage] at ha
  obtain ⟨-, -, -, -, fault, hfaults, -, -, hreason⟩ := hb
  have hadvance : own = .advance := by
    cases act with
    | answer => exact (Option.some.inj hown).symm
    | cancel => exact absurd rfl ht.cancel
    | peer | delivered | handshaken | advance | abandon | closeLegs => cases hown
  subst hadvance
  have hp := Gateway.passage_of_advance hstep
  have hwritten : (b.then (.act act) (step.2.map (ofGateway step.1.leg.cover))).written .inbound =
      b.written .inbound ++ Gateway.written step.2 := by
    simp [Ledger.then, writtenOn_ofGateway]
  rcases h.withGateway_cases outbound step.1 step.2 with ⟨hopen, heq⟩ | ⟨ending, hended, heq⟩
  · rw [heq]
    refine ⟨hopen, fun more request hhears => ?_⟩
    rw [hwritten]
    exact (ha.2 more request hhears).step hp
  · rw [heq, then_finish]
    intro other hother _ _ more request hhears
    have hone : other = fault := by
      simpa [Ledger.then, hfaults, dialFaults_ofGateway] using hother
    rw [hwritten, ((ha.2 more request hhears).step hp).of_ended hended,
      Gateway.reason_of_passage hp, hreason, hone]

/-- **No gentle turn loses an answer.** -/
theorem attends_step (hb : h.Balanced b) (ha : h.Attends heard b) (hp : Passage h t result)
    (ht : t.Gentle) (hreceivers : h.receivers.dialFailed = none) :
    result.1.Attends (heard ++ t.arrivals) (b.then t result.2) := by
  cases hp with
  | peer hleg => exact attends_peer ha hleg ht
  | unresolved hstage | refused hstage | unnamed hstage =>
    simp only [Balanced, Attends, hstage] at hb ha
    exact attends_dialFailed ha.1 (ha.2.trans (List.append_nil heard).symm)
      (hb.2.2.then silent_nil _) hreceivers
  | dial hstage | covered hstage =>
    simp only [Attends, hstage] at ha
    exact ⟨ha.1, ha.2.trans (List.append_nil heard).symm⟩
  | connected hstage | shaken hstage => trivial
  | @uncovered inbound transport guard delivery fault hstage =>
    simp only [Balanced, Attends, hstage] at hb ha
    have hcover : Silent [.cover guard] := ⟨fun _ => rfl, rfl, rfl⟩
    exact attends_dialFailed ha.1 (ha.2.trans (List.append_nil heard).symm)
      (hb.2.2.then (hcover.append (silent_discarded delivery.leg)) _) hreceivers
  | unshaken hstage =>
    simp only [Balanced, Attends, hstage] at hb ha
    exact attends_dialFailed ha.1 (ha.2.trans (List.append_nil heard).symm)
      (hb.2.2.then (silent_discarded _) _) hreceivers
  | cancelDial | cancelHandshake | cancelFailed => exact absurd rfl ht.cancel
  | @relay relay act own step hstage hown hstep =>
    simp only [Balanced, hstage] at hb
    rcases h.withRelay_cases step.1 step.2 with ⟨-, heq⟩ | ⟨ending, -, heq⟩
    · rw [heq]
      trivial
    · rw [heq]
      refine attends_finish ?_
      rw [(silent_conclude ending).then_append]
      simp [Ledger.then, hb.2.1, dialFaults_ofRelay]
  | gateway hstage hown hstep =>
    rw [arrivals_of_onGateway hown, List.append_nil]
    exact attends_withGateway hb ha ht hstage hown hstep

/-- Nobody has told of a fault to a handler that is accepted, and its leg is as
it came. -/
theorem attends_accepted {conn : Inbound} {leg : Leg} {receivers : Receivers}
    (hleg : leg.Writable) :
    (accepted conn leg receivers).Attends (heardBy (accepted conn leg receivers) [])
      (.of (accepted conn leg receivers) [] []) := by
  unfold accepted
  split
  · exact ⟨hleg, (List.append_nil _).symm⟩
  · trivial

theorem heardBy_concat (start : Handler) (taken : List Turn) (t : Turn) :
    heardBy start (taken ++ [t]) = heardBy start taken ++ t.arrivals := by
  simp [heardBy, List.flatMap_append]

theorem attends_run {conn : Inbound} {leg : Leg} {receivers : Receivers} (hleg : leg.Writable)
    (hreceivers : receivers.dialFailed = none) (htaken : ∀ t ∈ taken, t.Gentle)
    (h' : (life platform url).run (accepted conn leg receivers) taken = some (h, events)) :
    h.Attends (heardBy (accepted conn leg receivers) taken)
      (.of (accepted conn leg receivers) taken events) := by
  refine Machine.run_induction_of (Q := Turn.Gentle) (P := fun k taken events =>
    k.Attends (heardBy (accepted conn leg receivers) taken)
      (.of (accepted conn leg receivers) taken events)) (attends_accepted hleg) ?_ h' htaken
  intro k next t taken events more hrun ha hstep ht
  have hsame : k.receivers.dialFailed = none := by
    rw [(same_of_run hrun).2]
    exact hreceivers
  rw [heardBy_concat, Ledger.of_concat]
  exact attends_step (balanced_run hrun) ha (passage_of_turn hstep) ht hsame

/-! ## The answer -/

/-- The run of a responder is one of its handler, up to its end. -/
theorem run_answers {gateway last : Gateway} {own : List Gateway.Event} {n : Nat}
    (hstage : h.stage = .answering gateway outbound)
    (hopen : ∀ ending, gateway.stage ≠ .ended ending)
    (hrun : Gateway.machine.run gateway (List.replicate n .advance) = some (last, own))
    (hended : ∃ ending, last.stage = .ended ending) :
    ∃ next events, machine.run h (List.replicate n .answer) = some (next, events) ∧
      next.isEnded = true ∧ writtenOn .inbound events = Gateway.written own := by
  induction n generalizing h gateway own with
  | zero =>
    obtain ⟨rfl, -⟩ : gateway = last ∧ [] = own := by simpa using hrun
    obtain ⟨ending, hend⟩ := hended
    exact absurd hend (hopen ending)
  | succ n ih =>
    rw [List.replicate_succ] at hrun ⊢
    obtain ⟨mid, first, rest, hstep, hrest, rfl⟩ := Machine.run_cons_iff.mp hrun
    have hown : machine.step h .answer = some (h.withGateway outbound (mid, first)) := by
      have hadvance : gateway.step .advance = some (mid, first) := hstep
      simp [machine, step, hstage, hadvance]
    rcases h.withGateway_cases outbound mid first with ⟨hgoes, heq⟩ | ⟨ending, hend, heq⟩
    · rw [heq] at hown
      obtain ⟨next, events, hnext, hdone, hwritten⟩ :=
        ih (h := { h with stage := .answering mid outbound }) rfl hgoes hrest
      refine ⟨next, _, Machine.run_cons_iff.mpr ⟨_, _, _, hown, hnext, rfl⟩, hdone, ?_⟩
      rw [writtenOn_append, writtenOn_ofGateway, if_pos rfl, hwritten, Gateway.written_append]
    · -- with this step the responder has ended, so it was the last
      obtain ⟨rfl, rfl⟩ : n = 0 ∧ rest = [] := by
        cases n with
        | zero =>
          obtain ⟨-, rfl⟩ : mid = last ∧ [] = rest := by simpa using hrest
          exact ⟨rfl, rfl⟩
        | succ n =>
          rw [List.replicate_succ] at hrest
          obtain ⟨_, _, _, hmore, -⟩ := Machine.run_cons_iff.mp hrest
          simp [Gateway.machine, Gateway.step, Gateway.advance, hend] at hmore
      rw [heq] at hown
      refine ⟨_, (h.finish mid.leg outbound ending.void (first.map (ofGateway mid.leg.cover))).2,
        Machine.run_singleton_iff.mpr hown, rfl, ?_⟩
      rw [writtenOn_finish, writtenOn_ofGateway, if_pos rfl, List.append_nil]

/-- The leg of a client takes writes again. -/
theorem step_resume {leg : Leg} (hleg : h.leg? .inbound = some leg) :
    machine.step h (.peer .inbound .resume) =
      some (h.withLeg .inbound { leg with stalled := false }, []) := by
  simp [machine, step, peer, hleg, Leg.apply]

/-- **The answer is written**, once the leg of the client takes writes again and
the responder goes on. If it has been written already, nothing more is. -/
theorem answered_of_attends {fault : Fault} {request : Http.Request} (hb : h.Balanced b)
    (ha : h.Attends heard b) (hfault : fault ∈ b.faults) (hdial : isDialFault fault = true)
    (hanswers : Gateway.answers h.conn.protocol = true)
    (hhears : Gateway.Hears [] heard request) :
    ∃ n next events,
      machine.run h (.peer .inbound .resume :: List.replicate n .answer) = some (next, events) ∧
      next.isEnded = true ∧
      b.written .inbound ++ writtenOn .inbound events =
        Gateway.response (Gateway.body fault.message) request := by
  unfold Balanced at hb
  unfold Attends at ha
  cases hstage : h.stage with
  | starting | dialing | handshaking =>
    simp only [hstage] at hb
    rw [hb.2.2.faults] at hfault
    cases hfault
  | relaying relay =>
    simp only [hstage] at hb
    rw [hb.2.1] at hfault
    cases hfault
  | dropped inbound =>
    simp only [hstage] at hb
    rw [hb.faults] at hfault
    cases hfault
  | ended inbound outbound ending =>
    simp only [hstage] at ha
    have hresume := step_resume (show h.leg? .inbound = some inbound by simp [leg?, hstage])
    refine ⟨0, _, _, Machine.run_singleton_iff.mpr hresume, by simp [withLeg, hstage, isEnded], ?_⟩
    have hdone := ha fault hfault hdial hanswers [] request (by rwa [List.append_nil])
    exact (List.append_nil _).trans hdone
  | answering gateway outbound =>
    simp only [hstage] at hb ha
    obtain ⟨-, -, -, -, only, hone, -, -, hreason⟩ := hb
    obtain rfl : fault = only := by simpa [hone] using hfault
    have hresume := step_resume (show h.leg? .inbound = some gateway.leg by simp [leg?, hstage])
    -- the resumed leg has all that was heard, and takes what is written
    let flowing : Leg := { gateway.leg with stalled := false }
    have hgives :
        Gateway.Gives { gateway with leg := flowing } [] request (b.written .inbound) := by
      have harrivals : flowing.arrivals = gateway.leg.arrivals ++ [] := (List.append_nil _).symm
      rcases ha.2 [] request (by rwa [List.append_nil]) with ⟨hnone, hleg, hexpects⟩ | hdone
      · exact Or.inl ⟨hnone, ⟨hleg.isOpen, hleg.noFault⟩, hexpects.arrive harrivals⟩
      · exact Or.inr hdone
    obtain ⟨data, ⟨n, last, own, hrun, hended, hwritten⟩, hanswer⟩ := hgives.answers rfl
    have hnow : (h.withLeg .inbound flowing).stage =
        .answering { gateway with leg := flowing } outbound := by
      simp [withLeg, hstage]
    obtain ⟨next, events, hnext, hdone, hsame⟩ := run_answers hnow ha.1 hrun hended
    refine ⟨n, next, events, Machine.run_cons_iff.mpr ⟨_, _, _, hresume, hnext, rfl⟩, hdone, ?_⟩
    rw [← hreason, ← hanswer, ← hwritten, ← hsame]

end Handler

namespace Forwarder

open Handler (Ledger Transparent Turn dialFaults heardBy isDialFault writtenOn)

variable {url sourceId : String} {platform : Platform} {cache : Trust.Cache Trust.Context}
variable {f : Forwarder} {acts : List Act} {events : List Event} {i : Nat}

/-! ## Forwarding -/

theorem step_handler {k next : Handler} {own : Handler.Act} {more : List Handler.Event}
    (hget : f.handlers[i]? = some k) (hown : own ≠ .cancel)
    (hstep : k.step own = some (next, more)) :
    f.step (.handler i own) = some (f.withHandler i k (next, more)) := by
  cases own with
  | cancel => exact absurd rfl hown
  | peer | delivered | handshaken | advance | abandon | closeLegs | answer =>
    simp [step, handle, hget, hstep]

/-- **What a handler can do, it can do in the forwarder.** -/
theorem run_handler {k next : Handler} {own : List Handler.Act} {more : List Handler.Event}
    (hget : f.handlers[i]? = some k) (hown : .cancel ∉ own)
    (hrun : Handler.machine.run k own = some (next, more)) :
    ∃ f', machine.run f (own.map (.handler i)) = some (f', more.map (.handler i)) ∧
      f'.handlers[i]? = some next := by
  induction own generalizing f k more with
  | nil =>
    obtain ⟨rfl, rfl⟩ : k = next ∧ [] = more := by simpa using hrun
    exact ⟨f, rfl, hget⟩
  | cons a own ih =>
    obtain ⟨mid, first, rest, hstep, hrest, rfl⟩ := Machine.run_cons_iff.mp hrun
    rw [List.mem_cons, not_or] at hown
    have hi := (List.getElem?_eq_some_iff.mp hget).1
    obtain ⟨f', hf', hget'⟩ := ih (f := (f.withHandler i k (mid, first)).1)
      (by simp [withHandler, hi]) hown.2 hrest
    refine ⟨f', ?_, hget'⟩
    rw [List.map_cons, List.map_append]
    exact Machine.run_cons_iff.mpr
      ⟨_, _, _, step_handler hget (Ne.symm hown.1) hstep, hf', rfl⟩

/-- What is entered of the turns of a handler does not depend on the trust
cache. -/
theorem ledger_bare (start : Handler) {taken : List Turn} (more : List Handler.Event)
    (htaken : taken.map Turn.bare = turns i acts) :
    Ledger.of start taken more = .of start (turns i acts) more ∧
      heardBy start taken = heardBy start (turns i acts) := by
  have hsent (side : Side) (t : Turn) : t.bare.sent side = t.sent side := by
    cases t <;> rfl
  have harrivals (t : Turn) : t.bare.arrivals = t.arrivals := by
    cases t <;> rfl
  rw [← htaken]
  simp [Ledger.of, heardBy, List.flatMap_map, hsent, harrivals]

theorem gentle_of_bare {t : Turn} (ht : t.bare.Gentle) : t.Gentle := by
  cases t with
  | begin cache load => exact ⟨nofun, nofun, fun _ => nofun⟩
  | act own => exact ht

/-- **Forwarding is transparent.** In every run, the ledger of every connection
is. And if the dial of a connection has failed with a fault that its client may
be told, nobody who was told of it failed, the handler was not cancelled, and
its client can be written to and has sent a request that is heard, then the
responder only has to go on, once writes are not stalled: the one response that
tells of the fault is written, and the handler ends. -/
theorem forwarding_transparent
    (h : machine.run (new url sourceId platform cache) acts = some (f, events))
    {start : Handler} (hstart : (arrivals acts)[i]? = some start) :
    Transparent start.conn.protocol (.of start (turns i acts) (eventsOf i events)) ∧
      ∀ fault request, fault ∈ dialFaults (eventsOf i events) → isDialFault fault = true →
        Gateway.answers start.conn.protocol = true → start.receivers.dialFailed = none →
        (∀ leg, start.leg? .inbound = some leg → leg.Writable) →
        (∀ t ∈ turns i acts, t.Gentle) →
        Gateway.Hears [] (heardBy start (turns i acts)) request →
        ∃ n f' more,
          machine.run f ((.peer .inbound .resume :: List.replicate n .answer).map (.handler i)) =
            some (f', more) ∧
          (∃ k, f'.handlers[i]? = some k ∧ k.isEnded = true) ∧
          writtenOn .inbound (eventsOf i (events ++ more)) =
            Gateway.response (Gateway.body fault.message) request := by
  obtain ⟨conn, leg, receivers, -, rfl⟩ := mem_arrivals (List.mem_of_getElem? hstart)
  obtain ⟨k, taken, hget, htaken, hrun⟩ := lane_of_run h hstart
  have hbalanced := Handler.balanced_run hrun
  have hconn := (Handler.same_of_run hrun).1
  obtain ⟨hledger, hheard⟩ :=
    ledger_bare (.accepted conn leg receivers) (eventsOf i events) htaken
  refine ⟨?_, fun fault request hfault hdial hanswers hreceivers hleg hgentle hhears => ?_⟩
  · rw [← hledger, ← hconn]
    exact hbalanced.transparent
  · rw [← hheard] at hhears
    have htakenGentle (t : Turn) (ht : t ∈ taken) : t.Gentle :=
      gentle_of_bare (hgentle _ (htaken ▸ List.mem_map_of_mem ht))
    have hattends := Handler.attends_run
      (hleg leg (Handler.leg?_accepted conn leg receivers).1) hreceivers htakenGentle hrun
    obtain ⟨n, next, own, hnext, hended, hanswer⟩ :=
      Handler.answered_of_attends hbalanced hattends hfault hdial (hconn ▸ hanswers) hhears
    obtain ⟨f', hf', hget'⟩ := run_handler hget (by simp) hnext
    refine ⟨n, f', _, hf', ⟨next, hget', hended⟩, ?_⟩
    rw [eventsOf_append, eventsOf_map, if_pos rfl, Handler.writtenOn_append]
    exact hanswer

/-- The head of a request, in two pieces. -/
def pieces : List Bytes := [Http.asciiBytes "GET / HT", Http.asciiBytes "TP/1.0\r\n\r\n"]

/-- A client of an unreachable destination sends a request. -/
def unreachable : List Act :=
  [.supplied (.connection { protocol := "http" } {}) {}, .begin 0 (.error .streamClosed)] ++
    pieces.map (fun piece => .handler 0 (.peer .inbound (.deliver piece))) ++
    [.handler 0 (.delivered (.error (.ofText .brokenResource "gone")))]

theorem unreachable_answered :
    ∃ f events fault request n f' more,
      machine.run (new "tcp://a:1" "s" .posix {}) unreachable = some (f, events) ∧
      fault ∈ dialFaults (eventsOf 0 events) ∧
      Transparent "http" (.of (.accepted { protocol := "http" } {} {}) (turns 0 unreachable)
        (eventsOf 0 events)) ∧
      machine.run f ((.peer .inbound .resume :: List.replicate n .answer).map (.handler 0)) =
        some (f', more) ∧
      writtenOn .inbound (eventsOf 0 (events ++ more)) =
        Gateway.response (Gateway.body fault.message) request := by
  obtain ⟨⟨f, events⟩, h⟩ := Option.isSome_iff_exists.mp
    (show (machine.run (new "tcp://a:1" "s" .posix {}) unreachable).isSome = true by
      decide +kernel)
  have hseen : (machine.run (new "tcp://a:1" "s" .posix {}) unreachable).all (fun r =>
      (dialFaults (eventsOf 0 r.2)).any isDialFault) = true := by
    decide +kernel
  rw [h, Option.all_some, List.any_eq_true] at hseen
  obtain ⟨fault, hfault, hdial⟩ := hseen
  have hrequest : Http.examine pieces.flatten false =
      .request { method := Http.asciiBytes "GET", target := Http.asciiBytes "/",
                 version := Http.asciiBytes "1.0", headers := [] } := by
    decide +kernel
  have hhears : Gateway.Hears [] (pieces.map .data ++ []) _ :=
    Gateway.hears_of_head hrequest (by decide) (by decide) List.prefix_rfl
  have hgentle : ∀ t ∈ turns 0 unreachable, t.Gentle := by
    simp only [turns, unreachable, pieces, List.map_cons, List.map_nil, List.cons_append,
      List.nil_append, List.filterMap_cons, Act.turn?, if_true, List.filterMap_nil,
      List.forall_mem_cons]
    refine ⟨?_, ?_, ?_, ?_, by simp⟩ <;> constructor <;> simp
  obtain ⟨htransparent, hanswered⟩ := forwarding_transparent h (i := 0) rfl
  obtain ⟨n, f', more, hrun, -, hwritten⟩ := hanswered fault _ hfault hdial (by decide) rfl
    (fun leg hleg => Option.some.inj hleg ▸ ⟨rfl, rfl⟩) hgentle hhears
  exact ⟨f, events, fault, _, n, f', more, h, hfault, htransparent, hrun, hwritten⟩

end Forwarder

end TunnelRelay
