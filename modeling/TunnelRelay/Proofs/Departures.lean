import TunnelRelay.Proofs.Isolation
import TunnelRelay.Proofs.Sealing
/-!
# How a handler departs

A handler keeps its inbound leg until it ends, and every way to its end closes
that leg (`Departs`). So a leg that can be closed is closed when its handler has
ended. If its close does not fail, what leaves the handler is at most a group of
faults beside which it was cancelled (`Discreet`): a relay was cancelled, and a
read or a write of it failed with a fault that is none of reading or writing.

A handler that is cancelled comes to its end by itself. Whatever it waits for, a
few actions of its own are enough, and none of them waits for somebody else
(`Stops`). They bring no fault with them: a handler that holds none on its way to
its end lets none out (`Whole`).
-/

namespace TunnelRelay

/-- **A relay that is cancelled tells its pumps to stop.** -/
theorem Relay.stopping_of_passage {r : Relay} {act : Relay.Act}
    {result : Relay × List Relay.Event} (hp : Relay.Passage r act result)
    (h : r.cancelled = true → r.stopping = true) :
    result.1.cancelled = true → result.1.stopping = true := by
  cases hp with
  | peer | read | write => exact h
  | last | unread | unsent | abandon | cancel => exact fun _ => rfl
  | close =>
    unfold closeLegs
    split <;> exact h

/-- Only reads and writes give faults. -/
theorem Relay.crashes_of_passage {r : Relay} {act : Relay.Act} {result : Relay × List Relay.Event}
    (hp : Relay.Passage r act result) (hact : ∀ side, act ≠ .advance side) :
    result.1.crashes = r.crashes := by
  cases hp with
  | peer | abandon | cancel => rfl
  | last | read | unread | write | unsent => exact absurd rfl (hact _)
  | close =>
    unfold closeLegs
    split <;> rfl

/-- A relay that has met none but those of reading and writing does not end by a group. -/
theorem Relay.endingOf_ne_group {r : Relay} (h : r.crashes = []) (faults : Fault.Group) :
    r.endingOf ≠ .group faults := by
  unfold Relay.endingOf
  rw [h]
  split
  · exact nofun
  · split <;> exact nofun
  · split <;> exact nofun
  · rename_i hcrashes hfaults
    cases hf : r.faults with
    | nil => exact absurd hf (hcrashes rfl)
    | cons fault more => exact absurd hf (hfaults fault more rfl)

namespace Handler

variable {h k : Handler} {inbound leg : Leg} {outbound : Option Leg} {ending : Ending Unit}
variable {events : List Event} {platform : Platform} {url : String} {t : Turn}
variable {taken : List Turn} {result : Handler × List Event}

/-! ## What leaves a handler -/

theorem escaped?_eq_some_iff {fault : Fault} : h.escaped? = some fault ↔
    h.ending? = some (.raised fault) ∨
      ∃ faults, h.ending? = some (.group faults) ∧ faults.asFault = fault := by
  unfold escaped? ending?
  cases h.stage with
  | ended inbound outbound ending => cases ending <;> simp
  | starting | dialing | handshaking | relaying | answering | dropped => simp

theorem escaped?_congr (hsame : k.ending? = h.ending?) : k.escaped? = h.escaped? := by
  refine Option.ext fun fault => ?_
  rw [escaped?_eq_some_iff, escaped?_eq_some_iff, hsame]

/-- A handler that has not ended lets nothing out. -/
theorem ending?_of_open (hopen : h.isEnded = false) : h.ending? = none := by
  unfold ending?
  split
  · rename_i hstage
    simp [isEnded, hstage] at hopen
  · rfl

theorem escaped?_of_open (hopen : h.isEnded = false) : h.escaped? = none := by
  refine Option.eq_none_iff_forall_ne_some.mpr fun fault hescaped => ?_
  rw [escaped?_eq_some_iff, ending?_of_open hopen] at hescaped
  simp at hescaped

/-! ## The inbound leg of a handler that ends -/

/-- **How a turn treats the inbound leg.** Either it is kept, and the handler has
ended if and only if it had before, or the turn ends the handler and closes the
leg. -/
inductive Departs (h : Handler) (leg : Leg) (result : Handler × List Event) : Prop
  | stays {next : Leg} : result.1.leg? .inbound = some next → next.ClosesLike leg →
      result.1.isEnded = h.isEnded → result.1.ending? = h.ending? → Departs h leg result
  | ends {inbound : Leg} {outbound : Option Leg} {ending : Ending Unit} {events : List Event} :
      inbound.ClosesLike leg → result = h.finish inbound outbound ending events →
      Departs h leg result

theorem departs_dialFailed {fault : Fault} (hopen : h.isEnded = false) :
    Departs h inbound (h.dialFailed inbound outbound fault events) := by
  rcases h.dialFailed_cases inbound outbound fault events with
    ⟨-, -, -, heq⟩ | ⟨-, ending, -, heq⟩
  · rw [heq]
    exact .stays rfl (.refl _) hopen.symm (ending?_of_open hopen).symm
  · rw [heq]
    exact .ends (.refl _) rfl

/-- Something that happens to a leg from outside ends no handler. -/
theorem ending_withLeg (h : Handler) (side : Side) (leg : Leg) :
    (h.withLeg side leg).isEnded = h.isEnded ∧ (h.withLeg side leg).ending? = h.ending? := by
  cases hstage : h.stage with
  | relaying => simp [withLeg, isEnded, ending?, hstage]
  | starting | dialing | handshaking | dropped =>
    cases side <;> simp [withLeg, isEnded, ending?, hstage]
  | answering gateway outbound | ended inbound outbound ending =>
    cases side <;> cases outbound <;> simp [withLeg, isEnded, ending?, hstage]

theorem departs_peer {side : Side} {own : Leg} (hleg : h.leg? .inbound = some leg)
    (hown : h.leg? side = some own) (act : Leg.Act) (events : List Event) :
    Departs h leg (h.withLeg side (own.apply act).1, events) := by
  obtain ⟨hended, hending⟩ := h.ending_withLeg side (own.apply act).1
  obtain ⟨hsame, hother⟩ := leg?_withLeg hown (own.apply act).1
  cases side with
  | inbound =>
    obtain rfl : leg = own := Option.some.inj (hleg.symm.trans hown)
    exact .stays hsame (Leg.closesLike_apply _ _) hended hending
  | outbound => exact .stays (hother.trans hleg) (.refl _) hended hending

/-- **Every turn keeps the inbound leg, or closes it and ends.** -/
theorem departs_of_passage (hleg : h.leg? .inbound = some leg) (hp : Passage h t result) :
    Departs h leg result := by
  cases hp with
  | peer hown => exact departs_peer hleg hown _ _
  | unresolved hstage | refused hstage | unnamed hstage | uncovered hstage | unshaken hstage
  | cancelFailed hstage =>
    simp only [leg?, hstage, Option.some.injEq] at hleg
    subst hleg
    exact departs_dialFailed (by simp [isEnded, hstage])
  | dial hstage | covered hstage | connected hstage | shaken hstage =>
    simp only [leg?, hstage, Option.some.injEq] at hleg
    subst hleg
    exact .stays rfl (.refl _) (by simp [isEnded, hstage, established])
      (by simp [ending?, hstage, established])
  | cancelDial hstage | cancelHandshake hstage =>
    simp only [leg?, hstage, Option.some.injEq] at hleg
    subst hleg
    exact .ends (.refl _) rfl
  | @relay relay act own result hstage hown hstep =>
    obtain rfl : relay.legs.inbound = leg := by simpa [leg?, hstage, Both.get] using hleg
    have hlike := (Relay.frame_step (Relay.passage_of_step hstep)).1 .inbound
    rcases h.withRelay_cases result.1 result.2 with ⟨hgoes, heq⟩ | ⟨ending, -, heq⟩
    · rw [heq]
      exact .stays rfl hlike (by simp [isEnded, hstage]) (by simp [ending?, hstage])
    · rw [heq]
      exact .ends hlike rfl
  | @gateway gateway outbound act own result hstage hown hstep =>
    obtain rfl : gateway.leg = leg := by simpa [leg?, hstage] using hleg
    have hlike :=
      Gateway.closesLike_of_passage (Gateway.passage_of_step (Act.onGateway_ne_peer hown) hstep)
    rcases h.withGateway_cases outbound result.1 result.2 with ⟨hgoes, heq⟩ | ⟨ending, -, heq⟩
    · rw [heq]
      exact .stays rfl hlike (by simp [isEnded, hstage]) (by simp [ending?, hstage])
    · rw [heq]
      exact .ends hlike rfl

/-- A handler that has ended stays as it is. -/
theorem ending?_of_ended (hended : h.isEnded = true) (hp : Passage h t result) :
    result.1.ending? = h.ending? := by
  cases hp with
  | peer => exact (h.ending_withLeg _ _).2
  | unresolved hstage | dial hstage | refused hstage | unnamed hstage | connected hstage
  | covered hstage | uncovered hstage | shaken hstage | unshaken hstage | cancelDial hstage
  | cancelHandshake hstage | cancelFailed hstage | relay hstage | gateway hstage =>
    simp [isEnded, hstage] at hended

/-- **A handler that is discreet**: the close of its inbound leg does not fail, and
what has left it, if anything has, is a group of faults beside which it was
cancelled. -/
structure Discreet (h : Handler) : Prop where
  closes : ∃ leg, h.leg? .inbound = some leg ∧ leg.closeFault = none
  ends : h.ending? = none ∨ h.ending? = some (.returned ()) ∨ h.ending? = some .cancelled ∨
    ∃ faults, h.ending? = some (.group faults) ∧ faults.cancelled = true

theorem Discreet.escaped {fault : Fault} (hg : h.Discreet) (hescaped : h.escaped? = some fault) :
    ∃ faults, h.ending? = some (.group faults) ∧ faults.cancelled = true ∧
      fault = faults.asFault := by
  rw [escaped?_eq_some_iff] at hescaped
  rcases hg.ends with hend | hend | hend | ⟨faults, hend, hcancelled⟩ <;>
    rw [hend] at hescaped
  · simp at hescaped
  · simp at hescaped
  · simp at hescaped
  · exact ⟨faults, hend, hcancelled, by simpa [eq_comm] using hescaped⟩

/-- What is left of an ending once its faults have been dealt with. -/
theorem contained_cases (ending : Ending Unit) :
    ending.contained = .returned () ∨ ending.contained = .cancelled ∨
      ∃ faults, ending = .group faults ∧ faults.cancelled = true ∧
        ending.contained = .group faults := by
  cases ending with
  | returned | raised => exact Or.inl rfl
  | cancelled => exact Or.inr (Or.inl rfl)
  | group faults =>
    cases hcancelled : faults.cancelled with
    | false => exact Or.inl (by simp [Ending.contained, Ending.isCancelled, hcancelled])
    | true =>
      exact Or.inr (Or.inr ⟨faults, rfl, hcancelled, by
        simp [Ending.contained, Ending.isCancelled, hcancelled]⟩)

theorem ending?_finish (hnone : inbound.closeFault? = none) :
    (h.finish inbound outbound ending events).1.ending? = some ending.contained := by
  simp [finish, ending?, hnone]

/-- Every turn keeps a handler so, also a cancellation. -/
theorem discreet_step (hg : h.Discreet) (hp : Passage h t result) : result.1.Discreet := by
  obtain ⟨leg, hleg, hnofault⟩ := hg.closes
  cases departs_of_passage hleg hp with
  | stays hnext hlike _ hending =>
    exact ⟨⟨_, hnext, hlike.fault.trans hnofault⟩, hending ▸ hg.ends⟩
  | @ends inbound outbound ending events hlike heq =>
    have hnone := Leg.closeFault?_eq_none (hlike.fault.trans hnofault)
    have hend : (h.finish inbound outbound ending events).1.ending? = some ending.contained :=
      ending?_finish hnone
    rw [heq]
    refine ⟨⟨inbound.closeNow, rfl, ?_⟩, ?_⟩
    · exact (Leg.closesLike_closeNow _).fault.trans (hlike.fault.trans hnofault)
    · rw [hend]
      rcases contained_cases ending with hreturned | hcancelled | ⟨faults, -, hgroup, heq⟩
      · exact Or.inr (Or.inl (congrArg some hreturned))
      · exact Or.inr (Or.inr (Or.inl (congrArg some hcancelled)))
      · exact Or.inr (Or.inr (Or.inr ⟨faults, congrArg some heq, hgroup⟩))

theorem discreet_accepted {conn : Inbound} {leg : Leg} {receivers : Receivers}
    (hleg : leg.closeFault = none) : (accepted conn leg receivers).Discreet := by
  refine ⟨⟨leg, (leg?_accepted conn leg receivers).1, hleg⟩, Or.inl ?_⟩
  unfold accepted
  split <;> rfl

/-- **Faults leave a handler only if it is cancelled.** -/
theorem contained_run {conn : Inbound} {leg : Leg} {receivers : Receivers}
    (h' : (life platform url).run (accepted conn leg receivers) taken = some (h, events))
    (haccepted : receivers.accepted = none) (hleg : leg.closeFault = none)
    (htaken : ∀ t ∈ taken, t ≠ .act .cancel) : h.Contained := by
  refine Machine.run_induction_of (Q := fun t => t ≠ .act .cancel)
    (P := fun k _ _ => k.Contained) ?_ ?_ h' htaken
  · simpa [accepted, Contained, haccepted] using hleg
  · intro k next t taken events more _ hk hstep ht
    exact contained_step hk (passage_of_turn hstep) ht

/-- **A handler that discharges its duty**: its inbound leg can be closed, and is
closed if the handler has ended. -/
structure Discharged (h : Handler) : Prop where
  closes : ∃ leg, h.leg? .inbound = some leg ∧ leg.closeHeld = false ∧
    (h.isEnded = true → leg.closed = true)

theorem discharged_step (hd : h.Discharged) (hp : Passage h t result) :
    result.1.Discharged := by
  obtain ⟨leg, hleg, hheld, hclosed⟩ := hd.closes
  cases departs_of_passage hleg hp with
  | @stays next hnext hlike hended _ =>
    refine ⟨next, hnext, hlike.held.trans hheld, fun hnow => ?_⟩
    -- a leg that was closed before is so still
    obtain ⟨last, hlast, htrace⟩ := traces_step hleg hp
    obtain rfl : next = last := Option.some.inj (hnext.symm.trans hlast)
    rw [hclosed (hended ▸ hnow)] at htrace
    exact htrace.eq_nil.2
  | @ends inbound outbound ending events hlike heq =>
    have hfree : inbound.closeHeld = false := hlike.held.trans hheld
    rw [heq]
    exact ⟨inbound.closeNow, rfl, (Leg.closesLike_closeNow _).held.trans hfree,
      fun _ => by simp [Leg.closeNow, hfree]⟩

/-- **A handler closes its inbound leg before it ends**, however it does. -/
theorem discharged_run {conn : Inbound} {leg : Leg} {receivers : Receivers}
    (h' : (life platform url).run (accepted conn leg receivers) taken = some (h, events))
    (haccepted : receivers.accepted = none) (hheld : leg.closeHeld = false) : h.Discharged := by
  refine Machine.run_induction (P := fun k _ _ => k.Discharged) ?_ ?_ h'
  · refine ⟨leg, (leg?_accepted conn leg receivers).1, hheld, fun hended => ?_⟩
    simp [accepted, haccepted, isEnded] at hended
  · intro k next t taken events more _ hk hstep
    exact discharged_step hk (passage_of_turn hstep)

/-! ## Coming to an end -/

/-- **A handler that is at work.** Its relay or its responder has not ended, and
a relay that is cancelled stops its pumps. -/
def Engaged (h : Handler) : Prop :=
  match h.stage with
  | .relaying relay => relay.ending = none ∧ (relay.cancelled = true → relay.stopping = true)
  | .answering gateway _ => ∀ ending, gateway.stage ≠ .ended ending
  | .starting _ | .dialing _ _ _ | .handshaking _ _ _ _ | .ended _ _ _ => True
  | .dropped _ => False

theorem engaged_dialFailed {fault : Fault} :
    (h.dialFailed inbound outbound fault events).1.Engaged := by
  rcases h.dialFailed_cases inbound outbound fault events with
    ⟨-, -, -, heq⟩ | ⟨-, ending, -, heq⟩
  · rw [heq]
    exact fun _ => nofun
  · rw [heq]
    trivial

theorem engaged_withLeg (he : h.Engaged) (side : Side) (leg : Leg) :
    (h.withLeg side leg).Engaged := by
  unfold Engaged at he
  cases hstage : h.stage with
  | relaying => simpa [withLeg, hstage, Engaged] using he
  | starting | dialing | handshaking | dropped => cases side <;> simp_all [withLeg, Engaged]
  | answering gateway outbound | ended inbound outbound ending =>
    cases side <;> cases outbound <;> simp_all [withLeg, Engaged]

theorem engaged_step (he : h.Engaged) (hp : Passage h t result) : result.1.Engaged := by
  cases hp with
  | peer hleg => exact engaged_withLeg he _ _
  | unresolved | refused | unnamed | uncovered | unshaken | cancelFailed => exact engaged_dialFailed
  | dial | covered | cancelDial | cancelHandshake => trivial
  | connected | shaken => exact ⟨rfl, nofun⟩
  | @relay relay act own result hstage hown hstep =>
    simp only [Engaged, hstage] at he
    rcases h.withRelay_cases result.1 result.2 with ⟨hgoes, heq⟩ | ⟨ending, -, heq⟩
    · rw [heq]
      exact ⟨hgoes, Relay.stopping_of_passage (Relay.passage_of_step hstep) he.2⟩
    · rw [heq]
      trivial
  | @gateway gateway outbound act own result hstage hown hstep =>
    rcases h.withGateway_cases outbound result.1 result.2 with ⟨hgoes, heq⟩ | ⟨ending, -, heq⟩
    · rw [heq]
      exact hgoes
    · rw [heq]
      trivial

theorem engaged_accepted {conn : Inbound} {leg : Leg} {receivers : Receivers}
    (haccepted : receivers.accepted = none) : (accepted conn leg receivers).Engaged := by
  simp [accepted, haccepted, Engaged]

/-- Whether an action brings a handler that is cancelled to its end; none of
these waits for somebody else. -/
def Act.isStop : Act → Bool
  | .cancel | .abandon _ | .closeLegs => true
  | .peer _ _ | .delivered _ | .handshaken _ | .advance _ | .answer => false

/-- **A handler that stops**: some actions of its own end it. -/
def Stops (h : Handler) : Prop :=
  ∃ acts k events, (∀ act ∈ acts, act.isStop = true) ∧ machine.run h acts = some (k, events) ∧
    k.isEnded = true

theorem stops_of_ended (hended : h.isEnded = true) : h.Stops := ⟨[], h, [], nofun, rfl, hended⟩

/-- One more action before. -/
theorem Stops.after {act : Act} (hstep : h.step act = some result) (hact : act.isStop = true)
    (hs : result.1.Stops) : h.Stops := by
  obtain ⟨acts, k, events, hacts, hrun, hended⟩ := hs
  refine ⟨act :: acts, k, result.2 ++ events, ?_, ?_, hended⟩
  · exact List.forall_mem_cons.mpr ⟨hact, hacts⟩
  · exact Machine.run_cons_iff.mpr ⟨result.1, result.2, events, hstep, hrun, rfl⟩

/-- A responder that is cancelled ends at once. -/
theorem stops_answering {gateway : Gateway} (hstage : h.stage = .answering gateway outbound)
    (hopen : ∀ ending, gateway.stage ≠ .ended ending) : h.Stops := by
  obtain ⟨next, last, hcancel, hlast⟩ := Gateway.ends_of_cancel hopen
  have hstep : h.step .cancel = some (h.withGateway outbound next) := by
    simp [step, cancel, hstage, hcancel]
  refine Stops.after hstep rfl (stops_of_ended ?_)
  rcases h.withGateway_cases outbound next.1 next.2 with ⟨hgoes, -⟩ | ⟨ending, -, heq⟩
  · exact absurd hlast (hgoes last)
  · rw [heq]
    rfl

/-- What is left when an opening is cancelled is at most a client to answer. -/
theorem stops_dialFailed {fault : Fault} :
    (h.dialFailed inbound outbound fault events).1.Stops := by
  rcases h.dialFailed_cases inbound outbound fault events with
    ⟨-, -, -, heq⟩ | ⟨-, ending, -, heq⟩
  · rw [heq]
    exact stops_answering rfl fun _ => nofun
  · rw [heq]
    exact stops_of_ended rfl

/-- A relay whose pumps have ended closes its legs. -/
theorem stops_closing {relay : Relay} (hstage : h.stage = .relaying relay)
    (hpumps : relay.pumps = ⟨.ended, .ended⟩) (hopen : relay.ending = none) : h.Stops := by
  have hclose : h.step .closeLegs = some (h.withRelay relay.closeLegs) := by
    simp [step, hstage, Relay.step, Relay.pumpsEnded, hpumps, hopen]
  refine Stops.after hclose rfl (stops_of_ended ?_)
  rcases h.withRelay_cases relay.closeLegs.1 relay.closeLegs.2 with ⟨hnone, -⟩ | ⟨ending, -, heq⟩
  · rw [(Relay.closeLegs_frame relay).1] at hnone
    cases hnone
  · rw [heq]
    rfl

/-- A pump that is told to stop does so, and then the rest of the handler. -/
theorem stops_pump {relay : Relay} (side : Side) (hstage : h.stage = .relaying relay)
    (hopen : relay.ending = none) (hstopping : relay.stopping = true)
    (hrest : ∀ next : Relay, next.ending = none → next.stopping = true →
      next.pumps = relay.pumps.set side .ended →
        ({ h with stage := .relaying next } : Handler).Stops) : h.Stops := by
  by_cases hpump : relay.pumps.get side = .ended
  · -- it has stopped already
    have hsame : relay.pumps = relay.pumps.set side .ended := by
      rw [← hpump, Both.set_get]
    have hstops := hrest relay hopen hstopping hsame
    rw [← hstage] at hstops
    exact hstops
  · have hstep : h.step (.abandon side) =
        some ({ h with stage := .relaying (relay.haltPump side) }, []) := by
      simp [step, hstage, Relay.step, hstopping, hpump, withRelay, Relay.haltPump, Relay.endPump,
        hopen]
    exact Stops.after hstep rfl (hrest (relay.haltPump side) hopen rfl rfl)

/-- A relay that stops its pumps comes to its end. -/
theorem stops_stopping {relay : Relay} (hstage : h.stage = .relaying relay)
    (hopen : relay.ending = none) (hstopping : relay.stopping = true) : h.Stops := by
  refine stops_pump .inbound hstage hopen hstopping fun next hopen hstopping hpumps => ?_
  refine stops_pump .outbound rfl hopen hstopping fun last hopen _ hlast => ?_
  exact stops_closing rfl (by rw [hlast, hpumps]; rfl) hopen

/-- **Every handler that has started stops** when it is cancelled. -/
theorem stops_of_engaged (he : h.Engaged) (hstarted : ∀ inbound, h.stage ≠ .starting inbound) :
    h.Stops := by
  unfold Engaged at he
  cases hstage : h.stage with
  | starting inbound => exact absurd hstage (hstarted inbound)
  | ended | dropped => exact stops_of_ended (by simp [isEnded, hstage])
  | dialing inbound transport guard =>
    have hstep : h.step .cancel = some (h.finish inbound none .cancelled []) := by
      simp [step, cancel, hstage]
    exact Stops.after hstep rfl (stops_of_ended rfl)
  | handshaking inbound guard peer outbound =>
    have hstep : ∃ result, h.step .cancel = some result ∧ result.1.Stops := by
      simp only [step, cancel, hstage]
      cases (Opening.cancelHandshake outbound).1 with
      | none => exact ⟨_, rfl, stops_of_ended rfl⟩
      | some fault => exact ⟨_, rfl, stops_dialFailed⟩
    obtain ⟨result, hstep, hstops⟩ := hstep
    exact Stops.after hstep rfl hstops
  | answering gateway outbound =>
    simp only [hstage] at he
    exact stops_answering hstage he
  | relaying relay =>
    simp only [hstage] at he
    obtain ⟨hopen, hstopping⟩ := he
    cases hcancelled : relay.cancelled with
    | true => exact stops_stopping hstage hopen (hstopping hcancelled)
    | false =>
      have hstep : h.step .cancel = some
          ({ h with
              stage := .relaying { relay with stopping := true, cancelled := true } }, []) := by
        simp [step, cancel, hstage, Relay.step, hopen, hcancelled, withRelay]
      exact Stops.after hstep rfl (stops_stopping rfl hopen rfl)

/-! ## Coming to an end unharmed -/

/-- A turn that starts a handler, or brings one that is cancelled to its end. -/
def Turn.isStop : Turn → Bool
  | .begin _ _ => true
  | .act own => own.isStop

/-- **A handler that is whole**: nothing has left it, and its relay has met no
fault but those of reading and writing. -/
structure Whole (h : Handler) : Prop where
  kept : h.escaped? = none
  intact : ∀ relay, h.stage = .relaying relay → relay.crashes = []

/-- A handler that has no relay, and has not ended, is so. -/
theorem whole_of_open (hopen : h.isEnded = false) (hother : ∀ relay, h.stage ≠ .relaying relay) :
    h.Whole :=
  ⟨escaped?_of_open hopen, fun relay hstage => absurd hstage (hother relay)⟩

theorem whole_finish (hnone : inbound.closeFault? = none)
    (hending : ∀ faults, ending = .group faults → faults.cancelled = false) :
    (h.finish inbound outbound ending events).1.Whole := by
  refine ⟨Option.eq_none_iff_forall_ne_some.mpr fun fault hescaped => ?_, fun relay hstage => ?_⟩
  · rw [escaped?_eq_some_iff, ending?_finish hnone] at hescaped
    rcases contained_cases ending with heq | heq | ⟨faults, hgroup, hcancelled, heq⟩
    · simp [heq] at hescaped
    · simp [heq] at hescaped
    · rw [hending faults hgroup] at hcancelled
      cases hcancelled
  · cases hstage

theorem whole_dialFailed {fault : Fault} (hnone : inbound.closeFault? = none) :
    (h.dialFailed inbound outbound fault events).1.Whole := by
  rcases h.dialFailed_cases inbound outbound fault events with
    ⟨-, -, -, heq⟩ | ⟨-, ending, hending, heq⟩
  · rw [heq]
    exact whole_of_open rfl fun relay => nofun
  · rw [heq]
    refine whole_finish hnone fun faults hgroup => ?_
    rw [hgroup] at hending
    exact hending

/-- What ends a handler after its relay is a group of faults only if that is what
ended the relay. -/
theorem group_of_conclude {ending : Ending Relay.Outcome} {faults : Fault.Group}
    (hgroup : (h.conclude ending).1 = .group faults) : ending = .group faults := by
  cases ending with
  | group own =>
    obtain rfl : own = faults := Ending.group.inj hgroup
    rfl
  | cancelled => cases hgroup
  | returned outcome =>
    simp only [conclude, Relay.join] at hgroup
    cases hreceiver : h.receivers.relayClosed <;> simp [hreceiver] at hgroup
  | raised fault =>
    simp only [conclude, Relay.join] at hgroup
    cases hkind : fault.kind with
    | relayFailure =>
      cases hreceiver : h.receivers.relayClosed <;> simp [hkind, hreceiver] at hgroup
    | _ => simp [hkind, Ending.void] at hgroup

theorem whole_withRelay {relay : Relay} {own : Relay.Act} {step : Relay × List Relay.Event}
    (hrelay : relay.crashes = []) (hopen : relay.ending = none)
    (hnone : relay.legs.inbound.closeFault = none) (hstep : relay.step own = some step)
    (hown : ∀ side, own ≠ .advance side) : (h.withRelay step).1.Whole := by
  have hp := Relay.passage_of_step hstep
  have hcrashes : step.1.crashes = [] := (Relay.crashes_of_passage hp hown).trans hrelay
  obtain ⟨hlegs, -, hending⟩ := Relay.frame_step hp
  rcases h.withRelay_cases step.1 step.2 with ⟨-, heq⟩ | ⟨ending, hended, heq⟩
  · rw [heq]
    exact ⟨rfl, fun other hstage => Stage.relaying.inj hstage ▸ hcrashes⟩
  · rw [heq]
    refine whole_finish (Leg.closeFault?_eq_none ((hlegs .inbound).fault.trans hnone))
      fun faults hgroup => ?_
    rw [group_of_conclude hgroup] at hended
    rcases hending with hsame | ⟨-, hclose⟩
    · rw [hsame, hopen] at hended
      cases hended
    · rw [hclose, (Relay.closeLegs_frame relay).1, Option.some.injEq] at hended
      exact absurd hended (Relay.endingOf_ne_group hrelay faults)

theorem whole_withGateway {gateway : Gateway} {step : Gateway × List Gateway.Event}
    (hnone : gateway.leg.closeFault = none) (hstep : gateway.step .cancel = some step) :
    (h.withGateway outbound step).1.Whole := by
  have hp := Gateway.passage_of_step (fun _ => by simp) hstep
  have hfault := (Gateway.closesLike_of_passage hp).fault.trans hnone
  rcases h.withGateway_cases outbound step.1 step.2 with ⟨-, heq⟩ | ⟨ending, hended, heq⟩
  · rw [heq]
    exact whole_of_open rfl fun relay => nofun
  · rw [heq]
    -- a responder that was cancelled ends as that, as its close does not fail
    have hcancelled : ending = .cancelled := by
      cases hp with
      | stop =>
        rw [← Gateway.Stage.ended.inj hended, Leg.closeFault?_eq_none hnone]
        rfl
      | interrupt => exact (Gateway.Stage.ended.inj hended).symm
    refine whole_finish (Leg.closeFault?_eq_none hfault) fun faults hgroup => ?_
    rw [hcancelled] at hgroup
    cases hgroup

/-- **A handler that is whole stays so** on its way to its end. -/
theorem whole_step (hg : h.Discreet) (he : h.Engaged) (hw : h.Whole) (hp : Passage h t result)
    (ht : t.isStop = true) : result.1.Whole := by
  obtain ⟨leg, hleg, hnofault⟩ := hg.closes
  cases hp with
  | peer | refused | unnamed | connected | covered | uncovered | shaken | unshaken => cases ht
  | dial => exact whole_of_open rfl fun relay hrelay => by cases hrelay
  | unresolved hstage | cancelFailed hstage =>
    simp only [leg?, hstage, Option.some.injEq] at hleg
    subst hleg
    exact whole_dialFailed (Leg.closeFault?_eq_none hnofault)
  | cancelDial hstage | cancelHandshake hstage =>
    simp only [leg?, hstage, Option.some.injEq] at hleg
    subst hleg
    refine whole_finish (Leg.closeFault?_eq_none hnofault) fun faults hgroup => ?_
    cases hgroup
  | @relay relay act own step hstage hown hstep =>
    simp only [leg?, hstage, Option.some.injEq] at hleg
    simp only [Engaged, hstage] at he
    subst hleg
    have hquiet (side : Side) : own ≠ .advance side := by
      rintro rfl
      cases act <;> simp_all [Act.onRelay, Turn.isStop, Act.isStop]
    exact whole_withRelay (hw.intact relay hstage) he.1 hnofault hstep hquiet
  | @gateway gateway outbound act own step hstage hown hstep =>
    simp only [leg?, hstage, Option.some.injEq] at hleg
    subst hleg
    obtain rfl : own = .cancel := by
      cases act <;> simp_all [Act.onGateway, Turn.isStop, Act.isStop]
    exact whole_withGateway hnofault hstep

theorem whole_accepted (conn : Inbound) (leg : Leg) (receivers : Receivers) :
    (accepted conn leg receivers).Whole := by
  unfold accepted
  split <;> exact ⟨rfl, fun relay => nofun⟩

end Handler

end TunnelRelay
