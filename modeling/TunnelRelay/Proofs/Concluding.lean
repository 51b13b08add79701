import TunnelRelay.Proofs.Following
import TunnelRelay.Proofs.Signals
/-!
# How forwarding ends

A forwarder that nothing leads astray ends as its source does, and after its
handlers. The two ways treat handlers differently. Once the source is exhausted
they are waited for, however long they take. Once it has failed they are
cancelled, and then the forwarder comes to its end by its own actions alone: the
handlers that have not started do so, every one is stopped, and it ends
(`stop_all`): by the fault of its source, unless relays that have met faults of their
own let these out (`source_failure_hidden`). Handlers that are whole let nothing out
on this way (`Steady.escapes_of_stopsAt`).

A handler that waits is cancelled where it waits before it does anything else.
A run of actions in any order need not keep to that; a run that does is prompt
(`Prompt`), as is all that a forwarder does by itself (`prompt_settle`). In a
prompt run no handler that is at work when its cancellation is due gets by
without one (`cancel_mem_of_prompt`).
-/

namespace TunnelRelay

/-- The connection that is supplied, if one is. -/
def Supply.conn? : Supply → Option Inbound
  | .connection conn _ => some conn
  | .exhausted | .failed _ => none

namespace Handler

variable {h k : Handler} {t : Turn} {result : Handler × List Event}

/-- A handler that has started does not start again. -/
theorem started_of_passage {cache : Trust.Cache Trust.Context}
    {load : Trust.Outcome Trust.Context} (hp : Passage h (.begin cache load) result)
    (inbound : Leg) : result.1.stage ≠ .starting inbound := by
  cases hp with
  | dial => exact nofun
  | @unresolved _ _ own fault hstage =>
    rcases h.dialFailed_cases own none fault [] with ⟨-, -, -, heq⟩ | ⟨-, ending, -, heq⟩
    · rw [heq]
      exact nofun
    · rw [heq]
      exact nofun

/-- A handler that waits where a cancellation reaches it. -/
def Waits (h : Handler) : Prop := h.cancel.isSome = true

theorem waits_relaying {relay : Relay} (hstage : h.stage = .relaying relay) :
    h.Waits ↔ relay.ending = none ∧ relay.cancelled = false := by
  simp [Waits, cancel, hstage, Relay.step]

theorem waits_answering {gateway : Gateway} {outbound : Option Leg}
    (hstage : h.stage = .answering gateway outbound) :
    h.Waits ↔ ∀ ending, gateway.stage ≠ .ended ending := by
  cases hgateway : gateway.stage <;> simp [Waits, cancel, hstage, Gateway.step, hgateway]

/-- A handler that has ended, or has not started, does not wait. -/
theorem Waits.open (hw : h.Waits) :
    h.isEnded = false ∧ ∀ inbound, h.stage ≠ .starting inbound := by
  unfold Waits cancel at hw
  cases hstage : h.stage with
  | starting | ended | dropped =>
    rw [hstage] at hw
    cases hw
  | dialing | handshaking | relaying | answering => simp [isEnded, hstage]

/-- What happens to a leg from outside does not keep a handler from waiting. -/
theorem waits_withLeg (hw : h.Waits) (side : Side) (leg : Leg) : (h.withLeg side leg).Waits := by
  cases hstage : h.stage with
  | starting inbound => exact absurd hstage (hw.open.2 inbound)
  | ended | dropped =>
    have hopen := hw.open.1
    simp [isEnded, hstage] at hopen
  | dialing | handshaking => cases side <;> simp [withLeg, hstage, Waits, cancel]
  | relaying relay =>
    rw [waits_relaying hstage] at hw
    have hnext : (h.withLeg side leg).stage =
        .relaying { relay with legs := relay.legs.set side leg } := by
      simp [withLeg, hstage]
    exact (waits_relaying hnext).mpr hw
  | answering gateway outbound =>
    -- whichever leg it is, the responder stays where it is
    rw [waits_answering hstage] at hw
    obtain ⟨gateway', outbound', hnext, hsame⟩ : ∃ gateway' outbound',
        (h.withLeg side leg).stage = .answering gateway' outbound' ∧
          gateway'.stage = gateway.stage := by
      cases side <;> cases outbound <;> simp [withLeg, hstage]
    rw [waits_answering hnext, hsame]
    exact hw

/-- **A handler that is at work waits**, unless it was cancelled before. -/
theorem waits_of_engaged {taken : List Turn} {events : List Event} (he : h.Engaged)
    (ht : h.Tallied taken events) (hbegun : begins taken = 1) (hopen : h.isEnded = false) :
    h.Waits ∨ .act .cancel ∈ taken := by
  unfold Engaged at he
  unfold Tallied at ht
  cases hstage : h.stage with
  | starting | dropped =>
    simp only [hstage] at ht
    rw [ht.1] at hbegun
    cases hbegun
  | ended => simp [isEnded, hstage] at hopen
  | dialing | handshaking => exact Or.inl (by simp [Waits, cancel, hstage])
  | answering gateway outbound =>
    simp only [hstage] at he
    exact Or.inl ((waits_answering hstage).mpr he)
  | relaying relay =>
    simp only [hstage] at ht
    obtain ⟨-, hgoes, hcancelled⟩ := ht
    cases hflag : relay.cancelled with
    | true => exact Or.inr (hcancelled hflag)
    | false => exact Or.inl ((waits_relaying hstage).mpr ⟨hgoes, hflag⟩)

/-- A handler was started once, or has not been. -/
theorem begins_cases {taken : List Turn} {events : List Event} (he : h.Engaged)
    (ht : h.Tallied taken events) :
    begins taken = 1 ∨ begins taken = 0 ∧ ∃ inbound, h.stage = .starting inbound := by
  unfold Tallied at ht
  cases hstage : h.stage with
  | starting inbound =>
    simp only [hstage] at ht
    exact Or.inr ⟨ht.1, inbound, rfl⟩
  | dropped =>
    simp only [Engaged, hstage] at he
  | dialing | handshaking =>
    simp only [hstage] at ht
    exact Or.inl ht.begun
  | relaying =>
    simp only [hstage] at ht
    exact Or.inl ht.1.begun
  | answering | ended =>
    simp only [hstage] at ht
    exact Or.inl ht.1

end Handler

namespace Forwarder

open Handler (begins life)

variable {url sourceId : String} {platform : Platform} {cache : Trust.Cache Trust.Context}
variable {f g next : Forwarder} {act : Act} {acts later : List Act} {events more : List Event}
variable {result : Forwarder × List Event} {h k : Handler} {i : Nat}

/-! ## Stopping -/

/-- Whether an action brings a forwarder whose handlers are cancelled to its
end; none of these waits for somebody else. -/
def Act.isStop : Act → Bool
  | .begin _ _ | .finish => true
  | .handler _ own => own.isStop
  | .supplied _ _ | .cancel => false

theorem Act.unhindered_of_isStop (h : act.isStop = true) : act.Unhindered := by
  cases act with
  | supplied | cancel => cases h
  | begin | handler | finish => trivial

theorem Act.supply?_of_isStop (h : act.isStop = true) : act.supply? = none := by
  cases act with
  | supplied => cases h
  | begin | handler | cancel | finish => rfl

/-- A turn of such an action is one towards the end of its handler. -/
theorem Act.isStop_of_turn? {t : Handler.Turn} (h : act.isStop = true)
    (hturn : act.turn? i = some t.bare) : t.isStop = true := by
  cases t with
  | begin => rfl
  | act own =>
    rw [eq_handler_of_turn? hturn] at h
    exact h

/-- A forwarder comes to a state by such actions alone. -/
def StopsAt (f next : Forwarder) : Prop :=
  ∃ acts events, (∀ act ∈ acts, act.isStop = true) ∧ machine.run f acts = some (next, events)

theorem StopsAt.refl (f : Forwarder) : f.StopsAt f := ⟨[], [], nofun, rfl⟩

theorem StopsAt.trans (h : f.StopsAt g) (h' : g.StopsAt next) : f.StopsAt next := by
  obtain ⟨acts, events, hacts, hrun⟩ := h
  obtain ⟨later, more, hlater, hmore⟩ := h'
  exact ⟨acts ++ later, events ++ more, List.forall_mem_append.mpr ⟨hacts, hlater⟩,
    Machine.run_append_iff.mpr ⟨g, events, more, hrun, hmore, rfl⟩⟩

/-- One such action. -/
theorem stopsAt_of_step (hstep : f.step act = some (next, events)) (hact : act.isStop = true) :
    f.StopsAt next :=
  ⟨[act], events, List.forall_mem_singleton.mpr hact, Machine.run_singleton_iff.mpr hstep⟩

/-- A fault that leaves a handler does not end the cancellation of the others. -/
theorem isCancelling_loopAfter (hcancelling : f.loop.isCancelling = true) (old new : Handler) :
    (f.loopAfter old new).isCancelling = true := by
  unfold loopAfter
  split
  · exact hcancelling
  · cases new.escaped? with
    | none => exact hcancelling
    | some fault =>
      cases hloop : f.loop with
      | accepting | draining | ended =>
        rw [hloop] at hcancelling
        cases hcancelling
      | failing | breaking | cancelled => rfl

/-- While handlers are cancelled each can take its actions. -/
theorem handle_of_step {own : Handler.Act} {result : Handler × List Handler.Event}
    (hcancelling : f.loop.isCancelling = true) (hget : f.handlers[i]? = some h)
    (hstep : h.step own = some result) :
    f.step (.handler i own) = some (f.withHandler i h result) := by
  cases own <;> simp [step, handle, hcancelling, hget, hstep]

/-- So what a handler can do is done in the forwarder. -/
theorem run_of_handler {own : List Handler.Act} {seen : List Handler.Event}
    (hcancelling : f.loop.isCancelling = true) (hget : f.handlers[i]? = some h)
    (hrun : Handler.machine.run h own = some (k, seen)) :
    ∃ next events, machine.run f (own.map (.handler i)) = some (next, events) ∧
      next.loop.isCancelling = true ∧ next.handlers = f.handlers.set i k := by
  -- from the first action on, the rest is done in the forwarder after it
  induction own generalizing f h seen with
  | nil =>
    obtain ⟨rfl, -⟩ : h = k ∧ [] = seen := by simpa using hrun
    obtain ⟨hi, rfl⟩ := List.getElem?_eq_some_iff.mp hget
    exact ⟨f, [], rfl, hcancelling, by simp⟩
  | cons act own ih =>
    obtain ⟨h', first, rest, hstep, hown, -⟩ := Machine.run_cons_iff.mp hrun
    have hi : i < f.handlers.length := (List.getElem?_eq_some_iff.mp hget).1
    have hfirst := handle_of_step hcancelling hget hstep
    obtain ⟨next, events, hlater, hstill, hset⟩ := ih (f := (f.withHandler i h (h', first)).1)
      (isCancelling_loopAfter hcancelling h h') (by simp [withHandler, hi]) hown
    refine ⟨next, _, Machine.run_cons_iff.mpr ⟨_, _, events, hfirst, hlater, rfl⟩, hstill, ?_⟩
    rw [hset, withHandler, List.set_set]

/-- A handler that has not started can do so. -/
theorem begin_of_starting {inbound : Leg} (hget : f.handlers[i]? = some h)
    (hstage : h.stage = .starting inbound) (load : Trust.Outcome Trust.Context) :
    (f.step (.begin i load)).isSome = true := by
  simp [step, hget, begin, hstage]

/-- What starts is the handler, and the others are cancelled as before. -/
theorem handler_of_begin {load : Trust.Outcome Trust.Context}
    (hcancelling : f.loop.isCancelling = true) (hget : f.handlers[i]? = some h) (he : h.Engaged)
    (hbegin : f.step (.begin i load) = some (next, events)) :
    ∃ h', next.loop.isCancelling = true ∧ next.handlers = f.handlers.set i h' ∧ h'.Engaged ∧
      ∀ inbound, h'.stage ≠ .starting inbound := by
  cases passage_of_step hbegin with
  | @turn _ j old t cache result hold hturn _ hstep =>
    obtain ⟨rfl, hbare⟩ : i = j ∧ .begin {} load = t.bare := by simpa [Act.turn?] using hturn
    obtain rfl : h = old := Option.some.inj (hget.symm.trans hold)
    have hpassage := Handler.passage_of_turn hstep
    cases t with
    | act => cases hbare
    | begin =>
      exact ⟨result.1, isCancelling_loopAfter hcancelling h result.1, rfl,
        Handler.engaged_step he hpassage, Handler.started_of_passage hpassage⟩

/-- A handler that has started is brought to its end while handlers are
cancelled; the others stay where they are. -/
theorem stop_started (hcancelling : f.loop.isCancelling = true) (hget : f.handlers[i]? = some h)
    (he : h.Engaged) (hstarted : ∀ inbound, h.stage ≠ .starting inbound) :
    ∃ next k, f.StopsAt next ∧ next.loop.isCancelling = true ∧
      next.handlers = f.handlers.set i k ∧ k.isEnded = true := by
  obtain ⟨own, k, seen, hown, hrun, hended⟩ := Handler.stops_of_engaged he hstarted
  obtain ⟨next, events, hlater, hstill, hset⟩ := run_of_handler hcancelling hget hrun
  refine ⟨next, k, ⟨own.map (.handler i), events, fun act hmem => ?_, hlater⟩, hstill, hset, hended⟩
  obtain ⟨act, hact, rfl⟩ := List.mem_map.mp hmem
  exact hown act hact

/-- And so is one that has not, once it has started. -/
theorem stop_one (hcancelling : f.loop.isCancelling = true) (hget : f.handlers[i]? = some h)
    (he : h.Engaged) :
    ∃ next k, f.StopsAt next ∧ next.loop.isCancelling = true ∧
      next.handlers = f.handlers.set i k ∧ k.isEnded = true := by
  by_cases hstarted : ∀ inbound, h.stage ≠ .starting inbound
  · exact stop_started hcancelling hget he hstarted
  · obtain ⟨inbound, hnot⟩ := not_forall.mp hstarted
    have hstage : h.stage = .starting inbound := not_not.mp hnot
    obtain ⟨⟨g, first⟩, hbegin⟩ :=
      Option.isSome_iff_exists.mp (begin_of_starting hget hstage (.error .streamClosed))
    obtain ⟨h', hstill, hhandlers, he', hstarted⟩ := handler_of_begin hcancelling hget he hbegin
    have hi : i < f.handlers.length := (List.getElem?_eq_some_iff.mp hget).1
    have hget' : g.handlers[i]? = some h' := by simp [hhandlers, hi]
    obtain ⟨next, k, hstops, hnext, hset, hended⟩ := stop_started hstill hget' he' hstarted
    refine ⟨next, k, (stopsAt_of_step hbegin rfl).trans hstops, hnext, ?_, hended⟩
    rw [hset, hhandlers, List.set_set]

/-- **All handlers can be brought to their end** while they are cancelled. -/
theorem stop_all (hcancelling : f.loop.isCancelling = true)
    (hall : ∀ h ∈ f.handlers, h.Engaged) (n : Nat) (hn : n ≤ f.handlers.length) :
    ∃ next, f.StopsAt next ∧ next.loop.isCancelling = true ∧
      next.handlers.length = f.handlers.length ∧
      ∀ (i : Nat) (k : Handler), next.handlers[i]? = some k →
        i < n ∧ k.isEnded = true ∨ n ≤ i ∧ f.handlers[i]? = some k := by
  -- on how many of them have been
  induction n with
  | zero => exact ⟨f, .refl f, hcancelling, rfl, fun i k hk => Or.inr ⟨Nat.zero_le i, hk⟩⟩
  | succ n ih =>
    obtain ⟨g, hstops, hstill, hlength, hbefore⟩ := ih (Nat.le_of_succ_le hn)
    have hlt : n < g.handlers.length := by omega
    have hget : g.handlers[n]? = some g.handlers[n] := List.getElem?_eq_getElem hlt
    -- the next one is where it was
    have hold : f.handlers[n]? = some g.handlers[n] := by
      rcases hbefore n _ hget with ⟨hless, -⟩ | ⟨-, hsame⟩
      · exact absurd hless (Nat.lt_irrefl n)
      · exact hsame
    obtain ⟨next, k, hmore, hnext, hset, hended⟩ :=
      stop_one hstill hget (hall _ (List.mem_of_getElem? hold))
    refine ⟨next, hstops.trans hmore, hnext, ?_, fun i k' hk' => ?_⟩
    · rw [hset, List.length_set, hlength]
    · rw [hset] at hk'
      rcases eq_or_ne i n with rfl | hne
      · obtain rfl : k = k' := by simpa [hlt] using hk'
        exact Or.inl ⟨Nat.lt_succ_self i, hended⟩
      · rw [List.getElem?_set_ne hne.symm] at hk'
        rcases hbefore i k' hk' with ⟨hless, hstopped⟩ | ⟨hle, hsame⟩
        · exact Or.inl ⟨Nat.lt_succ_of_lt hless, hstopped⟩
        · exact Or.inr ⟨by omega, hsame⟩

/-- A forwarder whose source is exhausted ends once its handlers have. -/
theorem end_of_draining (hloop : f.loop = .draining) (hall : ∀ k ∈ f.handlers, k.isEnded = true) :
    ∃ next events, f.step .finish = some (next, events) ∧ next.loop = .ended (.returned ()) := by
  have hended : f.handlers.all (·.isEnded) = true := List.all_eq_true.mpr hall
  have hfinish : f.step .finish = some ({ f with loop := .ended (.returned ()) },
      [f.note .info "Tunnel source exhausted"]) := by
    simp [step, finish, hended, conclude, hloop]
  exact ⟨_, _, hfinish, rfl⟩

/-- **A forwarder whose handlers are cancelled comes to its end** by its own
actions. -/
theorem end_of_cancelling (hcancelling : f.loop.isCancelling = true)
    (hall : ∀ h ∈ f.handlers, h.Engaged) :
    ∃ next ending, f.StopsAt next ∧ next.loop = .ended ending := by
  obtain ⟨g, hstops, hstill, hlength, hended⟩ :=
    stop_all hcancelling hall f.handlers.length (Nat.le_refl _)
  have hstopped : g.handlers.all (·.isEnded) = true := by
    rw [List.all_eq_true]
    intro k hk
    obtain ⟨i, hget⟩ := List.getElem?_of_mem hk
    rcases hended i k hget with ⟨-, hk⟩ | ⟨hle, hold⟩
    · exact hk
    · exact absurd (List.getElem?_eq_some_iff.mp hold).1 (Nat.not_lt.mpr hle)
  obtain ⟨⟨ending, said⟩, hconclude⟩ : ∃ last, g.conclude = some last := by
    cases hloop : g.loop with
    | accepting | draining | ended =>
      rw [hloop] at hstill
      cases hstill
    | failing | breaking | cancelled =>
      simp only [conclude, hloop]
      exact ⟨_, rfl⟩
  have hfinish : g.step .finish = some ({ g with loop := .ended ending }, said) := by
    simp [step, finish, hstopped, hconclude]
  exact ⟨_, ending, hstops.trans (stopsAt_of_step hfinish rfl), rfl⟩

/-- On the way to the end of a forwarder its handlers stay whole, -/
theorem Steady.whole_step (h : f.Steady acts) (hwhole : ∀ k ∈ f.handlers, k.Whole)
    (hp : Passage f act result) (hact : act.isStop = true) : ∀ k ∈ result.1.handlers, k.Whole := by
  cases hp with
  | accept | exhausted | failed | cancel => cases hact
  | finish => exact hwhole
  | turn hget hturn _ hstep =>
    intro k hk
    rcases List.mem_or_eq_of_mem_set hk with hother | rfl
    · exact hwhole k hother
    · have hold := List.mem_of_getElem? hget
      exact Handler.whole_step (h.discreet _ hold) (h.engaged _ hold) (hwhole _ hold)
        (Handler.passage_of_turn hstep) (Act.isStop_of_turn? hact hturn)

/-- and so nothing leaves them. -/
theorem Steady.escapes_of_stopsAt (h : f.Steady acts) (hwhole : ∀ k ∈ f.handlers, k.Whole)
    (hstops : f.StopsAt next) : next.escapes = [] := by
  obtain ⟨later, events, hlater, hrun⟩ := hstops
  have hall : next.Steady (acts ++ later) ∧ ∀ k ∈ next.handlers, k.Whole := by
    refine Machine.run_induction_of (P := fun g later _ =>
      g.Steady (acts ++ later) ∧ ∀ k ∈ g.handlers, k.Whole) (Q := fun act => act.isStop = true)
      ?_ ?_ hrun hlater
    · rw [List.append_nil]
      exact ⟨h, hwhole⟩
    · intro g next act later events more _ hg hstep hact
      rw [← List.append_assoc]
      exact ⟨steady_step hg.1 (passage_of_step hstep) (Act.unhindered_of_isStop hact),
        hg.1.whole_step hg.2 (passage_of_step hstep) hact⟩
  exact escapes_eq_nil_iff.mpr fun k hk => (hall.2 k hk).kept

/-- What a forwarder does on its way to its end brings nothing from the source. -/
theorem sourceState_of_isStop {later : List Act} (hlater : ∀ act ∈ later, act.isStop = true) :
    sourceState (acts ++ later) = sourceState acts := by
  have hnone : supplies later = [] :=
    List.filterMap_eq_nil_iff.mpr fun act hmem => Act.supply?_of_isStop (hlater act hmem)
  rw [sourceState, supplies, List.filterMap_append, ← supplies, ← supplies, hnone, List.append_nil,
    sourceState]

/-! ## Cancelling -/

/-- **An action that heeds cancellations**: while handlers are cancelled, one
that waits takes no other action of its own. -/
def Heeds (f : Forwarder) (act : Act) : Prop :=
  f.loop.isCancelling = true → ∀ i h own, act = .handler i own → f.handlers[i]? = some h →
    h.Waits → own = .cancel ∨ ∃ side given, own = .peer side given

/-- **A prompt run**: all its actions heed cancellations. -/
def Prompt : Forwarder → List Act → Prop
  | _, [] => True
  | f, act :: acts => f.Heeds act ∧ ∀ next events, f.step act = some (next, events) →
      Prompt next acts

/-- **What a forwarder does by itself heeds cancellations**, for it looks for
handlers to cancel before it lets one go on. -/
theorem heeds_of_own {load : Trust.Outcome Trust.Context}
    (hown : machine.stepAny f (f.own load) = some result) :
    ∃ act, f.step act = some result ∧ f.Heeds act := by
  obtain ⟨before, act, after, hsplit, hstep, hbefore⟩ := List.findSome?_eq_some_iff.mp hown
  refine ⟨act, hstep, ?_⟩
  rintro hcancelling i h given rfl hget hw
  have hi : i < f.handlers.length := (List.getElem?_eq_some_iff.mp hget).1
  -- its cancellation can happen, and so it was not passed over
  have hcancel : (machine.step f (.handler i .cancel)).isSome = true := by
    simpa [machine, step, handle, hcancelling, hget, Handler.step, Handler.Waits] using hw
  have hkept : .handler i .cancel ∉ before := fun hmem => by
    rw [hbefore _ hmem] at hcancel
    cases hcancel
  rw [own, List.append_assoc] at hsplit
  rcases split_append hsplit with ⟨tail, hfirst⟩ | ⟨hpassed, -⟩
  · have hmem : Act.handler i given ∈ (List.range f.handlers.length).map (Act.begin · load) ++
        (List.range f.handlers.length).map (Act.handler · .cancel) := by
      rw [hfirst]
      exact List.mem_append_right _ List.mem_cons_self
    simp only [List.mem_append, List.mem_map, reduceCtorEq, and_false, exists_false, false_or,
      Act.handler.injEq] at hmem
    obtain ⟨-, -, -, heq⟩ := hmem
    exact Or.inl heq.symm
  · refine absurd (hpassed.subset ?_) hkept
    simp [hi]

/-- And so all that it does by itself is a prompt run. -/
theorem prompt_settle (load : Trust.Outcome Trust.Context) (n : Nat) (f : Forwarder) :
    ∃ acts, f.Prompt acts ∧ machine.run f acts = some (machine.settle (own load) n f) := by
  induction n generalizing f with
  | zero => exact ⟨[], trivial, rfl⟩
  | succ n ih =>
    cases hown : machine.stepAny f (f.own load) with
    | none => exact ⟨[], trivial, by simp [Machine.settle, hown]⟩
    | some result =>
      obtain ⟨act, hstep, hheeds⟩ := heeds_of_own hown
      obtain ⟨acts, hprompt, hrun⟩ := ih result.1
      refine ⟨act :: acts, ⟨hheeds, fun next events hnext => ?_⟩, ?_⟩
      · obtain rfl : result = (next, events) := Option.some.inj (hstep.symm.trans hnext)
        exact hprompt
      · have hsettle : machine.settle (own load) (n + 1) f =
            ((machine.settle (own load) n result.1).1,
              result.2 ++ (machine.settle (own load) n result.1).2) := by
          simp [Machine.settle, hown]
        rw [hsettle]
        exact Machine.run_cons_iff.mpr ⟨result.1, result.2, _, hstep, hrun, rfl⟩

/-- A handler that waits for its cancellation goes on doing so. -/
theorem waits_step (hcancelling : f.loop.isCancelling = true) (hget : f.handlers[i]? = some h)
    (hw : h.Waits) (hheeds : f.Heeds act) (hother : act ≠ .handler i .cancel)
    (hp : Passage f act result) :
    result.1.loop.isCancelling = true ∧
      ∃ h', result.1.handlers[i]? = some h' ∧ h'.Waits := by
  cases hp with
  | accept hloop | exhausted hloop | failed hloop =>
    rw [hloop] at hcancelling
    cases hcancelling
  | cancel hloop => exact ⟨Loop.isCancelling_cancel? hloop, h, hget, hw⟩
  | finish hall =>
    -- it waits, and so it has not ended
    have hended := List.all_eq_true.mp hall h (List.mem_of_getElem? hget)
    rw [hw.open.1] at hended
    cases hended
  | @turn _ j old t cache next hold hturn _ hstep =>
    refine ⟨isCancelling_loopAfter hcancelling old next.1, ?_⟩
    rcases eq_or_ne j i with rfl | hne
    · obtain rfl : h = old := Option.some.inj (hget.symm.trans hold)
      have hj : j < f.handlers.length := (List.getElem?_eq_some_iff.mp hget).1
      refine ⟨next.1, by simp [hj], ?_⟩
      cases t with
      | begin cache load =>
        cases Handler.passage_of_turn hstep with
        | unresolved hstage | dial hstage => exact absurd hstage (hw.open.2 _)
      | act own =>
        obtain rfl : act = .handler j own := Act.eq_handler_of_turn? hturn
        rcases hheeds hcancelling j h own rfl hget hw with rfl | ⟨side, given, rfl⟩
        · exact absurd rfl hother
        · cases Handler.passage_of_turn hstep with
          | peer => exact Handler.waits_withLeg hw side _
          | relay _ hown | gateway _ hown => cases hown
    · exact ⟨h, by rw [List.getElem?_set_ne hne]; exact hget, hw⟩

/-- **A handler that waits is cancelled** by a prompt run before the forwarder
ends. -/
theorem cancel_mem_of_prompt (hcancelling : f.loop.isCancelling = true)
    (hget : f.handlers[i]? = some h) (hw : h.Waits) (hprompt : f.Prompt later)
    (hrun : machine.run f later = some (next, more)) (hend : next.loop.ending?.isSome = true) :
    .handler i .cancel ∈ later := by
  induction later generalizing f h more with
  | nil =>
    obtain ⟨rfl, -⟩ : f = next ∧ [] = more := by simpa using hrun
    cases hloop : f.loop with
    | ended =>
      rw [hloop] at hcancelling
      cases hcancelling
    | accepting | draining | failing | breaking | cancelled =>
      rw [hloop] at hend
      cases hend
  | cons act later ih =>
    obtain ⟨g, first, rest, hstep, hlater, -⟩ := Machine.run_cons_iff.mp hrun
    obtain ⟨hheeds, hafter⟩ := hprompt
    by_cases hact : act = .handler i .cancel
    · rw [hact]
      exact List.mem_cons_self
    · obtain ⟨hcancelling', h', hget', hw'⟩ :=
        waits_step hcancelling hget hw hheeds hact (passage_of_step hstep)
      exact List.mem_cons_of_mem _ (ih hcancelling' hget' hw' (hafter g first hstep) hlater)

/-! ## What a run has come to -/

/-- The connections that the source has yielded, in order. -/
def yielded (acts : List Act) : List Inbound := (supplies acts).filterMap Supply.conn?

/-- **A forwarder that follows its source.** -/
structure Followed (f : Forwarder) (acts : List Act) (events : List Event) : Prop where
  /-- Every connection that the source has yielded was told of once, in order. -/
  accepted : announced events = yielded acts
  /-- Every one has its handler. -/
  handled : f.handlers.map (·.conn) = yielded acts
  /-- A handler is started once: it has been, or it can be at any time. -/
  started : ∀ i < f.handlers.length, begins (turns i acts) = 1 ∨
    begins (turns i acts) = 0 ∧ ∀ load, (f.step (.begin i load)).isSome = true
  /-- The source is asked for more until its end, whatever the handlers are at. -/
  asked : ∀ supply receivers,
    (f.step (.supplied supply receivers)).isSome = true ↔ sourceState acts = .supplying
  /-- The end of the source is its last word. -/
  last : ∀ supply ∈ supplies acts, supply.state = .supplying ∨ supply.state = sourceState acts
  /-- The forwarder returns if and only if the source was exhausted. -/
  returned : f.loop.ending? = some (.returned ()) ↔
    f.loop.ending?.isSome = true ∧ sourceState acts = .exhausted
  /-- It raises a fault if and only if the source has failed and nothing has left a
  handler, and the fault says so and has that of the source as its cause. -/
  raised : ∀ fault, f.loop.ending? = some (.raised fault) ↔
    f.loop.ending?.isSome = true ∧ f.escapes = [] ∧ ∃ cause, sourceState acts = .failed cause ∧
      fault = sourceFault cause ∧ fault.kind = .sourceUnavailable ∧ fault.cause = some cause
  /-- It ends by what has left the handlers, if something has, and then the source has
  failed. It does not end otherwise, and it ends after all handlers, each of which was
  started. -/
  ended : ∀ ending, f.loop.ending? = some ending →
    (sourceState acts).Ends f.escapes ending ∧
      ∀ i k, f.handlers[i]? = some k → k.isEnded = true ∧ begins (turns i acts) = 1
  /-- What leaves a handler is a group of faults, beside which it was cancelled. -/
  escaped : ∀ i k fault, f.handlers[i]? = some k → k.escaped? = some fault →
    .handler i .cancel ∈ acts ∧ ∃ faults, k.ending? = some (.group faults) ∧
      faults.cancelled = true ∧ fault = faults.asFault
  /-- No handler is cancelled while the source has not failed. -/
  spared : (∀ fault, sourceState acts ≠ .failed fault) → ∀ i, .handler i .cancel ∉ acts
  /-- Once the source is exhausted and the handlers have ended, it ends. -/
  drained : sourceState acts = .exhausted → f.loop.ending? = none →
    (∀ k ∈ f.handlers, k.isEnded = true) →
      ∃ next more, f.step .finish = some (next, more) ∧ next.loop = .ended (.returned ())
  /-- Once the source has failed, it comes to its end by its own actions, and raises
  the fault if the handlers are whole then. -/
  stopped : ∀ cause, sourceState acts = .failed cause →
    ∃ next ending, f.StopsAt next ∧ next.loop = .ended ending ∧
      ((∀ k ∈ f.handlers, k.Whole) → ending = .raised (sourceFault cause))
  /-- Every handler that is at work when the source has failed is cancelled
  before the forwarder ends. -/
  cancelled : ∀ cause, sourceState acts = .failed cause → ∀ later next more,
    machine.run f later = some (next, more) → f.Prompt later →
      next.loop.ending?.isSome = true → ∀ i k, f.handlers[i]? = some k →
        begins (turns i acts) = 1 → k.isEnded = false → .handler i .cancel ∈ acts ++ later

/-- A forwarder ends by returning if its source was exhausted, -/
theorem Steady.returned_iff (h : f.Steady acts) : f.loop.ending? = some (.returned ()) ↔
    f.loop.ending?.isSome = true ∧ sourceState acts = .exhausted := by
  constructor
  · intro hending
    rcases h.ends hending with ⟨-, hsource⟩ | ⟨-, -, faults, hgroup, -⟩
    · exact ⟨by rw [hending]; rfl, SourceState.returned_iff.mp hsource⟩
    · cases hgroup
  · rintro ⟨hsome, hsource⟩
    obtain ⟨ending, hending⟩ := Option.isSome_iff_exists.mp hsome
    rcases h.ends hending with ⟨-, hends⟩ | ⟨-, ⟨cause, hfailed⟩, -⟩
    · rw [hsource] at hends
      rw [hending]
      exact hends.symm
    · rw [hsource] at hfailed
      cases hfailed

/-- and by raising a fault if its source has failed and nothing has left a handler. -/
theorem Steady.raised_iff (h : f.Steady acts) (fault : Fault) :
    f.loop.ending? = some (.raised fault) ↔ f.loop.ending?.isSome = true ∧ f.escapes = [] ∧
      ∃ cause, sourceState acts = .failed cause ∧ fault = sourceFault cause := by
  constructor
  · intro hending
    rcases h.ends hending with ⟨hnone, hsource⟩ | ⟨-, -, faults, hgroup, -⟩
    · exact ⟨by rw [hending]; rfl, hnone, SourceState.raised_iff.mp hsource⟩
    · cases hgroup
  · rintro ⟨hsome, hnone, hraised⟩
    obtain ⟨ending, hending⟩ := Option.isSome_iff_exists.mp hsome
    rcases h.ends hending with ⟨-, hends⟩ | ⟨hne, -⟩
    · rw [hending, ← hends]
      exact SourceState.raised_iff.mpr hraised
    · exact absurd hnone hne

/-- A loop that has not ended waits for its handlers once the source is
exhausted, -/
theorem Loop.Follows.draining {loop : Loop} {source : SourceState} {escaped : List Fault}
    (h : loop.Follows source escaped) (hsource : source = .exhausted)
    (hopen : loop.ending? = none) : loop = .draining := by
  subst hsource
  cases loop with
  | draining => rfl
  | accepting | failing => cases h.1
  | breaking =>
    obtain ⟨⟨cause, hfailed⟩, -⟩ := h
    cases hfailed
  | cancelled => cases h
  | ended => cases hopen

/-- and cancels them once it has failed. -/
theorem Loop.Follows.cancelling {loop : Loop} {source : SourceState} {escaped : List Fault}
    {fault : Fault} (h : loop.Follows source escaped) (hsource : source = .failed fault)
    (hopen : loop.ending? = none) : loop.isCancelling = true := by
  subst hsource
  cases loop with
  | failing | breaking => rfl
  | accepting | draining => cases h.1
  | cancelled => cases h
  | ended => cases hopen

/-- **A forwarder whose source has failed comes to its end**, by the fault of its source
if its handlers are whole. -/
theorem Steady.stops_failed {cause : Fault} (h : f.Steady acts)
    (hsource : sourceState acts = .failed cause) :
    ∃ next ending, f.StopsAt next ∧ next.loop = .ended ending ∧
      ((∀ k ∈ f.handlers, k.Whole) → ending = .raised (sourceFault cause)) := by
  obtain ⟨next, ending, hstops, hended⟩ :
      ∃ next ending, f.StopsAt next ∧ next.loop = .ended ending := by
    cases hloop : f.loop.ending? with
    | none => exact end_of_cancelling (h.loop.cancelling hsource hloop) h.engaged
    | some ending => exact ⟨f, ending, .refl f, Loop.eq_ended hloop⟩
  refine ⟨next, ending, hstops, hended, fun hwhole => ?_⟩
  have hnone := h.escapes_of_stopsAt hwhole hstops
  obtain ⟨later, events, hlater, hrun⟩ := hstops
  have hnext := h.later hrun fun act hmem => Act.unhindered_of_isStop (hlater act hmem)
  have hends := hnext.ends (by rw [hended]; rfl)
  rw [hnone, sourceState_of_isStop hlater, hsource] at hends
  rcases hends with ⟨-, hending⟩ | ⟨hne, -⟩
  · exact (Option.some.inj hending).symm
  · exact absurd rfl hne

/-- What arrives is what the source yields. -/
theorem conn_arrivals (acts : List Act) : (arrivals acts).map (·.conn) = yielded acts := by
  rw [arrivals, yielded, supplies, List.map_filterMap, List.filterMap_filterMap]
  congr 1
  funext act
  cases act with
  | supplied supply receivers => cases supply <;> rfl
  | begin | handler | cancel | finish => rfl

/-- Each handler has the connection it was accepted with. -/
theorem conn_handlers
    (h : machine.run (new url sourceId platform cache) acts = some (f, events)) :
    f.handlers.map (·.conn) = (arrivals acts).map (·.conn) := by
  obtain ⟨-, -, hlanes⟩ := lanes_of_run h
  refine List.ext_getElem? fun i => ?_
  rw [List.getElem?_map, List.getElem?_map]
  cases hk : f.handlers[i]? with
  | none =>
    have hi : (arrivals acts).length ≤ i := hlanes.count ▸ List.getElem?_eq_none_iff.mp hk
    rw [List.getElem?_eq_none hi]
  | some k =>
    obtain ⟨start, taken, hstart, -, hrun⟩ := hlanes.lane i k hk
    rw [hstart, Option.map_some, Option.map_some, (Handler.same_of_run hrun).1]

/-- What has been told of the connection of a handler, from its own turns. -/
theorem tallied_of_run
    (h : machine.run (new url sourceId platform cache) acts = some (f, events))
    (hk : f.handlers[i]? = some k) :
    ∃ taken, begins taken = begins (turns i acts) ∧ k.Tallied taken (eventsOf i events) ∧
      (.act .cancel ∈ taken → .handler i .cancel ∈ acts) := by
  obtain ⟨rfl, rfl, hlanes⟩ := lanes_of_run h
  obtain ⟨start, taken, hstart, htaken, hrun⟩ := hlanes.lane i k hk
  obtain ⟨conn, leg, receivers, -, rfl⟩ := mem_arrivals (List.mem_of_getElem? hstart)
  refine ⟨taken, ?_, Handler.tallied_run hrun, fun hcancel => ?_⟩
  · rw [← htaken, Handler.begins_bare]
  · have hturn : .act .cancel ∈ turns i acts := by
      rw [← htaken]
      exact List.mem_map.mpr ⟨_, hcancel, rfl⟩
    obtain ⟨act, hmem, hact⟩ := List.mem_filterMap.mp hturn
    rw [← Act.eq_handler_of_turn? hact]
    exact hmem

/-- A handler of a run was started once, or has not been. -/
theorem begins_of_run (h : machine.run (new url sourceId platform cache) acts = some (f, events))
    (hsteady : f.Steady acts) (hk : f.handlers[i]? = some k) :
    begins (turns i acts) = 1 ∨
      begins (turns i acts) = 0 ∧ ∃ inbound, k.stage = .starting inbound := by
  obtain ⟨taken, hsame, htallied, -⟩ := tallied_of_run h hk
  rw [← hsame]
  exact Handler.begins_cases (hsteady.engaged k (List.mem_of_getElem? hk)) htallied

/-- **Whoever is at work when the source has failed is cancelled**, unless it was
before. -/
theorem cancel_mem_of_failing {cause : Fault}
    (h : machine.run (new url sourceId platform cache) acts = some (f, events))
    (hsteady : f.Steady acts) (hsource : sourceState acts = .failed cause)
    (hopen : f.loop.ending? = none) (hrun : machine.run f later = some (next, more))
    (hprompt : f.Prompt later) (hend : next.loop.ending?.isSome = true)
    (hk : f.handlers[i]? = some k) (hbegun : begins (turns i acts) = 1)
    (hwork : k.isEnded = false) : .handler i .cancel ∈ acts ++ later := by
  obtain ⟨taken, hsame, htallied, hcancelled⟩ := tallied_of_run h hk
  have hengaged := hsteady.engaged k (List.mem_of_getElem? hk)
  have hcancelling := hsteady.loop.cancelling hsource hopen
  rcases Handler.waits_of_engaged hengaged htallied (hsame.trans hbegun) hwork with hwaits | hmem
  · have hlater := cancel_mem_of_prompt hcancelling hk hwaits hprompt hrun hend
    exact List.mem_append_right _ hlater
  · exact List.mem_append_left _ (hcancelled hmem)

/-- **Forwarding follows the source.** Take any run in which the forwarder is not
cancelled, those who are told of an arrival do not fail, and neither does the
close of an inbound leg; handlers may do anything and end in any way, at any
time. The forwarder tells of the connections that the source yields, in their
order, and starts a handler for each, whatever the other handlers are at. It
returns if the source was exhausted, after it has waited for its handlers. If the
source has failed it cancels them, and raises the fault of the source after
them; but where a relay has met a fault that is none of reading or writing before
its cancellation was through, that fault leaves the handler, and the forwarder
ends by the group of such faults. -/
theorem forwarding_follows_source
    (h : machine.run (new url sourceId platform cache) acts = some (f, events))
    (hacts : ∀ act ∈ acts, act.Unhindered) : Followed f acts events := by
  have hsteady := steady_run h hacts
  have hended (hend : f.loop.ending?.isSome = true) (i : Nat) (k : Handler)
      (hk : f.handlers[i]? = some k) : k.isEnded = true ∧ begins (turns i acts) = 1 := by
    have hstopped := isEnded_of_ended h hend k (List.mem_of_getElem? hk)
    refine ⟨hstopped, (begins_of_run h hsteady hk).resolve_right ?_⟩
    rintro ⟨-, inbound, hstage⟩
    simp [Handler.isEnded, hstage] at hstopped
  refine {
    accepted := ?accepted
    handled := ?handled
    started := ?started
    asked := hsteady.asks
    last := hsteady.last
    returned := hsteady.returned_iff
    raised := ?raised
    ended := ?ended
    escaped := fun i k fault => escaped_of_run h hacts
    spared := hsteady.spared
    drained := ?drained
    stopped := fun cause => hsteady.stops_failed
    cancelled := ?cancelled }
  case accepted => rw [(told_of_run h).announced, conn_arrivals]
  case handled => rw [conn_handlers h, conn_arrivals]
  case started =>
    intro i hi
    have hk := List.getElem?_eq_getElem hi
    rcases begins_of_run h hsteady hk with hone | ⟨hnone, inbound, hstage⟩
    · exact Or.inl hone
    · exact Or.inr ⟨hnone, begin_of_starting hk hstage⟩
  case raised =>
    intro fault
    rw [hsteady.raised_iff]
    refine and_congr_right fun _ => and_congr_right fun _ => exists_congr fun cause =>
      and_congr_right fun _ => ?_
    exact ⟨fun heq => ⟨heq, heq ▸ rfl, heq ▸ rfl⟩, And.left⟩
  case ended =>
    intro ending hending
    exact ⟨hsteady.ends hending, hended (by rw [hending]; rfl)⟩
  case drained =>
    intro hsource hopen hall
    exact end_of_draining (hsteady.loop.draining hsource hopen) hall
  case cancelled =>
    intro cause hsource later next more hrun hprompt hend i k hk hbegun hwork
    have hopen : f.loop.ending? = none := by
      rw [← Option.not_isSome_iff_eq_none]
      intro hsome
      rw [(hended hsome i k hk).1] at hwork
      cases hwork
    exact cancel_mem_of_failing h hsteady hsource hopen hrun hprompt hend hk hbegun hwork

/-- A run in which the source fails while the first connection is relayed and
the dial of the second is waited for. -/
def sourceLost : List Act :=
  [.supplied (.connection {} {}) {}, .begin 0 (.error .streamClosed),
    .handler 0 (.delivered (.ok { leg := {} })), .supplied (.connection { id := "b" } {}) {},
    .begin 1 (.error .streamClosed), .supplied (.failed .streamClosed) {}, .handler 0 .cancel,
    .handler 1 .cancel, .handler 0 (.abandon .inbound), .handler 0 (.abandon .outbound),
    .handler 0 .closeLegs, .finish]

theorem sourceLost_followed :
    ∃ f events fault, machine.run (new "tcp://a:1" "s" .posix {}) sourceLost = some (f, events) ∧
      announced events = [{}, { id := "b" }] ∧
      begins (turns 0 sourceLost) = 1 ∧ begins (turns 1 sourceLost) = 1 ∧
      f.loop.ending? = some (.raised fault) ∧ fault.kind = .sourceUnavailable ∧
      fault.cause = some .streamClosed := by
  obtain ⟨⟨f, events⟩, h⟩ := Option.isSome_iff_exists.mp
    (show (machine.run (new "tcp://a:1" "s" .posix {}) sourceLost).isSome = true by
      decide +kernel)
  have hseen : (machine.run (new "tcp://a:1" "s" .posix {}) sourceLost).all
      (fun r => r.1.loop.ending?.isSome && r.1.handlers.length == 2 && r.1.escapes.isEmpty) =
        true := by
    decide +kernel
  simp only [h, Option.all_some, Bool.and_eq_true, beq_iff_eq, List.isEmpty_iff] at hseen
  obtain ⟨⟨hend, hcount⟩, hkept⟩ := hseen
  have hfollowed := forwarding_follows_source h (by simp [sourceLost, Act.Unhindered])
  have hraised := (hfollowed.raised (sourceFault .streamClosed)).mpr
    ⟨hend, hkept, .streamClosed, rfl, rfl, rfl, rfl⟩
  have hstarted (i : Nat) (hi : i < f.handlers.length) : begins (turns i sourceLost) = 1 :=
    ((hfollowed.ended _ hraised).2 i _ (List.getElem?_eq_getElem hi)).2
  exact ⟨f, events, _, h, hfollowed.accepted, hstarted 0 (by omega), hstarted 1 (by omega),
    hraised, rfl, rfl⟩

/-- A run in which the source fails while the pumps of the first connection are being
stopped, as a read has given a fault that is none of reading. -/
def sourceLostMeanwhile : List Act :=
  [.supplied (.connection {} {}) {}, .begin 0 (.error .streamClosed),
    .handler 0 (.delivered (.ok { leg := {} })),
    .handler 0 (.peer .outbound (.snap (.mk .key [.string "codec"] none))),
    .handler 0 (.advance .outbound), .supplied (.failed .streamClosed) {}, .handler 0 .cancel,
    .handler 0 (.abandon .inbound), .handler 0 .closeLegs, .finish]

/-- **The fault of a relay may take the place of that of the source**: nobody tells that
the source has failed. -/
theorem source_failure_hidden :
    ∃ f events,
      machine.run (new "tcp://a:1" "s" .posix {}) sourceLostMeanwhile = some (f, events) ∧
      (∀ act ∈ sourceLostMeanwhile, act.Unhindered) ∧
      sourceState sourceLostMeanwhile = .failed .streamClosed ∧
      f.loop.ending?.bind Ending.faultName? = some Ending.groupName ∧
      ∀ fault, f.loop.ending? ≠ some (.raised fault) := by
  obtain ⟨⟨f, events⟩, h⟩ := Option.isSome_iff_exists.mp
    (show (machine.run (new "tcp://a:1" "s" .posix {}) sourceLostMeanwhile).isSome = true by
      decide +kernel)
  have hseen : (machine.run (new "tcp://a:1" "s" .posix {}) sourceLostMeanwhile).all (fun r =>
      r.1.loop.ending?.bind Ending.faultName? == some Ending.groupName && !r.1.escapes.isEmpty) =
        true := by
    decide +kernel
  simp only [h, Option.all_some, Bool.and_eq_true, beq_iff_eq] at hseen
  obtain ⟨hgroup, hleft⟩ := hseen
  have hacts : ∀ act ∈ sourceLostMeanwhile, act.Unhindered := by
    simp [sourceLostMeanwhile, Act.Unhindered]
  refine ⟨f, events, h, hacts, rfl, hgroup, fun fault hraised => ?_⟩
  obtain ⟨-, hnone, -⟩ := ((steady_run h hacts).raised_iff fault).mp hraised
  simp [hnone] at hleft

end Forwarder

end TunnelRelay
