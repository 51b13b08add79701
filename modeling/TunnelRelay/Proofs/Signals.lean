import TunnelRelay.Proofs.Isolation
import TunnelRelay.Proofs.Ledger
import TunnelRelay.Proofs.Phases
import TunnelRelay.Proofs.Sealing
/-!
# What is told of a connection

Of every connection that has a handler something is told once: that its dial
has failed, that its relay is closed, or, if neither came to be, that an
unexpected fault has ended it; only a handler that is cancelled may end without
a word. The invariant counts for each stage what has been told so far
(`Tallied`).

What is told of a relay is right: it is told after both legs are closed, and the
numbers are those of the bytes written. Both rely on the close of a leg in one
point. A relay takes a failure of a relay for its own, and so a leg must not
give one when it is closed (`Leg.Blameless`).
-/

namespace TunnelRelay

/-- Closing the leg does not give what a relay takes for its own failure. -/
def Leg.Blameless (leg : Leg) : Prop :=
  ∀ fault, leg.closeFault = some fault →
    ∀ fromInbound fromOutbound, fault.kind ≠ .relayFailure fromInbound fromOutbound

theorem Leg.Blameless.of_like {leg next : Leg} (h : leg.Blameless) (hlike : leg.ClosesLike next) :
    next.Blameless :=
  fun fault hfault => h fault (hlike.fault.trans hfault)

/-- Where an element stands in two lists: in the first, or after all of it. -/
theorem split_append {α : Type} {first rest mid last : List α} {a : α}
    (hsplit : first ++ rest = mid ++ a :: last) :
    (∃ tail, first = mid ++ a :: tail) ∨ (first <+: mid ∧ a ∈ rest) := by
  rcases List.append_eq_append_iff.mp hsplit with ⟨more, rfl, hrest⟩ | ⟨more, hfirst, hrest⟩
  · refine Or.inr ⟨List.prefix_append _ _, ?_⟩
    rw [hrest]
    exact List.mem_append_right _ List.mem_cons_self
  · cases more with
    | nil =>
      refine Or.inr ⟨by simp [hfirst], ?_⟩
      rw [← List.nil_append rest, ← hrest]
      exact List.mem_cons_self
    | cons b more =>
      obtain ⟨rfl, -⟩ := List.cons.inj hrest
      exact Or.inl ⟨more, hfirst⟩

namespace Handler

variable {h : Handler} {inbound : Leg} {outbound : Option Leg} {ending : Ending Unit}
variable {events more own before : List Event} {platform : Platform} {url : String} {t : Turn}
variable {taken : List Turn} {result : Handler × List Event} {outcome : Relay.Outcome}

/-! ## Counting -/

/-- Whether the handler starts, which is when its destination is resolved. -/
def Turn.isBegin : Turn → Bool
  | .begin _ _ => true
  | .act _ => false

/-- How often the handler has started. -/
def begins (taken : List Turn) : Nat := taken.countP Turn.isBegin

/-- Whether an event is a dial. -/
def Event.isDial : Event → Bool
  | .dial _ => true
  | _ => false

/-- Whether an event tells others how the dial or the relay has ended. -/
def Event.isSignal : Event → Bool
  | .dialFailed _ | .relayClosed _ => true
  | _ => false

/-- Whether an event is a record that shows the origin of a fault. -/
def Event.isTraced : Event → Bool
  | .log record => record.trace.isSome
  | _ => false

/-- How often it was dialed. -/
def dials (events : List Event) : Nat := events.countP Event.isDial

/-- What others were told of the dial or the relay. -/
def signals (events : List Event) : List Event := events.filter Event.isSignal

/-- The records that show the origin of a fault. -/
def traced (events : List Event) : List Event := events.filter Event.isTraced

@[simp] theorem begins_append (taken later : List Turn) :
    begins (taken ++ later) = begins taken + begins later :=
  List.countP_append

@[simp] theorem begins_act (act : Act) : begins [.act act] = 0 := rfl

theorem begins_concat (taken : List Turn) (act : Act) :
    begins (taken ++ [.act act]) = begins taken :=
  begins_append taken [.act act]

@[simp] theorem dials_append (events more : List Event) :
    dials (events ++ more) = dials events + dials more :=
  List.countP_append

@[simp] theorem signals_append (events more : List Event) :
    signals (events ++ more) = signals events ++ signals more :=
  List.filter_append _ _

@[simp] theorem traced_append (events more : List Event) :
    traced (events ++ more) = traced events ++ traced more :=
  List.filter_append _ _

/-- How often does not depend on the trust cache. -/
theorem begins_bare (taken : List Turn) : begins (taken.map Turn.bare) = begins taken := by
  rw [begins, List.countP_map]
  congr 1
  funext t
  cases t <;> rfl

/-- Events that are neither a dial nor a signal. -/
def Unmarked (events : List Event) : Prop :=
  ∀ e ∈ events, e.isDial = false ∧ e.isSignal = false

theorem Unmarked.counts (hm : Unmarked events) : dials events = 0 ∧ signals events = [] := by
  refine ⟨List.countP_eq_zero.mpr fun e he => ?_, List.filter_eq_nil_iff.mpr fun e he => ?_⟩
  · rw [(hm e he).1]
    exact nofun
  · rw [(hm e he).2]
    exact nofun

theorem unmarked_nil : Unmarked [] := nofun

theorem unmarked_legs (side : Side) (cover : Cover) (seen : List Leg.Event) :
    Unmarked (seen.map (.leg side cover)) := by
  intro e he
  obtain ⟨event, -, rfl⟩ := List.mem_map.mp he
  exact ⟨rfl, rfl⟩

theorem unmarked_records (records : List Log.Record) : Unmarked (records.map .log) := by
  intro e he
  obtain ⟨record, -, rfl⟩ := List.mem_map.mp he
  exact ⟨rfl, rfl⟩

theorem unmarked_ofRelay (own : List Relay.Event) : Unmarked (own.map ofRelay) := by
  intro e he
  obtain ⟨event, -, rfl⟩ := List.mem_map.mp he
  exact ⟨rfl, rfl⟩

theorem unmarked_ofGateway (cover : Cover) (own : List Gateway.Event) :
    Unmarked (own.map (ofGateway cover)) := by
  intro e he
  obtain ⟨event, -, rfl⟩ := List.mem_map.mp he
  cases event <;> exact ⟨rfl, rfl⟩

theorem traced_legs (side : Side) (cover : Cover) (seen : List Leg.Event) :
    traced (seen.map (.leg side cover)) = [] := by
  simp [traced, Event.isTraced, List.filter_map, Function.comp_def]

theorem traced_ofRelay (own : List Relay.Event) : traced (own.map ofRelay) = [] := by
  simp [traced, Event.isTraced, List.filter_map, Function.comp_def, ofRelay]

/-- What the end of a handler adds is one record, if a fault has ended it. -/
theorem tally_finish (h : Handler) (inbound : Leg) (outbound : Option Leg) (ending : Ending Unit)
    (events : List Event) :
    dials (h.finish inbound outbound ending events).2 = dials events ∧
      signals (h.finish inbound outbound ending events).2 = signals events ∧
      traced (h.finish inbound outbound ending events).2 =
        traced events ++
          (ending.faultName?.map (h.noteUnexpected "forwarding connection")).toList := by
  obtain ⟨hdials, hsignals⟩ :=
    (unmarked_legs .inbound inbound.cover inbound.closeEvents).counts
  have htraced := traced_legs .inbound inbound.cover inbound.closeEvents
  simp only [finish, dials_append, signals_append, traced_append, hdials, hsignals, htraced]
  cases ending.faultName? <;> simp [dials, signals, traced, Event.isDial, Event.isSignal,
    Event.isTraced, noteUnexpected, Log.sayUnexpected]

/-- How a relay ends is told, or it is a fault or a cancellation that passes
on. -/
theorem conclude_cases (h : Handler) (ending : Ending Relay.Outcome) :
    (∃ outcome records, Relay.join h.conn.subject ending = (.returned outcome, records) ∧
        (h.conclude ending).2 = records.map .log ++ [.relayClosed outcome]) ∨
      (∀ outcome, ending ≠ .returned outcome) ∧ h.conclude ending = (ending.void, []) := by
  cases ending with
  | returned outcome => exact Or.inl ⟨outcome, _, rfl, rfl⟩
  | group faults => exact Or.inr ⟨nofun, rfl⟩
  | cancelled => exact Or.inr ⟨nofun, rfl⟩
  | raised fault =>
    cases hkind : fault.kind with
    | relayFailure fromInbound fromOutbound =>
      have hjoin : Relay.join h.conn.subject (.raised fault) =
          (.returned { fromInbound, fromOutbound, fault := some fault },
            [Log.sayOf h.conn.subject .relay .debug
              ("Joined streams error: " ++ fault.message)]) := by
        simp only [Relay.join, hkind]
      exact Or.inl ⟨_, _, hjoin, by simp only [conclude, hjoin]⟩
    | _ =>
      refine Or.inr ⟨fun outcome => by simp, ?_⟩
      simp [conclude, Relay.join, hkind]

/-! ## What has been told so far -/

/-- The record of the fault that has ended a handler of which nothing else has
been told. -/
def unexpected (conn : Inbound) (fault : String) : Event :=
  .log (Log.sayUnexpected .forwarder "Unexpected error while forwarding connection" conn.id fault)

/-- A handler that has dialed, and of which nothing has been told. -/
structure Opened (taken : List Turn) (events : List Event) : Prop where
  begun : begins taken = 1
  dialed : dials events = 1
  untold : signals events = []
  untraced : traced events = []

/-- **What has been told so far.** -/
def Tallied (h : Handler) (taken : List Turn) (events : List Event) : Prop :=
  match h.stage with
  | .starting _ | .dropped _ =>
    begins taken = 0 ∧ dials events = 0 ∧ signals events = [] ∧ traced events = []
  | .dialing _ _ _ | .handshaking _ _ _ _ => Opened taken events
  | .relaying relay => Opened taken events ∧ relay.ending = none ∧
      (relay.cancelled = true → .act .cancel ∈ taken)
  | .answering _ _ => begins taken = 1 ∧ dials events ≤ 1 ∧
      ∃ fault, signals events = [.dialFailed fault]
  | .ended _ _ _ => begins taken = 1 ∧ dials events ≤ 1 ∧ (signals events).length ≤ 1 ∧
      (signals events = [] → .act .cancel ∉ taken →
        ∃ name, traced events = [unexpected h.conn name])

/-- Nothing that counts happens, and the handler goes on. -/
theorem Opened.go (ho : Opened taken events) (act : Act) (hmore : Unmarked more)
    (htraced : traced more = []) : Opened (taken ++ [.act act]) (events ++ more) := by
  obtain ⟨hdials, hsignals⟩ := hmore.counts
  refine ⟨?_, ?_, ?_, ?_⟩
  · rw [begins_concat, ho.begun]
  · rw [dials_append, hdials, ho.dialed]
  · rw [signals_append, hsignals, ho.untold]
    rfl
  · rw [traced_append, htraced, ho.untraced]
    rfl

/-- A handler ends of which something has been told, or that was cancelled. -/
theorem tallied_finish (hbegun : begins taken = 1) (hdials : dials (before ++ own) ≤ 1)
    (hsignals : (signals (before ++ own)).length ≤ 1)
    (htold : signals (before ++ own) ≠ [] ∨ .act .cancel ∈ taken) :
    (h.finish inbound outbound ending own).1.Tallied taken
      (before ++ (h.finish inbound outbound ending own).2) := by
  obtain ⟨hd, hs, -⟩ := h.tally_finish inbound outbound ending own
  rw [dials_append] at hdials
  rw [signals_append] at hsignals htold
  refine ⟨hbegun, ?_, ?_, fun hnone hkept => ?_⟩
  · rw [dials_append, hd]
    exact hdials
  · rw [signals_append, hs]
    exact hsignals
  · rw [signals_append, hs] at hnone
    rcases htold with hsome | hcancel
    · exact absurd hnone hsome
    · exact absurd hcancel hkept

/-- A failed dial is told once, and nothing else is. -/
theorem tally_dialFailed (h : Handler) (inbound : Leg) (outbound : Option Leg) (fault : Fault)
    (hown : Unmarked own) :
    dials (h.dialFailed inbound outbound fault own).2 = 0 ∧
      signals (h.dialFailed inbound outbound fault own).2 = [.dialFailed fault] := by
  obtain ⟨hd, hs⟩ := hown.counts
  have htold : dials (own ++ [h.dialRecord fault, .dialFailed fault]) = 0 ∧
      signals (own ++ [h.dialRecord fault, .dialFailed fault]) = [.dialFailed fault] := by
    rw [dials_append, signals_append, hd, hs]
    unfold dialRecord
    split <;> exact ⟨rfl, rfl⟩
  rcases h.dialFailed_cases inbound outbound fault own with
    ⟨-, -, -, heq⟩ | ⟨-, ending, -, heq⟩
  · rw [heq]
    exact htold
  · obtain ⟨hd', hs', -⟩ := h.tally_finish inbound outbound ending
      (own ++ [h.dialRecord fault, .dialFailed fault])
    rw [heq, hd', hs']
    exact htold

theorem tallied_dialFailed {fault : Fault} (hbegun : begins taken = 1)
    (hdials : dials before ≤ 1) (huntold : signals before = []) (hown : Unmarked own) :
    (h.dialFailed inbound outbound fault own).1.Tallied taken
      (before ++ (h.dialFailed inbound outbound fault own).2) := by
  obtain ⟨hd, hs⟩ := h.tally_dialFailed inbound outbound fault hown
  have hall : dials (before ++ (h.dialFailed inbound outbound fault own).2) ≤ 1 ∧
      signals (before ++ (h.dialFailed inbound outbound fault own).2) = [.dialFailed fault] := by
    rw [dials_append, signals_append, hd, hs, huntold]
    exact ⟨hdials, rfl⟩
  rcases h.dialFailed_cases inbound outbound fault own with
    ⟨-, -, -, heq⟩ | ⟨-, ending, -, heq⟩
  · rw [heq] at hall ⊢
    exact ⟨hbegun, hall.1, fault, hall.2⟩
  · rw [heq] at hall ⊢
    refine ⟨hbegun, hall.1, ?_, fun hnone => ?_⟩
    · rw [hall.2]
      exact Nat.le_refl 1
    · rw [hall.2] at hnone
      cases hnone

theorem tallied_established {leg : Leg} {peer : Option String} {act : Act}
    (ho : Opened taken events) (hown : Unmarked own) (htraced : traced own = []) :
    (h.established inbound leg peer own).1.Tallied (taken ++ [.act act])
      (events ++ (h.established inbound leg peer own).2) := by
  refine ⟨ho.go act (fun e he => ?_) ?_, rfl, nofun⟩
  · rcases List.mem_append.mp he with hmem | hlast
    · exact hown e hmem
    · rw [List.mem_singleton.mp hlast]
      exact ⟨rfl, rfl⟩
  · rw [established, traced_append, htraced]
    rfl

/-- Something happens to a leg from outside. -/
theorem tallied_peer {side : Side} {leg : Leg} (ht : h.Tallied taken events)
    (hleg : h.leg? side = some leg) (act : Leg.Act) :
    (h.withLeg side (leg.apply act).1).Tallied (taken ++ [.act (.peer side act)])
      (events ++ (leg.apply act).2.map (.leg side leg.cover)) := by
  have hmore := unmarked_legs side leg.cover (leg.apply act).2
  have htraced := traced_legs side leg.cover (leg.apply act).2
  obtain ⟨hd, hs⟩ := hmore.counts
  unfold Tallied at ht
  cases hstage : h.stage with
  | starting | dropped =>
    simp only [hstage] at ht
    cases side <;>
      simpa [withLeg, hstage, Tallied, hd, hs, htraced] using ht
  | dialing | handshaking =>
    simp only [hstage] at ht
    cases side <;> simpa [withLeg, hstage, Tallied] using ht.go (.peer _ act) hmore htraced
  | relaying relay =>
    simp only [hstage] at ht
    simp only [withLeg, hstage, Tallied]
    exact ⟨ht.1.go _ hmore htraced, ht.2.1, fun hc => List.mem_append_left _ (ht.2.2 hc)⟩
  | answering gateway outbound =>
    simp only [hstage] at ht
    cases side <;> cases outbound <;>
      simpa [withLeg, hstage, Tallied, hd, hs] using ht
  | ended inbound outbound ending =>
    simp only [hstage] at ht
    cases side <;> cases outbound <;>
      simpa [withLeg, hstage, Tallied, hd, hs, htraced] using ht

/-- A relay ends by closing its legs, and in no other way. -/
theorem closing_of_relay {relay : Relay} {own : Relay.Act} {step : Relay × List Relay.Event}
    {ending : Ending Relay.Outcome} (hstep : relay.step own = some step)
    (hopen : relay.ending = none) (hended : step.1.ending = some ending) :
    step = relay.closeLegs ∧ ending = relay.endingOf := by
  obtain ⟨-, -, hsame | ⟨-, hclose⟩⟩ := Relay.frame_step (Relay.passage_of_step hstep)
  · rw [hsame, hopen] at hended
    cases hended
  · rw [hclose, (Relay.closeLegs_frame relay).1, Option.some.injEq] at hended
    exact ⟨hclose, hended.symm⟩

/-- A relay that ends unexpectedly, or tells that it is closed. -/
theorem tallied_withRelay {relay : Relay} {act : Act} {own : Relay.Act}
    {step : Relay × List Relay.Event} (ho : Opened taken events) (hopen : relay.ending = none)
    (hcancelled : relay.cancelled = true → .act .cancel ∈ taken) (hown : act.onRelay = some own)
    (hstep : relay.step own = some step) :
    (h.withRelay step).1.Tallied (taken ++ [.act act]) (events ++ (h.withRelay step).2) := by
  obtain ⟨-, hkept, -⟩ := Relay.frame_step (Relay.passage_of_step hstep)
  have hnext := ho.go act (unmarked_ofRelay step.2) (traced_ofRelay step.2)
  rcases h.withRelay_cases step.1 step.2 with ⟨hstill, heq⟩ | ⟨ending, hended, heq⟩
  · rw [heq]
    refine ⟨hnext, hstill, fun hnow => ?_⟩
    by_cases hact : act = .cancel
    · exact List.mem_append_right _ (by simp [hact])
    · rw [hkept (Act.onRelay_ne_cancel hown hact)] at hnow
      exact List.mem_append_left _ (hcancelled hnow)
  · rw [heq]
    rcases h.conclude_cases ending with ⟨outcome, records, -, hsaid⟩ | ⟨hnot, hconclude⟩
    · -- its end is told
      obtain ⟨hdials, hsignals⟩ := (unmarked_records records).counts
      have hsaid' : dials (h.conclude ending).2 = 0 ∧
          signals (h.conclude ending).2 = [.relayClosed outcome] := by
        rw [hsaid, dials_append, signals_append, hdials, hsignals]
        exact ⟨rfl, rfl⟩
      have hall : dials (events ++ (step.2.map ofRelay ++ (h.conclude ending).2)) = 1 ∧
          signals (events ++ (step.2.map ofRelay ++ (h.conclude ending).2)) =
            [.relayClosed outcome] := by
        rw [← List.append_assoc, dials_append, signals_append, hnext.dialed, hnext.untold,
          hsaid'.1, hsaid'.2]
        exact ⟨rfl, rfl⟩
      refine tallied_finish hnext.begun (Nat.le_of_eq hall.1) ?_ (Or.inl ?_)
      · rw [hall.2]
        exact Nat.le_refl 1
      · rw [hall.2]
        exact nofun
    · -- nothing is told but the fault, unless the relay was cancelled
      rw [hconclude, List.append_nil]
      obtain ⟨hd, hs, ht⟩ := h.tally_finish step.1.legs.inbound (some step.1.legs.outbound)
        ending.void (step.2.map ofRelay)
      refine ⟨hnext.begun, Nat.le_of_eq ?_, ?_, fun _ hkeep => ?_⟩
      · rw [dials_append, hd, ← dials_append, hnext.dialed]
      · rw [signals_append, hs, ← signals_append, hnext.untold]
        exact Nat.zero_le 1
      · rw [traced_append, ht, ← List.append_assoc, ← traced_append, hnext.untraced]
        have hspared : relay.cancelled = false := by
          rw [Bool.eq_false_iff]
          exact fun hc => hkeep (List.mem_append_left _ (hcancelled hc))
        have hnever : ending.isCancelled = false := by
          rw [(closing_of_relay hstep hopen hended).2]
          exact Relay.isCancelled_endingOf hspared
        cases ending with
        | returned outcome => exact absurd rfl (hnot outcome)
        | cancelled => cases hnever
        | raised fault => exact ⟨fault.kind.name, rfl⟩
        | group faults =>
          have hname : (Ending.group faults : Ending Relay.Outcome).void.faultName? =
              some Ending.groupName := by
            simp [Ending.void, Ending.faultName?, show faults.cancelled = false from hnever]
          exact ⟨Ending.groupName, by rw [hname]; rfl⟩

/-- **Every turn keeps the tally.** -/
theorem tallied_step (ht : h.Tallied taken events) (hp : Passage h t result) :
    result.1.Tallied (taken ++ [t]) (events ++ result.2) := by
  unfold Tallied at ht
  cases hp with
  | peer hleg => exact tallied_peer ht hleg _
  | unresolved hstage =>
    simp only [hstage] at ht
    obtain ⟨hbegun, hdials, huntold, -⟩ := ht
    refine tallied_dialFailed ?_ (by omega) huntold nofun
    rw [begins_append, hbegun]
    rfl
  | dial hstage =>
    simp only [hstage] at ht
    obtain ⟨hbegun, hdials, huntold, huntraced⟩ := ht
    refine ⟨?_, ?_, ?_, ?_⟩
    · rw [begins_append, hbegun]
      rfl
    · rw [dials_append, hdials]
      rfl
    · rw [signals_append, huntold]
      rfl
    · rw [traced_append, huntraced]
      rfl
  | refused hstage | unnamed hstage =>
    simp only [hstage] at ht
    exact tallied_dialFailed ((begins_concat _ _).trans ht.begun) (Nat.le_of_eq ht.dialed) ht.untold
      nofun
  | connected hstage =>
    simp only [hstage] at ht
    exact tallied_established ht nofun rfl
  | covered hstage =>
    simp only [hstage] at ht
    exact ht.go _ (by simp [Unmarked, Event.isDial, Event.isSignal]) rfl
  | @uncovered inbound transport guard delivery fault hstage =>
    simp only [hstage] at ht
    have hbegun := (begins_concat taken (.delivered (.ok delivery))).trans ht.begun
    refine tallied_dialFailed hbegun (Nat.le_of_eq ht.dialed) ht.untold fun e he => ?_
    rcases List.mem_cons.mp he with rfl | hdiscarded
    · exact ⟨rfl, rfl⟩
    · exact unmarked_legs .outbound _ _ e hdiscarded
  | shaken hstage =>
    simp only [hstage] at ht
    exact tallied_established ht (by simp [Unmarked, Event.isDial, Event.isSignal]) rfl
  | unshaken hstage | cancelFailed hstage =>
    simp only [hstage] at ht
    exact tallied_dialFailed ((begins_concat _ _).trans ht.begun) (Nat.le_of_eq ht.dialed) ht.untold
      (unmarked_legs .outbound _ _)
  | cancelDial hstage =>
    simp only [hstage] at ht
    have hnext := ht.go .cancel unmarked_nil rfl
    exact tallied_finish hnext.begun (Nat.le_of_eq hnext.dialed)
      (by rw [hnext.untold]; exact Nat.zero_le 1) (Or.inr (by simp))
  | @cancelHandshake inbound outbound guard peer hstage =>
    simp only [hstage] at ht
    have hnext := ht.go .cancel (unmarked_legs .outbound outbound.cover outbound.closeEvents)
      (traced_legs _ _ _)
    exact tallied_finish hnext.begun (Nat.le_of_eq hnext.dialed)
      (by rw [show events ++ discarded outbound = _ from rfl, discarded, hnext.untold]
          exact Nat.zero_le 1) (Or.inr (by simp))
  | relay hstage hown hstep =>
    simp only [hstage] at ht
    exact tallied_withRelay ht.1 ht.2.1 ht.2.2 hown hstep
  | @gateway gateway outbound act own result hstage hown hstep =>
    simp only [hstage] at ht
    obtain ⟨hbegun, hdials, fault, htold⟩ := ht
    obtain ⟨hd, hs⟩ := (unmarked_ofGateway result.1.leg.cover result.2).counts
    have hnext : begins (taken ++ [.act act]) = 1 := (begins_concat _ _).trans hbegun
    have hall : dials (events ++ result.2.map (ofGateway result.1.leg.cover)) ≤ 1 ∧
        signals (events ++ result.2.map (ofGateway result.1.leg.cover)) = [.dialFailed fault] := by
      rw [dials_append, signals_append, hd, hs, htold]
      exact ⟨hdials, rfl⟩
    rcases h.withGateway_cases outbound result.1 result.2 with ⟨-, heq⟩ | ⟨ending, -, heq⟩
    · rw [heq]
      exact ⟨hnext, hall.1, fault, hall.2⟩
    · rw [heq]
      refine tallied_finish hnext hall.1 ?_ (Or.inl ?_)
      · rw [hall.2]
        exact Nat.le_refl 1
      · rw [hall.2]
        exact nofun

/-- **So does the whole life of a handler.** -/
theorem tallied_run {conn : Inbound} {leg : Leg} {receivers : Receivers}
    (h' : (life platform url).run (accepted conn leg receivers) taken = some (h, events)) :
    h.Tallied taken events := by
  refine Machine.run_induction (P := fun k taken events => k.Tallied taken events) ?_ ?_ h'
  · unfold accepted
    split <;> exact ⟨rfl, rfl, rfl, rfl⟩
  · intro k next t taken events more _ hk hstep
    exact tallied_step hk (passage_of_turn hstep)

/-! ## What is told of a relay -/

/-- A fault that joining the legs keeps as an outcome is a failure of a relay,
with the numbers of the outcome. -/
theorem kind_of_join {subject : Log.Subject} {fault : Fault}
    (hjoin : (Relay.join subject (.raised fault)).1 = .returned outcome) :
    fault.kind = .relayFailure outcome.fromInbound outcome.fromOutbound := by
  cases hkind : fault.kind with
  | relayFailure fromInbound fromOutbound =>
    simp only [Relay.join, hkind] at hjoin
    obtain rfl := Ending.returned.inj hjoin
    rfl
  | _ => simp [Relay.join, hkind] at hjoin

/-- The close of the inbound leg has not failed, unless it gave what a relay
takes for its own failure. -/
theorem unfailed_of_join {r : Relay} {subject : Log.Subject}
    (hjoin : (Relay.join subject r.endingOf).1 = .returned outcome)
    (hin : r.legs.inbound.Blameless) : r.legs.inbound.closeFault? = none := by
  cases hclose : r.legs.inbound.closeFault? with
  | none => rfl
  | some fault =>
    have hkind : fault.kind = _ := kind_of_join (by simpa [Relay.endingOf, hclose] using hjoin)
    exact absurd hkind (hin fault (Leg.closeFault_of_closeFault? hclose) _ _)

/-- **What a relay returns.** If no close gives what the relay takes for its own
failure, the numbers are those of the bytes moved. -/
theorem exact_of_join {r : Relay} {subject : Log.Subject}
    (hjoin : (Relay.join subject r.endingOf).1 = .returned outcome)
    (hlegs : ∀ side, (r.legs.get side).Blameless) :
    outcome.fromInbound = .int r.moved.inbound ∧ outcome.fromOutbound = .int r.moved.outbound := by
  cases hclose : r.legs.inbound.closeFault?.or r.legs.outbound.closeFault? with
  | some fault =>
    have hkind : fault.kind = _ := kind_of_join (by simpa [Relay.endingOf, hclose] using hjoin)
    rcases Option.or_eq_some_iff.mp hclose with hin | ⟨-, hout⟩
    · exact absurd hkind (hlegs .inbound fault (Leg.closeFault_of_closeFault? hin) _ _)
    · exact absurd hkind (hlegs .outbound fault (Leg.closeFault_of_closeFault? hout) _ _)
  | none =>
    have hconcludes := Relay.concludes_endingOf hclose
    generalize r.endingOf = ending at hconcludes hjoin
    cases hconcludes with
    | crashed | cancelled => simp [Relay.join] at hjoin
    | returned =>
      obtain rfl := Ending.returned.inj hjoin
      exact ⟨rfl, rfl⟩
    | @failed fault faults =>
      have hkind : (r.failureOf fault).kind = _ := kind_of_join hjoin
      obtain ⟨hin, hout⟩ := Fault.Kind.relayFailure.inj hkind
      exact ⟨hin.symm, hout.symm⟩

/-- A relay whose legs can be closed has closed them. -/
theorem closed_of_unheld {r : Relay} (hin : r.legs.inbound.closeFault? = none)
    (hlegs : ∀ side, (r.legs.get side).closeHeld = false) (side : Side) :
    (r.closeLegs.1.legs.get side).closed = true := by
  have hside := hlegs side
  simp only [Relay.closeLegs, hin]
  cases side <;> simp_all [Both.get, Leg.closeNow]

/-- **The turn that closes a relay** and tells of it. -/
structure Closing (h : Handler) (relay : Relay) (own : Relay.Act) (records : List Log.Record)
    (outcome : Relay.Outcome) (result : Handler × List Event) : Prop where
  stage : h.stage = .relaying relay
  passage : Relay.Passage relay own relay.closeLegs
  joined : Relay.join h.conn.subject relay.endingOf = (.returned outcome, records)
  result : result = h.finish relay.closeLegs.1.legs.inbound (some relay.closeLegs.1.legs.outbound)
    (h.conclude relay.endingOf).1
    (relay.closeLegs.2.map ofRelay ++ (records.map .log ++ [.relayClosed outcome]))

/-- Where nothing counts, nothing is told of a relay. -/
theorem Unmarked.unreported (hm : Unmarked events) : .relayClosed outcome ∉ signals events := by
  rw [hm.counts.2]
  exact List.not_mem_nil

/-- A dial that has failed tells nothing of a relay. -/
theorem unreported_dialFailed {fault : Fault} (hown : Unmarked own) :
    .relayClosed outcome ∉ signals (h.dialFailed inbound outbound fault own).2 := by
  rw [(h.tally_dialFailed inbound outbound fault hown).2, List.mem_singleton]
  exact nofun

/-- Neither does the end of a handler by itself. -/
theorem unreported_finish (hown : Unmarked own) :
    .relayClosed outcome ∉ signals (h.finish inbound outbound ending own).2 := by
  rw [(h.tally_finish inbound outbound ending own).2.1]
  exact hown.unreported

/-- A step of the relay that tells of it has closed it. -/
theorem closing_of_withRelay {relay : Relay} {own : Relay.Act} {step : Relay × List Relay.Event}
    (hstage : h.stage = .relaying relay) (hopen : relay.ending = none)
    (hstep : relay.step own = some step)
    (hsignal : .relayClosed outcome ∈ signals (h.withRelay step).2) :
    ∃ records, Closing h relay own records outcome (h.withRelay step) := by
  have hunmarked := unmarked_ofRelay step.2
  rcases h.withRelay_cases step.1 step.2 with ⟨-, heq⟩ | ⟨ending, hended, heq⟩
  · rw [heq] at hsignal
    exact absurd hsignal hunmarked.unreported
  · obtain ⟨rfl, rfl⟩ := closing_of_relay hstep hopen hended
    rw [heq, (h.tally_finish _ _ _ _).2.1, signals_append, hunmarked.counts.2] at hsignal
    rcases h.conclude_cases relay.endingOf with ⟨other, records, hjoin, hsaid⟩ | ⟨-, hsaid⟩
    · rw [hsaid, signals_append, (unmarked_records records).counts.2] at hsignal
      obtain rfl : outcome = other := by simpa [signals, Event.isSignal] using hsignal
      refine ⟨records, hstage, Relay.passage_of_step hstep, hjoin, ?_⟩
      rw [heq, hsaid]
    · rw [hsaid] at hsignal
      cases hsignal

/-- **A relay is said to be closed by the turn that closes it**, and by no
other. -/
theorem closing_of_passage (hopen : ∀ relay, h.stage = .relaying relay → relay.ending = none)
    (hp : Passage h t result) (hmem : .relayClosed outcome ∈ result.2) :
    ∃ relay own records, Closing h relay own records outcome result := by
  have hsignal : .relayClosed outcome ∈ signals result.2 := List.mem_filter.mpr ⟨hmem, rfl⟩
  cases hp with
  | @relay relay act own result hstage hown hstep =>
    obtain ⟨records, hclosing⟩ := closing_of_withRelay hstage (hopen relay hstage) hstep hsignal
    exact ⟨relay, own, records, hclosing⟩
  -- all other turns say nothing of the kind
  | peer => exact absurd hsignal (unmarked_legs _ _ _).unreported
  | unresolved | refused | unnamed => exact absurd hsignal (unreported_dialFailed unmarked_nil)
  | dial | covered | connected | shaken =>
    simp [signals, established, Event.isSignal, note] at hsignal
  | @uncovered _ _ _ delivery =>
    refine absurd hsignal (unreported_dialFailed fun e he => ?_)
    rcases List.mem_cons.mp he with rfl | hdiscarded
    · exact ⟨rfl, rfl⟩
    · exact unmarked_legs .outbound _ _ e hdiscarded
  | unshaken | cancelFailed =>
    exact absurd hsignal (unreported_dialFailed (unmarked_legs .outbound _ _))
  | cancelDial => exact absurd hsignal (unreported_finish unmarked_nil)
  | cancelHandshake => exact absurd hsignal (unreported_finish (unmarked_legs .outbound _ _))
  | @gateway gateway outbound act own result hstage hown hstep =>
    have hunmarked := unmarked_ofGateway result.1.leg.cover result.2
    rcases h.withGateway_cases outbound result.1 result.2 with ⟨-, heq⟩ | ⟨ending, -, heq⟩
    · rw [heq] at hsignal
      exact absurd hsignal hunmarked.unreported
    · rw [heq] at hsignal
      exact absurd hsignal (unreported_finish hunmarked)

/-- While nothing has been told of a relay, or it has ended. -/
theorem ended_of_report (ht : h.Tallied taken events) (hmem : .relayClosed outcome ∈ events) :
    ∃ inbound outbound ending, h.stage = .ended inbound outbound ending := by
  have hsignal : .relayClosed outcome ∈ signals events := List.mem_filter.mpr ⟨hmem, rfl⟩
  unfold Tallied at ht
  cases hstage : h.stage with
  | ended inbound outbound ending => exact ⟨inbound, outbound, ending, rfl⟩
  | starting | dropped =>
    simp only [hstage] at ht
    rw [ht.2.2.1] at hsignal
    cases hsignal
  | dialing | handshaking =>
    simp only [hstage] at ht
    rw [ht.untold] at hsignal
    cases hsignal
  | relaying =>
    simp only [hstage] at ht
    rw [ht.1.untold] at hsignal
    cases hsignal
  | answering =>
    simp only [hstage] at ht
    obtain ⟨-, -, fault, htold⟩ := ht
    rw [htold, List.mem_singleton] at hsignal
    cases hsignal

/-- A leg of a side that came closed: with the connection, or from its dial. -/
def CameShut (start : Handler) (taken : List Turn) (side : Side) : Prop :=
  (∃ first, start.leg? side = some first ∧ first.closed = true) ∨
    side = .outbound ∧ ∃ delivery ∈ taken.filterMap Turn.delivery?, delivery.leg.closed = true

/-- **What is told of a relay is right**, at the moment it is told: the numbers
are those of the bytes written, and both legs have been closed, unless they came
so. -/
structure Report (start h : Handler) (taken : List Turn) (before events : List Event)
    (outcome : Relay.Outcome) : Prop where
  exact : (∀ side leg, h.leg? side = some leg → leg.Blameless) →
    outcome.fromInbound = .int (writtenOn .outbound events).length ∧
      outcome.fromOutbound = .int (writtenOn .inbound events).length
  shut : (∀ leg, h.leg? .inbound = some leg → leg.Blameless) →
    (∀ side leg, h.leg? side = some leg → leg.closeHeld = false) →
      ∀ side, CameShut start taken side ∨ ∃ cover, .leg side cover .closed ∈ before

theorem CameShut.later {start : Handler} {side : Side} (hc : CameShut start taken side)
    (t : Turn) : CameShut start (taken ++ [t]) side := by
  rcases hc with hfirst | ⟨hside, delivery, hmem, hclosed⟩
  · exact Or.inl hfirst
  · refine Or.inr ⟨hside, delivery, ?_, hclosed⟩
    rw [List.filterMap_append]
    exact List.mem_append_left _ hmem

/-- Only its peers have a turn at a handler that has ended. -/
theorem peer_of_ended (hstage : h.stage = .ended inbound outbound ending)
    (hp : Passage h t result) :
    ∃ side act leg, h.leg? side = some leg ∧
      result = (h.withLeg side (leg.apply act).1, (leg.apply act).2.map (.leg side leg.cover)) := by
  cases hp with
  | @peer side act leg hleg => exact ⟨side, act, leg, hleg, rfl⟩
  | unresolved hother | dial hother | refused hother | unnamed hother | connected hother
  | covered hother | uncovered hother | shaken hother | unshaken hother | cancelDial hother
  | cancelHandshake hother | cancelFailed hother | relay hother | gateway hother =>
    rw [hstage] at hother
    cases hother

/-- What happens later to the legs of a handler that has ended leaves its report
as it is. -/
theorem Report.later {start next : Handler} (hr : Report start h taken before events outcome)
    (hlegs : ∀ side leg, h.leg? side = some leg →
      ∃ leg', next.leg? side = some leg' ∧ leg'.ClosesLike leg)
    (hmore : ∀ side, writtenOn side more = []) (t : Turn) :
    Report start next (taken ++ [t]) before (events ++ more) outcome := by
  refine ⟨fun hfine => ?_, fun hin hheld side => ?_⟩
  · rw [writtenOn_append, writtenOn_append, hmore, hmore, List.append_nil, List.append_nil]
    refine hr.exact fun side leg hleg => ?_
    obtain ⟨leg', hleg', hlike⟩ := hlegs side leg hleg
    exact (hfine side leg' hleg').of_like hlike
  · refine (hr.shut (fun leg hleg => ?_) (fun side leg hleg => ?_) side).imp_left (·.later t)
    · obtain ⟨leg', hleg', hlike⟩ := hlegs .inbound leg hleg
      exact (hin leg' hleg').of_like hlike
    · obtain ⟨leg', hleg', hlike⟩ := hlegs side leg hleg
      exact hlike.held.symm.trans (hheld side leg' hleg')

namespace Closing

variable {start : Handler} {relay : Relay} {own : Relay.Act} {records : List Log.Record}

/-- How the legs close has not changed since they were relayed. -/
theorem like (hc : Closing h relay own records outcome result) (side : Side) :
    ∃ leg, result.1.leg? side = some leg ∧ leg.ClosesLike (relay.legs.get side) := by
  have hboth := Relay.closesLike_closeLegs relay side
  rw [hc.result]
  cases side with
  | inbound => exact ⟨_, rfl, (Leg.closesLike_closeNow _).trans hboth⟩
  | outbound => exact ⟨_, rfl, hboth⟩

theorem blameless (hc : Closing h relay own records outcome result) {side : Side}
    (hfine : ∀ leg, result.1.leg? side = some leg → leg.Blameless) :
    (relay.legs.get side).Blameless := by
  obtain ⟨leg, hleg, hsame⟩ := hc.like side
  exact (hfine leg hleg).of_like hsame

/-- The numbers that are told are those of the bytes written before, for closing
the legs writes nothing. -/
theorem exact (hc : Closing h relay own records outcome result)
    (hconserves : relay.Conserves (Ledger.of start taken events).sent
      (Ledger.of start taken events).written)
    (hfine : ∀ side leg, result.1.leg? side = some leg → leg.Blameless) :
    outcome.fromInbound = .int (writtenOn .outbound (events ++ result.2)).length ∧
      outcome.fromOutbound = .int (writtenOn .inbound (events ++ result.2)).length := by
  have hreturned : (Relay.join h.conn.subject relay.endingOf).1 = .returned outcome := by
    rw [hc.joined]
  obtain ⟨hfrom, hback⟩ := exact_of_join hreturned fun side => hc.blameless (hfine side)
  have hquiet (side : Side) : writtenOn side result.2 = [] := by
    have hsaid : writtenOn side (records.map .log ++ [.relayClosed outcome]) = [] := by
      simp [writtenOn, Event.writtenOn, List.flatMap_map]
    rw [hc.result, writtenOn_finish, writtenOn_append, writtenOn_ofRelay, hsaid,
      Relay.written_closeLegs relay side, List.append_nil]
  rw [writtenOn_append, writtenOn_append, hquiet, hquiet, List.append_nil, List.append_nil,
    hfrom, hback]
  have hcounted (side : Side) := (hconserves side).counted
  exact ⟨congrArg (fun n : Nat => Value.int n) (hcounted .inbound),
    congrArg (fun n : Nat => Value.int n) (hcounted .outbound)⟩

/-- What comes before the signal is all that was seen of the legs. -/
theorem before_signal (hc : Closing h relay own records outcome result) {after : List Event}
    (huntold : .relayClosed outcome ∉ events)
    (hsplit : events ++ result.2 = before ++ .relayClosed outcome :: after) :
    events ++ relay.closeLegs.2.map ofRelay <+: before := by
  rw [hc.result, finish, List.append_assoc, List.append_assoc, ← List.append_assoc] at hsplit
  rcases split_append hsplit with ⟨tail, htail⟩ | ⟨hlonger, -⟩
  · have hmem : .relayClosed outcome ∈ events ++ relay.closeLegs.2.map ofRelay := by
      rw [htail]
      exact List.mem_append_right _ List.mem_cons_self
    rcases List.mem_append.mp hmem with hevent | hlegs
    · exact absurd hevent huntold
    · obtain ⟨event, -, heq⟩ := List.mem_map.mp hlegs
      cases heq
  · exact hlonger

/-- Both legs have been closed then, unless they came so. -/
theorem shut (hc : Closing h relay own records outcome result)
    (hrun : (life platform url).run start taken = some (h, events))
    (hbefore : events ++ relay.closeLegs.2.map ofRelay <+: before)
    (hin : ∀ leg, result.1.leg? .inbound = some leg → leg.Blameless)
    (hheld : ∀ side leg, result.1.leg? side = some leg → leg.closeHeld = false) (side : Side) :
    CameShut start taken side ∨ ∃ cover, .leg side cover .closed ∈ before := by
  have hunfailed : relay.legs.inbound.closeFault? = none :=
    unfailed_of_join (by rw [hc.joined]) (hc.blameless hin)
  have hfree (side : Side) : (relay.legs.get side).closeHeld = false := by
    obtain ⟨leg, hleg, hsame⟩ := hc.like side
    exact hsame.held.symm.trans (hheld side leg hleg)
  rcases Relay.closed_of_passage hc.passage (closed_of_unheld hunfailed hfree side) with
    hclosed | ⟨cover, hevent⟩
  · have hleg : h.leg? side = some (relay.legs.get side) := by simp [leg?, hc.stage]
    rcases shows_run hrun hleg hclosed with hfirst | ⟨hside, hdelivered⟩ | ⟨cover, hevent⟩
    · exact Or.inl (Or.inl hfirst)
    · exact Or.inl (Or.inr ⟨hside, hdelivered⟩)
    · exact Or.inr ⟨cover, hbefore.subset (List.mem_append_left _ hevent)⟩
  · exact Or.inr ⟨cover, hbefore.subset (List.mem_append_right _ (List.mem_map_of_mem hevent))⟩

end Closing

/-- **The report of the turn that closes a relay** is right. -/
theorem report_of_closing {start : Handler} {relay : Relay} {own : Relay.Act}
    {records : List Log.Record} {after : List Event}
    (hc : Closing h relay own records outcome result)
    (hrun : (life platform url).run start taken = some (h, events))
    (hconserves : relay.Conserves (Ledger.of start taken events).sent
      (Ledger.of start taken events).written)
    (huntold : .relayClosed outcome ∉ events)
    (hsplit : events ++ result.2 = before ++ .relayClosed outcome :: after) (t : Turn) :
    Report start result.1 (taken ++ [t]) before (events ++ result.2) outcome where
  exact := hc.exact hconserves
  shut hin hheld side :=
    (hc.shut hrun (hc.before_signal huntold hsplit) hin hheld side).imp_left (·.later t)

/-- **Every report of a handler's life is right.** -/
theorem report_run {conn : Inbound} {leg : Leg} {receivers : Receivers}
    (h' : (life platform url).run (accepted conn leg receivers) taken = some (h, events))
    {after : List Event} (hsplit : events = before ++ .relayClosed outcome :: after) :
    Report (accepted conn leg receivers) h taken before events outcome := by
  refine Machine.run_induction (P := fun k taken events => ∀ before after,
    events = before ++ .relayClosed outcome :: after →
      Report (accepted conn leg receivers) k taken before events outcome) ?_ ?_ h' before after
    hsplit
  · intro before after hsplit
    simp at hsplit
  · intro k next t taken events more hrun hk hstep before after hsplit
    have htallied := tallied_run hrun
    have hp := passage_of_turn hstep
    by_cases htold : .relayClosed outcome ∈ events
    · -- the handler has ended before, and only its peers go on
      obtain ⟨inbound, outbound, ending, hstage⟩ := ended_of_report htallied htold
      obtain ⟨side, act, leg, hleg, heq⟩ := peer_of_ended hstage hp
      obtain ⟨rfl, rfl⟩ := Prod.mk.inj heq
      have hquiet : .relayClosed outcome ∉ (leg.apply act).2.map (Event.leg side leg.cover) := by
        intro hmem
        cases (unmarked_legs side leg.cover _ _ hmem).2
      obtain ⟨rest, hevents⟩ := (split_append hsplit).resolve_right fun hlast => hquiet hlast.2
      refine (hk before rest hevents).later (fun s own hown => ?_)
        (silent_apply leg act side leg.cover).written _
      obtain ⟨hsame, hother⟩ := leg?_withLeg hleg (leg.apply act).1
      rcases Side.eq_or_eq_other side s with rfl | rfl
      · obtain rfl : leg = own := Option.some.inj (hleg.symm.trans hown)
        exact ⟨_, hsame, Leg.closesLike_apply _ _⟩
      · exact ⟨own, hother.trans hown, .refl _⟩
    · have hmem : .relayClosed outcome ∈ more := by
        have hall : .relayClosed outcome ∈ events ++ more := by
          rw [hsplit]
          exact List.mem_append_right _ List.mem_cons_self
        exact (List.mem_append.mp hall).resolve_left htold
      have hopen (relay : Relay) (hstage : k.stage = .relaying relay) : relay.ending = none := by
        unfold Tallied at htallied
        simp only [hstage] at htallied
        exact htallied.2.1
      obtain ⟨relay, own, records, hclosing⟩ := closing_of_passage hopen hp hmem
      have hbalanced := balanced_run hrun
      simp only [Balanced, hclosing.stage] at hbalanced
      exact report_of_closing hclosing hrun hbalanced.1 htold hsplit t

end Handler

end TunnelRelay
