import TunnelRelay.Proofs.Meetings
/-!
# How a relay ends

A relay stops as soon as it is cancelled or one of its pumps has ended, and
needs nobody else to come to its end then: each of its own actions leaves it one
thing less to do (`left_step`), and one that waits for no peer is always at hand
(`stepAny_stopping`). Its accounts tell what the ending is: it returns if a
direction is done, fails if a read or a write has failed, and joins the legs
with the same counts in either case (`Ends`).
-/

namespace TunnelRelay

namespace Relay

variable {r next : Relay} {act : Act} {acts later : List Act} {events shown : List Event}
variable {result : Relay × List Event} {legs : Both Leg} {side : Side} {ending : Ending Outcome}
variable {seen : List (Side × Meeting)} {meeting : Meeting}

/-! ## Coming to an end -/

/-- Whether an action is one that the relay makes by itself. -/
def Act.isOwn : Act → Bool
  | .advance _ | .abandon _ | .close => true
  | .peer _ _ | .cancel => false

/-- Whether an action only stops a relay; none of these waits for a peer. -/
def Act.isStop : Act → Bool
  | .abandon _ | .close => true
  | .peer _ _ | .advance _ | .cancel => false

/-- One for a pump that has not ended. -/
def Pump.left (pump : Pump) : Nat := if pump = .ended then 0 else 1

/-- The number of things that are left to a relay that stops: to end its pumps,
and to close its legs. -/
def left (r : Relay) : Nat :=
  r.pumps.inbound.left + r.pumps.outbound.left + if r.ending.isSome then 0 else 1

theorem left_le (r : Relay) : r.left ≤ 3 := by
  unfold left Pump.left
  split <;> split <;> split <;> omega

/-- A pump that ends is one thing less. -/
theorem left_set (hpump : r.pumps.get side ≠ .ended)
    (hpumps : next.pumps = r.pumps.set side .ended) (hending : next.ending = r.ending) :
    next.left + 1 = r.left := by
  have hzero : Pump.ended.left = 0 := rfl
  cases side with
  | inbound =>
    have hone : r.pumps.inbound.left = 1 := if_neg hpump
    simp only [left, hpumps, hending, Both.set, hone, hzero]
    omega
  | outbound =>
    have hone : r.pumps.outbound.left = 1 := if_neg hpump
    simp only [left, hpumps, hending, Both.set, hone, hzero]
    omega

/-- A pump that has been told to stop makes no more than one step. -/
theorem ended_of_pumps (hstop : r.stopping = true) (hp : Pumps r side meeting result) :
    r.pumps.get side ≠ .ended ∧ result.1.pumps = r.pumps.set side .ended ∧
      result.1.ending = r.ending := by
  cases hp with
  | last hpump | unread hpump | unsent hpump => simp [hpump, endPump]
  | chunk hpump | wrote hpump => simp [hpump, continuePump, hstop]

/-- **Every own action of a relay that stops leaves it one thing less.** -/
theorem left_step (hstop : r.stopping = true) (hstep : r.step act = some result) :
    result.1.left + (if act.isOwn then 1 else 0) = r.left := by
  cases act with
  | peer side own =>
    obtain rfl := Option.some.inj hstep
    rfl
  | cancel =>
    cases passage_of_step hstep with
    | cancel => rfl
  | abandon side =>
    obtain ⟨-, hpump, rfl⟩ := abandon_cases hstep
    exact left_set hpump rfl rfl
  | advance side =>
    obtain ⟨meeting, -, hpumps⟩ := pumps_of_advance hstep
    obtain ⟨hpump, hended, hsame⟩ := ended_of_pumps hstop hpumps
    exact left_set hpump hended hsame
  | close =>
    cases passage_of_step hstep with
    | close _ hnone =>
      obtain ⟨hended, hpumps, -⟩ := closeLegs_frame r
      simp [left, hended, hpumps, hnone, Act.isOwn]

theorem left_run (hstop : r.stopping = true) (h : machine.run r later = some (next, shown)) :
    next.stopping = true ∧ next.left + later.countP Act.isOwn = r.left := by
  refine Machine.run_induction (P := fun u later _ =>
    u.stopping = true ∧ u.left + later.countP Act.isOwn = r.left) ⟨hstop, rfl⟩ ?_ h
  rintro u next act later shown more - ⟨hu, hleft⟩ hstep
  have hone : next.left + (if act.isOwn then 1 else 0) = u.left := left_step hu hstep
  refine ⟨stopping_step hu hstep, ?_⟩
  rw [List.countP_append, List.countP_singleton]
  omega

/-- **A relay that stops needs nobody else**: the first that it does by itself is
an action that waits for no peer, until it has ended. -/
theorem stepAny_stopping (hstop : r.stopping = true) :
    r.ending ≠ none ∧ machine.stepAny r (own r) = none ∨
      ∃ act result, act.isStop = true ∧ r.step act = some result ∧
        machine.stepAny r (own r) = some result := by
  have hidle (side : Side) (hended : r.pumps.get side = .ended) :
      r.step (.abandon side) = none ∧ r.step (.advance side) = none := by
    simp [step, hended]
  have hstops (side : Side) (hpump : r.pumps.get side ≠ .ended) :
      r.step (.abandon side) = some (r.haltPump side, []) := by
    simp [step, hstop, hpump]
  by_cases hin : r.pumps.get .inbound = .ended
  · obtain ⟨hin₁, hin₂⟩ := hidle .inbound hin
    by_cases hout : r.pumps.get .outbound = .ended
    · obtain ⟨hout₁, hout₂⟩ := hidle .outbound hout
      have hany : machine.stepAny r (own r) = r.step .close := by
        simp [Machine.stepAny, own, machine, hin₁, hin₂, hout₁, hout₂]
      have hended : r.pumpsEnded = true := by
        simpa [pumpsEnded] using Both.ext_get fun side => by cases side <;> assumption
      rw [hany]
      cases hending : r.ending with
      | none => exact Or.inr ⟨.close, r.closeLegs, rfl, by simp [step, hended, hending]⟩
      | some ending => exact Or.inl ⟨by simp, by simp [step, hending]⟩
    · have hstep := hstops .outbound hout
      refine Or.inr ⟨.abandon .outbound, _, rfl, hstep, ?_⟩
      simp [Machine.stepAny, own, machine, hin₁, hstep]
  · have hstep := hstops .inbound hin
    refine Or.inr ⟨.abandon .inbound, _, rfl, hstep, ?_⟩
    simp [Machine.stepAny, own, machine, hstep]

/-- **What a relay that stops does by itself** ends it, and waits for nobody. -/
theorem settle_stopping (n : Nat) (hstop : r.stopping = true) (hn : r.left ≤ n) :
    ∃ later, (∀ act ∈ later, act.isStop = true) ∧
      machine.run r later = some (machine.settle own n r) ∧
      (machine.settle own n r).1.ending ≠ none := by
  induction n generalizing r with
  | zero =>
    refine ⟨[], nofun, rfl, fun hnone => ?_⟩
    have hopen : r.ending = none := hnone
    simp [left, hopen] at hn
  | succ n ih =>
    rcases stepAny_stopping hstop with ⟨hended, hnone⟩ | ⟨act, result, hact, hstep, hsome⟩
    · have hsettle : machine.settle own (n + 1) r = (r, []) := by
        simp [Machine.settle, hnone]
      rw [hsettle]
      exact ⟨[], nofun, rfl, hended⟩
    · have hsettle : machine.settle own (n + 1) r =
          ((machine.settle own n result.1).1, result.2 ++ (machine.settle own n result.1).2) := by
        simp [Machine.settle, hsome]
      have hless : result.1.left ≤ n := by
        have hown : act.isOwn = true := by cases act <;> first | rfl | cases hact
        have hone := left_step hstop hstep
        rw [hown, if_pos rfl] at hone
        omega
      obtain ⟨later, hlater, hrun, hended⟩ := ih (stopping_step hstop hstep) hless
      rw [hsettle]
      refine ⟨act :: later, List.forall_mem_cons.mpr ⟨hact, hlater⟩, ?_, hended⟩
      exact Machine.run_cons_iff.mpr ⟨result.1, result.2, _, hstep, hrun, rfl⟩

/-- Nothing is written while a relay only stops. -/
theorem written_of_stops (h : machine.run r later = some (next, shown))
    (hlater : ∀ act ∈ later, act.isStop = true) (side : Side) : writtenOn side shown = [] := by
  refine Machine.run_induction_of (Q := fun act : Act => act.isStop = true)
    (P := fun _ _ shown => writtenOn side shown = []) rfl ?_ h hlater
  intro u next act later shown more _ hquiet hstep hact
  have hidle := idle_step (fun side heq => by rw [heq] at hact; cases hact) hstep
  rw [writtenOn_append, hquiet, hidle.written, List.append_nil]

/-- **A closed leg is left alone** in every run. -/
theorem silent_run (h : machine.run r later = some (next, shown)) (side : Side)
    (hclosed : (r.legs.get side).closed = true) : eventsOn side shown = [] := by
  have htrace : Leg.Trace (r.legs.get side).closed (eventsOn side shown)
      (next.legs.get side).closed := by
    refine Machine.run_induction (P := fun u _ shown => Leg.Trace (r.legs.get side).closed
      (eventsOn side shown) (u.legs.get side).closed) .nil ?_ h
    intro u next act later shown more _ hu hstep
    rw [eventsOn_append]
    exact hu.append (trace_step hstep side)
  rw [hclosed] at htrace
  exact htrace.eq_nil.1

theorem ending_run (h : machine.run r later = some (next, shown))
    (hended : r.ending = some ending) : next.ending = some ending := by
  refine Machine.run_induction (P := fun u _ _ => u.ending = some ending) hended ?_ h
  intro u next act later shown more _ hu hstep
  rcases (frame_step (passage_of_step hstep)).2.2 with hsame | ⟨hnone, -⟩
  · exact hsame.trans hu
  · rw [hnone] at hu
    cases hu

/-- **A relay that comes to its end at once**, whatever its peers do. -/
structure Prompt (r : Relay) : Prop where
  /-- What it does by itself ends it: the legs are closed, and nothing is written
  on the way. -/
  settles : ∀ n, 3 ≤ n → (machine.settle own n r).1.ending ≠ none ∧
    (∀ side, ((machine.settle own n r).1.legs.get side).closed = true) ∧
    ∀ side, writtenOn side (machine.settle own n r).2 = []
  /-- However the peers come in between, it makes no more than three actions, and
  has one to make that waits for none of them, until it has ended. -/
  soon : ∀ later next shown, machine.run r later = some (next, shown) →
    later.countP Act.isOwn ≤ 3 ∧
      (next.ending = none → ∃ act, act.isStop = true ∧ (next.step act).isSome = true)

theorem prompt_of_stopping (h : machine.run (start legs) acts = some (r, events))
    (hlegs : ∀ side, (legs.get side).Closable) (hstop : r.stopping = true) : r.Prompt where
  settles := fun n hn => by
    obtain ⟨later, hlater, hrun, hended⟩ := settle_stopping n hstop (Nat.le_trans r.left_le hn)
    refine ⟨hended, ?_, written_of_stops hrun hlater⟩
    -- the whole is a run of the relay, at the end of which it has ended
    have hwhole := Machine.run_append_iff.mpr ⟨r, events, _, h, hrun, rfl⟩
    obtain ⟨ending, hsome⟩ := Option.ne_none_iff_exists'.mp hended
    exact ((accounts_run hwhole hlegs).done ending hsome).closed
  soon := fun later next shown hrun => by
    obtain ⟨hstill, hleft⟩ := left_run hstop hrun
    have hmost := r.left_le
    refine ⟨by omega, fun hopen => ?_⟩
    rcases stepAny_stopping hstill with ⟨hended, -⟩ | ⟨act, result, hact, hstep, -⟩
    · exact absurd hopen hended
    · exact ⟨act, hact, by rw [hstep]; rfl⟩

/-! ## What the ending tells -/

/-- What is reported of a fault is never empty. -/
theorem account_ne_empty (fault : Fault) : fault.account ≠ "" := by
  simp only [Fault.account]
  split
  · intro h
    simp [Fault.display] at h
  · assumption

/-- A failure says what is reported of the fault that caused it. -/
theorem message_failureOf (r : Relay) (fault : Fault) :
    (r.failureOf fault).message = fault.account := by
  have hset : (Value.string fault.account).isSet = true := by
    simp [Value.isSet, account_ne_empty]
  simp [failureOf, Fault.relayFailure, Value.orText, hset, Fault.withCause, Fault.message,
    Fault.kind, Fault.args, Fault.messageOf, Value.text]

/-- **Joining two legs** returns what the relay returns, or its failure with the
counts that this has. -/
theorem join_of_concludes (h : Concludes r ending) (subject : Log.Subject) (outcome : Outcome) :
    (join subject ending).1 = .returned outcome ↔
      ending = .returned outcome ∧ outcome.fault = none ∨
        ∃ failure, ending = .raised failure ∧
          failure.kind = .relayFailure outcome.fromInbound outcome.fromOutbound ∧
          outcome.fault = some failure := by
  cases h with
  | crashed | cancelled => simp [join]
  | returned =>
    constructor
    · intro hjoin
      obtain rfl := Ending.returned.inj hjoin
      exact Or.inl ⟨rfl, rfl⟩
    · rintro (⟨hsame, -⟩ | ⟨failure, hraised, -⟩)
      · exact hsame
      · cases hraised
  | @failed fault others =>
    have hkind : (r.failureOf fault).kind =
      .relayFailure (.int r.moved.inbound) (.int r.moved.outbound) := rfl
    simp only [join, hkind]
    constructor
    · intro hjoin
      obtain rfl := Ending.returned.inj hjoin
      exact Or.inr ⟨_, rfl, rfl, rfl⟩
    · rintro (⟨hreturned, -⟩ | ⟨failure, hraised, hcounts, hfault⟩)
      · cases hreturned
      · obtain rfl := Ending.raised.inj hraised
        obtain ⟨hin, hout⟩ := Fault.Kind.relayFailure.inj (hkind.symm.trans hcounts)
        rw [hin, hout, ← hfault]

/-- If nothing else is kept, only reads and writes have failed. -/
theorem Books.of_nil (h : Books r seen) (hnone : r.crashes = []) :
    (∀ fault ∈ faultsOf seen, fault.kind.isStream = true) ∧ r.faults = faultsOf seen := by
  have hall : ∀ fault ∈ faultsOf seen, fault.kind.isStream = true := by
    rw [h.crashes] at hnone
    simpa using hnone
  exact ⟨hall, by rw [h.faults, List.filter_eq_self.mpr hall]⟩

/-- **When a relay fails.** -/
theorem failed_iff (hc : Concludes r ending) (hb : Books r seen)
    (hcancelled : r.cancelled = true ↔ .cancel ∈ acts) :
    (∃ failure fromInbound fromOutbound, ending = .raised failure ∧
        failure.kind = .relayFailure fromInbound fromOutbound) ↔
      .cancel ∉ acts ∧ (∀ fault ∈ faultsOf seen, fault.kind.isStream = true) ∧
        faultsOf seen ≠ [] := by
  cases hc with
  | crashed hne =>
    refine iff_of_false (by simp) fun ⟨_, hall, _⟩ => hne ?_
    rw [hb.crashes]
    simpa using hall
  | cancelled _ hcancel =>
    exact iff_of_false (by simp) fun ⟨hnot, _⟩ => hnot (hcancelled.mp hcancel)
  | returned hnone _ hquiet =>
    refine iff_of_false (by simp) fun ⟨_, _, hsome⟩ => hsome ?_
    exact (hb.of_nil hnone).2.symm.trans hquiet
  | failed hnone hopen hsome =>
    obtain ⟨hall, hfaults⟩ := hb.of_nil hnone
    refine iff_of_true ⟨_, _, _, rfl, rfl⟩ ⟨fun hcancel => ?_, hall, ?_⟩
    · rw [hcancelled.mpr hcancel] at hopen
      cases hopen
    · rw [← hfaults, hsome]
      exact nofun

/-- **The failure tells of the first fault that was met.** -/
theorem cause_of_concludes {failure : Fault} (hc : Concludes r (.raised failure))
    (hb : Books r seen) : failure.message ≠ "" ∧
      ∃ first, (faultsOf seen).head? = some first ∧ failure.cause = some first ∧
        failure.message = if (first.cause.getD first).message = "" then first.display
          else (first.cause.getD first).message := by
  cases hc with
  | @failed fault others hnone hopen hsome =>
    have hmessage := message_failureOf r fault
    refine ⟨hmessage ▸ account_ne_empty fault, fault, ?_, rfl, hmessage⟩
    rw [← (hb.of_nil hnone).2, hsome]
    rfl

/-- **What else went wrong is raised as a group**, which is a cancellation too only
if the relay was cancelled. -/
theorem group_of_concludes (hc : Concludes r ending) (hb : Books r seen)
    (hcancelled : r.cancelled = true ↔ .cancel ∈ acts)
    (hcrash : ∃ fault ∈ faultsOf seen, fault.kind.isStream = false) :
    ∃ group, ending = .group group ∧ group.faults = (faultsOf seen).filter (!·.kind.isStream) ∧
      (group.cancelled = true → .cancel ∈ acts) := by
  have hne : r.crashes ≠ [] := by
    intro hnone
    obtain ⟨fault, hmem, hother⟩ := hcrash
    rw [(hb.of_nil hnone).1 fault hmem] at hother
    cases hother
  cases hc with
  | crashed =>
    refine ⟨_, rfl, hb.crashes, fun hboth => hcancelled.mp ?_⟩
    exact ((Bool.and_eq_true _ _).mp hboth).1
  | cancelled hnone | returned hnone | failed hnone => exact absurd hnone hne

/-- **A relay that returns has done one of its directions.** -/
theorem drained_of_concludes {outcome : Outcome} (hc : Concludes r (.returned outcome))
    (hb : Books r seen) (hstopped : Stopped r seen events) : outcome.fault = none ∧
      ∃ side, Drained (readsOf side seen) (writtenOn side.other events) := by
  cases hc with
  | returned hnone hopen hquiet =>
    refine ⟨rfl, ?_⟩
    rcases hstopped with hcancelled | hfaults | ⟨side, -, hdrained⟩
    · rw [hopen] at hcancelled
      cases hcancelled
    · exact absurd ((hb.of_nil hnone).2.symm.trans hquiet) hfaults
    · exact ⟨side, hdrained⟩

/-- **What a relay that has ended tells of its run.** -/
structure Ends (legs : Both Leg) (acts : List Act) (events : List Event) (r : Relay)
    (ending : Ending Outcome) : Prop where
  /-- Both legs are closed. -/
  closed : ∀ side, (r.legs.get side).closed = true
  /-- Whatever happens later, nothing more is seen on either, and it has ended as
  it has. -/
  silent : ∀ later next shown, machine.run r later = some (next, shown) →
    next.ending = some ending ∧ ∀ side, eventsOn side shown = []
  /-- What was read of a side is what its peer has sent, up to what waits there. -/
  received : ∀ side, sentBy legs acts side =
    (readsOf side (meetings legs acts)).flatten ++ (r.legs.get side).queued
  /-- If it returns, one of its directions is done. -/
  returned : ∀ outcome, ending = .returned outcome → outcome.fault = none ∧
    ∃ side, Drained (readsOf side (meetings legs acts)) (writtenOn side.other events)
  /-- It fails if and only if a read or a write has failed, nothing else went
  wrong, and it was not cancelled. -/
  failed : (∃ failure fromInbound fromOutbound, ending = .raised failure ∧
      failure.kind = .relayFailure fromInbound fromOutbound) ↔
    .cancel ∉ acts ∧ (∀ fault ∈ faultsOf (meetings legs acts), fault.kind.isStream = true) ∧
      faultsOf (meetings legs acts) ≠ []
  /-- The failure tells of the first fault that was met. -/
  cause : ∀ failure, ending = .raised failure → failure.message ≠ "" ∧
    ∃ first, (faultsOf (meetings legs acts)).head? = some first ∧ failure.cause = some first ∧
      failure.message = if (first.cause.getD first).message = "" then first.display
        else (first.cause.getD first).message
  /-- What else went wrong in a pump is raised as a group, beside a cancellation
  only if the relay was cancelled. -/
  crashed : (∃ fault ∈ faultsOf (meetings legs acts), fault.kind.isStream = false) →
    ∃ group, ending = .group group ∧
      group.faults = (faultsOf (meetings legs acts)).filter (!·.kind.isStream) ∧
      (group.cancelled = true → .cancel ∈ acts)
  /-- Joining the legs returns if the relay returns or fails, with the same
  counts, and marks the outcome in the second case. -/
  joined : ∀ subject outcome, (join subject ending).1 = .returned outcome ↔
    ending = .returned outcome ∧ outcome.fault = none ∨
      ∃ failure, ending = .raised failure ∧
        failure.kind = .relayFailure outcome.fromInbound outcome.fromOutbound ∧
        outcome.fault = some failure

/-- **A relay ends as soon as one of its pumps does**, and as soon as it is
cancelled, whoever is stalled, if its legs are such as can be closed: it needs
three actions at most, writes nothing by them, and waits for nobody. At its end
both legs are closed and left alone. What it ends by is told by what its pumps
have met: it returns only if it has moved all of a stream to its end, and it
fails if and only if reads or writes have failed and nothing else has. -/
theorem relay_ends (h : machine.run (start legs) acts = some (r, events))
    (hlegs : ∀ side, (legs.get side).Closable) :
    ((.cancel ∈ acts ∨ ∃ side, r.pumps.get side = .ended) → r.Prompt) ∧
      ∀ ending, r.ending = some ending → Ends legs acts events r ending := by
  have haccounts := accounts_run h hlegs
  refine ⟨fun hwhy => prompt_of_stopping h hlegs ?_, fun ending hended => ?_⟩
  · exact haccounts.told (hwhy.imp_left haccounts.cancelled.mpr)
  · obtain ⟨hpumps, hclosed, hconcludes⟩ := haccounts.done ending hended
    have hstopped := haccounts.stops (haccounts.told (Or.inr ⟨.inbound, hpumps .inbound⟩))
    exact
      { closed := hclosed
        silent := fun later next shown hlater =>
          ⟨ending_run hlater hended, fun side => silent_run hlater side (hclosed side)⟩
        received := haccounts.received
        returned := fun outcome heq =>
          drained_of_concludes (heq ▸ hconcludes) haccounts.books hstopped
        failed := failed_iff hconcludes haccounts.books haccounts.cancelled
        cause := fun failure heq => cause_of_concludes (heq ▸ hconcludes) haccounts.books
        crashed := group_of_concludes hconcludes haccounts.books haccounts.cancelled
        joined := join_of_concludes hconcludes }

/-- A run in which the inbound peer sends, and the outbound leg breaks while
nobody takes what was read. -/
def brokenWhileStalled : List Act :=
  [.peer .outbound .stall, .peer .inbound (.deliver [1, 2]), .advance .inbound,
    .peer .outbound (.snap (.mk .brokenResource [] none)), .advance .outbound, .abandon .inbound,
    .close]

/-- The pump that waits to write is stopped, and the failure is told by name, as
the fault has no text. -/
theorem brokenWhileStalled_ends :
    (∀ side, ((⟨{}, {}⟩ : Both Leg).get side).Closable) ∧
      ∃ r events failure, machine.run (start ⟨{}, {}⟩) brokenWhileStalled = some (r, events) ∧
        r.ending = some (.raised failure) ∧ failure.message = "BrokenResourceError()" ∧
        Ends ⟨{}, {}⟩ brokenWhileStalled events r (.raised failure) := by
  have hlegs : ∀ side, ((⟨{}, {}⟩ : Both Leg).get side).Closable := by
    intro side
    cases side <;> exact ⟨rfl, rfl⟩
  obtain ⟨-, hends⟩ := @relay_ends _ brokenWhileStalled _ ⟨{}, {}⟩ rfl hlegs
  exact ⟨hlegs, _, _, _, rfl, rfl, by decide +kernel, hends _ rfl⟩

end Relay

end TunnelRelay
