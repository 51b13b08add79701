import TunnelRelay.Proofs.Departures
/-!
# The loop and its source

The loop accepts connections for as long as its source yields them; it waits for
its handlers when the source is exhausted, and cancels them when the source has
failed. It leaves this course for two reasons only, an outside cancellation and
a fault that nobody deals with.

Those who are told of an accepted connection are told by the loop itself, before
there is a handler: if they fail, the loop breaks, and nobody closes the leg. All
others who are told of something may fail as they like. A handler gives a fault
only if closing its inbound leg fails, or if it is cancelled: what has gone wrong
with its relay besides is not dealt with then, and leaves it beside the
cancellation. So a source that fails takes the faults of such relays with it, and
the forwarder ends by them instead of its own fault (`SourceState.Ends`).

The invariant is the place of the loop in terms of its source and of the faults
that have left the handlers (`Loop.Follows`, `Steady`).
-/

namespace TunnelRelay

/-- What has become of a source. -/
inductive SourceState where
  /-- It yields connections. -/
  | supplying
  | exhausted
  | failed (fault : Fault)

/-- What a source has come to when it supplies something. -/
def Supply.state : Supply → SourceState
  | .connection _ _ => .supplying
  | .exhausted => .exhausted
  | .failed fault => .failed fault

/-- How a forwarder ends that follows its source. -/
def SourceState.ending? : SourceState → Option (Ending Unit)
  | .supplying => none
  | .exhausted => some (.returned ())
  | .failed fault => some (.raised (Forwarder.sourceFault fault))

theorem SourceState.returned_iff {source : SourceState} :
    source.ending? = some (.returned ()) ↔ source = .exhausted := by
  cases source <;> simp [SourceState.ending?]

theorem SourceState.raised_iff {source : SourceState} {fault : Fault} :
    source.ending? = some (.raised fault) ↔
      ∃ cause, source = .failed cause ∧ fault = Forwarder.sourceFault cause := by
  cases source <;> simp [SourceState.ending?, eq_comm]

/-- **How a forwarder ends that follows its source**, after some faults have left its
handlers: without any as its source does. With some the source has failed, and
they take the place of its fault. -/
def SourceState.Ends (source : SourceState) (escaped : List Fault) (ending : Ending Unit) : Prop :=
  escaped = [] ∧ source.ending? = some ending ∨
    escaped ≠ [] ∧ (∃ cause, source = .failed cause) ∧
      ∃ faults, ending = .group { faults } ∧ faults.Perm escaped

theorem SourceState.Ends.perm {source : SourceState} {escaped other : List Fault}
    {ending : Ending Unit} (h : source.Ends escaped ending) (hperm : escaped.Perm other) :
    source.Ends other ending := by
  have hnil : other = [] ↔ escaped = [] := by
    rw [← List.perm_nil, ← List.perm_nil, hperm.congr_left]
  unfold SourceState.Ends at h ⊢
  rw [Ne, hnil]
  exact h.imp_right fun ⟨hne, hfailed, faults, hending, hfaults⟩ =>
    ⟨hne, hfailed, faults, hending, hfaults.trans hperm⟩

namespace Forwarder

variable {url sourceId : String} {platform : Platform} {cache : Trust.Cache Trust.Context}
variable {f : Forwarder} {act : Act} {acts : List Act} {events : List Event}
variable {result : Forwarder × List Event}

/-! ## What the source has supplied -/

/-- What an action brings from the source. -/
def Act.supply? : Act → Option Supply
  | .supplied supply _ => some supply
  | .begin _ _ | .handler _ _ | .cancel | .finish => none

/-- What the source has supplied, in order. -/
def supplies (acts : List Act) : List Supply := acts.filterMap Act.supply?

/-- What has become of the source of a run. -/
def sourceState (acts : List Act) : SourceState :=
  ((supplies acts).getLast?.map Supply.state).getD .supplying

/-- An action that brings nothing from the source. -/
theorem supplies_concat_of_none (h : act.supply? = none) :
    supplies (acts ++ [act]) = supplies acts := by
  simp [supplies, h]

theorem sourceState_concat_of_none (h : act.supply? = none) :
    sourceState (acts ++ [act]) = sourceState acts := by
  rw [sourceState, supplies_concat_of_none h, sourceState]

theorem supplies_concat (acts : List Act) (supply : Supply) (receivers : Receivers) :
    supplies (acts ++ [.supplied supply receivers]) = supplies acts ++ [supply] := by
  simp [supplies, Act.supply?]

/-- A source is at what it supplied last. -/
theorem sourceState_concat (acts : List Act) (supply : Supply) (receivers : Receivers) :
    sourceState (acts ++ [.supplied supply receivers]) = supply.state := by
  rw [sourceState, supplies_concat, List.getLast?_concat]
  rfl

/-- The turn of a handler brings nothing from the source. -/
theorem Act.supply?_of_turn? {i : Nat} {t : Handler.Turn} (h : act.turn? i = some t) :
    act.supply? = none := by
  cases act with
  | begin | handler | cancel | finish => rfl
  | supplied => cases h

/-- A turn that is an action of a handler is that action. -/
theorem Act.eq_handler_of_turn? {i : Nat} {own : Handler.Act}
    (h : act.turn? i = some (.act own)) : act = .handler i own := by
  cases act with
  | handler j given =>
    obtain ⟨rfl, rfl⟩ : j = i ∧ given = own := by simpa [Act.turn?] using h
    rfl
  | begin j load => simp [Act.turn?] at h
  | supplied | cancel | finish => cases h

/-! ## What leaves the handlers -/

/-- The faults that have left the handlers. -/
def escapes (f : Forwarder) : List Fault := f.handlers.filterMap (·.escaped?)

theorem escapes_eq_nil_iff : f.escapes = [] ↔ ∀ h ∈ f.handlers, h.escaped? = none :=
  List.filterMap_eq_nil_iff

/-- **A turn of a handler leaves the loop as it is, or breaks it** with a fault that
leaves the handler. -/
theorem escapes_turn {i : Nat} {old : Handler} {t : Handler.Turn}
    {next : Handler × List Handler.Event} (hget : f.handlers[i]? = some old)
    (hp : old.Passage t next) :
    f.loopAfter old next.1 = f.loop ∧
        f.escapes.Perm ((f.handlers.set i next.1).filterMap (·.escaped?)) ∨
      ∃ fault, old.isEnded = false ∧ next.1.escaped? = some fault ∧
        f.loopAfter old next.1 = f.loop.brokenBy fault ∧
        (fault :: f.escapes).Perm ((f.handlers.set i next.1).filterMap (·.escaped?)) := by
  obtain ⟨others, hbefore, hafter⟩ := perm_set hget next.1 (·.escaped?)
  rw [← escapes] at hbefore
  cases hended : old.isEnded with
  | true =>
    have hsame := Handler.escaped?_congr (Handler.ending?_of_ended hended hp)
    rw [hsame] at hafter
    exact Or.inl ⟨by simp [loopAfter, hended], hbefore.trans hafter.symm⟩
  | false =>
    rw [Handler.escaped?_of_open hended, Option.toList_none, List.nil_append] at hbefore
    cases hescaped : next.1.escaped? with
    | none =>
      rw [hescaped] at hafter
      exact Or.inl ⟨by simp [loopAfter, hended, hescaped], hbefore.trans hafter.symm⟩
    | some fault =>
      rw [hescaped] at hafter
      exact Or.inr ⟨fault, rfl, rfl, by simp [loopAfter, hended, hescaped],
        (hbefore.cons fault).trans hafter.symm⟩

/-! ## The course of the loop -/

/-- **The loop follows its source**, with the faults that have left the handlers. -/
def Loop.Follows (loop : Loop) (source : SourceState) (escaped : List Fault) : Prop :=
  match loop with
  | .accepting => source = .supplying ∧ escaped = []
  | .draining => source = .exhausted ∧ escaped = []
  | .failing fault => source = .failed fault ∧ escaped = []
  | .breaking group => (∃ cause, source = .failed cause) ∧ escaped ≠ [] ∧
      group.cancelled = false ∧ group.faults.Perm escaped
  | .ended ending => source.Ends escaped ending
  | .cancelled => False

/-- **An action that does not lead the loop astray**: the forwarder is not
cancelled, those who are told of a connection do not fail, and closing the
inbound leg does not. -/
def Act.Unhindered : Act → Prop
  | .supplied (.connection _ leg) receivers => receivers.accepted = none ∧ leg.closeFault = none
  | .cancel => False
  | .supplied .exhausted _ | .supplied (.failed _) _ | .begin _ _ | .handler _ _ | .finish => True

/-- What is kept while nothing leads the loop astray. -/
structure Steady (f : Forwarder) (acts : List Act) : Prop where
  loop : f.loop.Follows (sourceState acts) f.escapes
  /-- Nothing comes after the end of the source. -/
  last : ∀ supply ∈ supplies acts, supply.state = .supplying ∨ supply.state = sourceState acts
  discreet : ∀ h ∈ f.handlers, h.Discreet
  engaged : ∀ h ∈ f.handlers, h.Engaged
  /-- The handlers end before the loop. -/
  rested : f.loop.ending?.isSome = true → ∀ h ∈ f.handlers, h.isEnded = true
  /-- Nobody is cancelled while the source has not failed, -/
  spared : (∀ fault, sourceState acts ≠ .failed fault) → ∀ i, .handler i .cancel ∉ acts
  /-- and nothing leaves a handler. -/
  contained : (∀ fault, sourceState acts ≠ .failed fault) → ∀ h ∈ f.handlers, h.Contained

section Follows

variable {loop : Loop} {source : SourceState} {escaped other : List Fault}

/-- The order in which faults have left the handlers does not matter. -/
theorem Loop.Follows.perm (h : loop.Follows source escaped) (hperm : escaped.Perm other) :
    loop.Follows source other := by
  have hnil : other = [] ↔ escaped = [] := by
    rw [← List.perm_nil, ← List.perm_nil, hperm.congr_left]
  unfold Follows at h ⊢
  split at h
  · exact ⟨h.1, hnil.mpr h.2⟩
  · exact ⟨h.1, hnil.mpr h.2⟩
  · exact ⟨h.1, hnil.mpr h.2⟩
  · exact ⟨h.1, fun heq => h.2.1 (hnil.mp heq), h.2.2.1, h.2.2.2.trans hperm⟩
  · exact h.perm hperm
  · exact h

/-- Handlers are cancelled only once the source has failed. -/
theorem Loop.Follows.failed (h : loop.Follows source escaped)
    (hcancelling : loop.isCancelling = true) : ∃ fault, source = .failed fault := by
  cases loop with
  | failing fault => exact ⟨fault, h.1⟩
  | breaking => exact h.1
  | accepting | draining | ended => cases hcancelling
  | cancelled => cases h

/-- A fault leaves a handler once the source has failed, and breaks the loop. -/
theorem Loop.Follows.brokenBy {cause : Fault} (h : loop.Follows source escaped)
    (hsource : source = .failed cause) (hopen : loop.ending? = none) (fault : Fault) :
    (loop.brokenBy fault).Follows source (fault :: escaped) := by
  subst hsource
  cases loop with
  | accepting | draining => cases h.1
  | cancelled => cases h
  | ended => cases hopen
  | failing own =>
    obtain ⟨-, rfl⟩ := h
    exact ⟨⟨cause, rfl⟩, List.cons_ne_nil _ _, rfl, .refl _⟩
  | breaking group =>
    obtain ⟨-, -, hcalm, hfaults⟩ := h
    refine ⟨⟨cause, rfl⟩, List.cons_ne_nil _ _, hcalm, ?_⟩
    exact (List.perm_append_singleton fault group.faults).trans (hfaults.cons fault)

/-- A loop that follows its source ends as that allows. -/
theorem Loop.Follows.conclude {ending : Ending Unit}
    (h : f.loop.Follows (sourceState acts) f.escapes)
    (hconclude : f.conclude = some (ending, events)) :
    (sourceState acts).Ends f.escapes ending := by
  unfold Forwarder.conclude at hconclude
  cases hloop : f.loop with
  | accepting | ended =>
    rw [hloop] at hconclude
    cases hconclude
  | cancelled =>
    rw [hloop] at h
    cases h
  | draining | failing =>
    simp only [hloop] at hconclude
    rw [hloop] at h
    obtain ⟨hsource, hnone⟩ := h
    obtain ⟨rfl, -⟩ := Prod.mk.inj (Option.some.inj hconclude)
    exact Or.inl ⟨hnone, by rw [hsource]; rfl⟩
  | breaking group =>
    simp only [hloop] at hconclude
    rw [hloop] at h
    obtain ⟨hfailed, hne, hcalm, hfaults⟩ := h
    obtain ⟨rfl, -⟩ := Prod.mk.inj (Option.some.inj hconclude)
    exact Or.inr ⟨hne, hfailed, group.faults, by rw [← hcalm], hfaults⟩

end Follows

/-- The source supplies something. -/
theorem Steady.supplied {next : Forwarder} (h : Steady f acts) (supply : Supply)
    (receivers : Receivers) (haccepting : f.loop = .accepting)
    (hloop : next.loop.Follows supply.state []) (hescapes : next.escapes = f.escapes)
    (hrested : next.loop.ending?.isSome = true → ∀ h ∈ next.handlers, h.isEnded = true)
    (hhandlers : ∀ k ∈ next.handlers, k ∈ f.handlers ∨ k.Discreet ∧ k.Engaged ∧ k.Contained) :
    Steady next (acts ++ [.supplied supply receivers]) := by
  have hfollows := h.loop
  rw [haccepting] at hfollows
  obtain ⟨hsource, hnone⟩ := hfollows
  have hunfailed : ∀ fault, sourceState acts ≠ .failed fault := by
    rw [hsource]
    exact fun _ => nofun
  refine ⟨?_, fun other hmem => ?_, fun k hk => ?_, fun k hk => ?_, hrested, fun _ i hmem => ?_,
    fun _ k hk => ?_⟩
  · rw [sourceState_concat, hescapes, hnone]
    exact hloop
  · rw [supplies_concat] at hmem
    rw [sourceState_concat]
    rcases List.mem_append.mp hmem with hold | hnew
    · -- there was nothing but connections before
      have hbefore := h.last other hold
      rw [hsource, or_self] at hbefore
      exact Or.inl hbefore
    · rw [List.mem_singleton.mp hnew]
      exact Or.inr rfl
  · exact (hhandlers k hk).elim (h.discreet k) And.left
  · exact (hhandlers k hk).elim (h.engaged k) fun hnew => hnew.2.1
  · exact h.spared hunfailed i (by simpa using hmem)
  · exact (hhandlers k hk).elim (h.contained hunfailed k) fun hnew => hnew.2.2

/-- While the source has not failed nobody is cancelled, and so nothing leaves a
handler. -/
theorem Steady.contained_turn {old : Handler} {t : Handler.Turn}
    {next : Handler × List Handler.Event} (h : Steady f acts)
    (hunfailed : ∀ fault, sourceState acts ≠ .failed fault) (hold : old ∈ f.handlers)
    (hcancel : t = .act .cancel → f.loop.isCancelling) (hp : old.Passage t next) :
    t ≠ .act .cancel ∧ next.1.Contained := by
  have ht : t ≠ .act .cancel := fun ht => by
    obtain ⟨fault, hfailed⟩ := h.loop.failed (hcancel ht)
    exact hunfailed fault hfailed
  exact ⟨ht, Handler.contained_step (h.contained hunfailed old hold) hp ht⟩

/-- A handler takes a turn. -/
theorem Steady.turn {i : Nat} {old : Handler} {t : Handler.Turn}
    {next : Handler × List Handler.Event} (h : Steady f acts) (hget : f.handlers[i]? = some old)
    (hturn : act.turn? i = some t.bare) (hcancel : t = .act .cancel → f.loop.isCancelling)
    (hp : old.Passage t next)
    (hrested : (f.loopAfter old next.1).ending?.isSome = true →
      ∀ h ∈ f.handlers.set i next.1, h.isEnded = true) :
    Steady { f with cache, handlers := f.handlers.set i next.1, loop := f.loopAfter old next.1 }
      (acts ++ [act]) := by
  have hold := List.mem_of_getElem? hget
  have hdiscreet := Handler.discreet_step (h.discreet old hold) hp
  have hengaged := Handler.engaged_step (h.engaged old hold) hp
  have hsupply := Act.supply?_of_turn? hturn
  have hsource : sourceState (acts ++ [act]) = sourceState acts :=
    sourceState_concat_of_none hsupply
  refine ⟨?_, ?_, fun k hk => ?_, fun k hk => ?_, hrested, fun hunfailed j hmem => ?_,
    fun hunfailed k hk => ?_⟩
  · rw [hsource]
    rcases escapes_turn hget hp with ⟨hloop, hsame⟩ | ⟨fault, hopen, hescaped, hloop, hmore⟩
    · rw [hloop]
      exact h.loop.perm hsame
    · rw [hloop]
      -- nothing would have left the handler before the source has failed
      obtain ⟨cause, hfailed⟩ : ∃ cause, sourceState acts = .failed cause := by
        by_contra hnot
        have hkept := escaped?_of_contained
          (h.contained_turn (not_exists.mp hnot) hold hcancel hp).2
        rw [hkept] at hescaped
        cases hescaped
      have hgoes : f.loop.ending? = none := by
        rw [← Option.not_isSome_iff_eq_none]
        intro hended
        rw [h.rested hended old hold] at hopen
        cases hopen
      exact (h.loop.brokenBy hfailed hgoes fault).perm hmore
  · rw [hsource, supplies_concat_of_none hsupply]
    exact h.last
  · rcases List.mem_or_eq_of_mem_set hk with hother | rfl
    · exact h.discreet k hother
    · exact hdiscreet
  · rcases List.mem_or_eq_of_mem_set hk with hother | rfl
    · exact h.engaged k hother
    · exact hengaged
  · rw [hsource] at hunfailed
    rcases List.mem_append.mp hmem with hbefore | hlast
    · exact h.spared hunfailed j hbefore
    · -- a handler is cancelled only by a loop that cancels
      obtain rfl := List.mem_singleton.mp hlast
      refine (h.contained_turn hunfailed hold hcancel hp).1 ?_
      cases t with
      | begin => simp [Act.turn?, Handler.Turn.bare] at hturn
      | act own =>
        have hown : j = i ∧ .cancel = own := by simpa [Act.turn?, Handler.Turn.bare] using hturn
        rw [← hown.2]
  · rw [hsource] at hunfailed
    rcases List.mem_or_eq_of_mem_set hk with hother | rfl
    · exact h.contained hunfailed k hother
    · exact (h.contained_turn hunfailed hold hcancel hp).2

/-- **Nothing that happens on a connection leads the loop astray.** -/
theorem steady_step (h : Steady f acts) (hp : Passage f act result) (hact : act.Unhindered) :
    Steady result.1 (acts ++ [act]) := by
  have hrested := ended_step h.rested hp
  cases hp with
  | @accept conn leg receivers hloop =>
    obtain ⟨haccepted, hleg⟩ := hact
    refine h.supplied _ receivers hloop ?_ ?_ hrested fun k hk => ?_
    · rw [haccepted]
      exact ⟨rfl, rfl⟩
    · have hnone := (Handler.whole_accepted conn leg receivers).kept
      simp [escapes, List.filterMap_append, hnone]
    · rcases List.mem_append.mp hk with hold | hnew
      · exact Or.inl hold
      · rw [List.mem_singleton.mp hnew]
        exact Or.inr ⟨Handler.discreet_accepted hleg, Handler.engaged_accepted haccepted,
          by simpa [Handler.accepted, Handler.Contained, haccepted] using hleg⟩
  | exhausted hloop => exact h.supplied _ _ hloop ⟨rfl, rfl⟩ rfl hrested fun k hk => Or.inl hk
  | failed hloop => exact h.supplied _ _ hloop ⟨rfl, rfl⟩ rfl hrested fun k hk => Or.inl hk
  | cancel => cases hact
  | turn hget hturn hcancel hstep =>
    exact h.turn hget hturn hcancel (Handler.passage_of_turn hstep) hrested
  | finish hall hconclude =>
    have hsource : sourceState (acts ++ [.finish]) = sourceState acts :=
      sourceState_concat_of_none rfl
    refine ⟨?_, ?_, h.discreet, h.engaged, hrested, fun hunfailed i hmem => ?_, fun hunfailed => ?_⟩
    · rw [hsource]
      exact h.loop.conclude hconclude
    · rw [hsource, supplies_concat_of_none rfl]
      exact h.last
    · rw [hsource] at hunfailed
      exact h.spared hunfailed i (by simpa using hmem)
    · rw [hsource] at hunfailed
      exact h.contained hunfailed

/-- A forwarder that has nothing to do yet. -/
theorem steady_new : Steady (new url sourceId platform cache) [] where
  loop := show sourceState [] = .supplying ∧ [] = [] from ⟨rfl, rfl⟩
  last := fun _ hmem => absurd hmem List.not_mem_nil
  discreet := fun _ hmem => absurd hmem List.not_mem_nil
  engaged := fun _ hmem => absurd hmem List.not_mem_nil
  rested := fun _ _ hmem => absurd hmem List.not_mem_nil
  spared := fun _ _ => List.not_mem_nil
  contained := fun _ _ hmem => absurd hmem List.not_mem_nil

theorem Steady.later {later : List Act} {next : Forwarder} (h : Steady f acts)
    (hrun : machine.run f later = some (next, events))
    (hlater : ∀ act ∈ later, act.Unhindered) : Steady next (acts ++ later) := by
  refine Machine.run_induction_of (P := fun g later _ => Steady g (acts ++ later))
    (Q := Act.Unhindered) ?_ ?_ hrun hlater
  · rw [List.append_nil]
    exact h
  · intro g next act later events more _ hsteady hstep hact
    rw [← List.append_assoc]
    exact steady_step hsteady (passage_of_step hstep) hact

theorem steady_run (h : machine.run (new url sourceId platform cache) acts = some (f, events))
    (hacts : ∀ act ∈ acts, act.Unhindered) : Steady f acts := steady_new.later h hacts

/-- The source is asked for more until its end, whatever the handlers are at. -/
theorem Steady.asks (h : Steady f acts) (supply : Supply) (receivers : Receivers) :
    (f.step (.supplied supply receivers)).isSome = true ↔ sourceState acts = .supplying := by
  have hloop := h.loop
  have hask : (f.step (.supplied supply receivers)).isSome = f.loop.isAccepting := by
    simp only [step]
    cases f.loop.isAccepting <;> rfl
  rw [hask]
  cases hf : f.loop with
  | accepting =>
    rw [hf] at hloop
    exact iff_of_true rfl hloop.1
  | cancelled =>
    rw [hf] at hloop
    cases hloop
  | draining | failing | breaking =>
    rw [hf] at hloop
    refine iff_of_false Bool.false_ne_true fun hsupplying => ?_
    rw [hsupplying] at hloop
    simp [Loop.Follows] at hloop
  | ended =>
    rw [hf] at hloop
    refine iff_of_false Bool.false_ne_true fun hsupplying => ?_
    rw [hsupplying] at hloop
    simp [Loop.Follows, SourceState.Ends, SourceState.ending?] at hloop

theorem Loop.eq_ended {loop : Loop} {ending : Ending Unit} (h : loop.ending? = some ending) :
    loop = .ended ending := by
  cases loop with
  | ended own => exact congrArg Loop.ended (Option.some.inj h)
  | accepting | draining | failing | breaking | cancelled => cases h

/-- **A forwarder that nothing leads astray ends as its source allows.** -/
theorem Steady.ends {ending : Ending Unit} (h : f.Steady acts)
    (hending : f.loop.ending? = some ending) : (sourceState acts).Ends f.escapes ending := by
  have hfollows := h.loop
  rw [Loop.eq_ended hending] at hfollows
  exact hfollows

/-- **What leaves a handler** is a group of faults, beside which it was cancelled. -/
theorem escaped_of_run
    (h : machine.run (new url sourceId platform cache) acts = some (f, events))
    (hacts : ∀ act ∈ acts, act.Unhindered) {i : Nat} {k : Handler} {fault : Fault}
    (hk : f.handlers[i]? = some k) (hescaped : k.escaped? = some fault) :
    .handler i .cancel ∈ acts ∧ ∃ faults, k.ending? = some (.group faults) ∧
      faults.cancelled = true ∧ fault = faults.asFault := by
  refine ⟨?_, ((steady_run h hacts).discreet k (List.mem_of_getElem? hk)).escaped hescaped⟩
  by_contra hnot
  obtain ⟨rfl, rfl, hlanes⟩ := lanes_of_run h
  obtain ⟨start, taken, hstart, htaken, hrun⟩ := hlanes.lane i k hk
  obtain ⟨conn, leg, receivers, hmem, rfl⟩ := mem_arrivals (List.mem_of_getElem? hstart)
  obtain ⟨haccepted, hleg⟩ := hacts _ hmem
  have hcontained := Handler.contained_run hrun haccepted hleg fun t ht hcancel => hnot ?_
  · rw [escaped?_of_contained hcontained] at hescaped
    cases hescaped
  · have hturn : .act .cancel ∈ turns i acts := by
      rw [← htaken]
      exact List.mem_map.mpr ⟨t, ht, by rw [hcancel]; rfl⟩
    obtain ⟨act, hact, hown⟩ := List.mem_filterMap.mp hturn
    rw [← Act.eq_handler_of_turn? hown]
    exact hact

/-! ## Who owns a connection -/

/-- **Connections are owned from their arrival on**, unless those who are told of
it fail. When a forwarder has ended, however it did and whoever else has failed,
the inbound leg of every other connection is closed, and none was closed
unseen. And if nobody fails who is told of an arrival, the loop follows its
source: whatever happens on the connections and whoever fails that is told of
it, the next connection is accepted, and no handler is cancelled before the
source has failed. The forwarder ends only as the source does, unless that has
failed and the handlers that are cancelled for it let faults out. -/
theorem connections_owned
    (h : machine.run (new url sourceId platform cache) acts = some (f, events)) :
    (f.loop.ending?.isSome = true → ∀ i conn leg receivers,
        (arrivals acts)[i]? = some (.accepted conn leg receivers) →
        receivers.accepted = none → leg.closeHeld = false →
          ∃ k last, f.handlers[i]? = some k ∧ k.leg? .inbound = some last ∧
            last.closed = true ∧
            (leg.closed = true ∨ ∃ cover, .leg .inbound cover .closed ∈ eventsOf i events)) ∧
      ((∀ act ∈ acts, act.Unhindered) →
        (∀ supply receivers,
          (f.step (.supplied supply receivers)).isSome = true ↔ sourceState acts = .supplying) ∧
        ((∀ fault, sourceState acts ≠ .failed fault) →
          f.loop.isCancelling = false ∧ ∀ i, .handler i .cancel ∉ acts) ∧
        (∀ ending, f.loop.ending? = some ending → (sourceState acts).Ends f.escapes ending) ∧
        ∀ i k fault, f.handlers[i]? = some k → k.escaped? = some fault →
          .handler i .cancel ∈ acts ∧ ∃ faults, k.ending? = some (.group faults) ∧
            faults.cancelled = true ∧ fault = faults.asFault) := by
  refine ⟨fun hend i conn leg receivers hstart haccepted hheld => ?_, fun hacts => ?_⟩
  · obtain ⟨k, taken, hget, -, hrun⟩ := lane_of_run h hstart
    obtain ⟨last, hlast, -, hclosed⟩ := (Handler.discharged_run hrun haccepted hheld).closes
    have hended := isEnded_of_ended h hend k (List.mem_of_getElem? hget)
    have hshut := hclosed hended
    refine ⟨k, last, hget, hlast, hshut, ?_⟩
    cases hcame : leg.closed with
    | true => exact Or.inl rfl
    | false =>
      have hfirst := (Handler.leg?_accepted conn leg receivers).1
      exact Or.inr (Handler.inbound_shown hrun hfirst hcame hlast hshut)
  · have hsteady := steady_run h hacts
    refine ⟨hsteady.asks, fun hunfailed => ⟨?_, hsteady.spared hunfailed⟩,
      fun ending => hsteady.ends, fun i k fault => escaped_of_run h hacts⟩
    rw [Bool.eq_false_iff]
    intro hcancelling
    obtain ⟨fault, hfailed⟩ := hsteady.loop.failed hcancelling
    exact hunfailed fault hfailed

/-- A run in which the dial of the first connection fails, and so do those who
are told; the second one is relayed all the same, and the source is exhausted. -/
def toldInVain : List Act :=
  [.supplied (.connection {} {}) { dialFailed := some .streamClosed },
    .begin 0 (.error .streamClosed), .handler 0 (.delivered (.error .streamClosed)),
    .supplied (.connection { id := "b" } {}) {}, .begin 1 (.error .streamClosed),
    .handler 1 (.delivered (.ok { leg := {} })), .supplied .exhausted {},
    .handler 1 (.peer .inbound .finish), .handler 1 (.advance .inbound),
    .handler 1 (.abandon .outbound), .handler 1 .closeLegs, .finish]

theorem toldInVain_owned :
    ∃ f events, machine.run (new "tcp://a:1" "s" .posix {}) toldInVain = some (f, events) ∧
      f.loop.ending? = some (.returned ()) ∧
      (∃ cover, .leg .inbound cover .closed ∈ eventsOf 0 events) ∧
      (∃ cover, .leg .inbound cover .closed ∈ eventsOf 1 events) ∧
      ∀ i, .handler i .cancel ∉ toldInVain := by
  obtain ⟨⟨f, events⟩, h⟩ := Option.isSome_iff_exists.mp
    (show (machine.run (new "tcp://a:1" "s" .posix {}) toldInVain).isSome = true by
      decide +kernel)
  have hended : (machine.run (new "tcp://a:1" "s" .posix {}) toldInVain).all
      (fun r => r.1.loop.ending?.isSome) = true := by
    decide +kernel
  rw [h, Option.all_some] at hended
  obtain ⟨hclosed, hfollows⟩ := connections_owned h
  obtain ⟨-, hspared, hending, -⟩ := hfollows (by simp [toldInVain, Act.Unhindered])
  obtain ⟨ending, heq⟩ := Option.isSome_iff_exists.mp hended
  have hreturned : ending = .returned () := by
    rcases hending ending heq with ⟨-, hsource⟩ | ⟨-, ⟨cause, hfailed⟩, -⟩
    · exact (Option.some.inj hsource).symm
    · cases hfailed
  have hseen (i : Nat) (conn : Inbound) (receivers : Receivers)
      (hstart : (arrivals toldInVain)[i]? = some (.accepted conn {} receivers))
      (haccepted : receivers.accepted = none) :
      ∃ cover, .leg .inbound cover .closed ∈ eventsOf i events := by
    obtain ⟨-, -, -, -, -, hcame | hevent⟩ :=
      hclosed hended i conn {} receivers hstart haccepted rfl
    · cases hcame
    · exact hevent
  exact ⟨f, events, h, hreturned ▸ heq, hseen 0 _ _ rfl rfl, hseen 1 _ _ rfl rfl,
    (hspared fun _ => nofun).2⟩

/-- A run in which one connection is relayed when those who are told of the next
one fail. -/
def toldInPain : List Act :=
  [.supplied (.connection {} {}) {}, .begin 0 (.error .streamClosed),
    .handler 0 (.delivered (.ok { leg := {} })),
    .supplied (.connection { id := "b" } {}) { accepted := some .streamClosed },
    .handler 0 .cancel, .handler 0 (.abandon .inbound), .handler 0 (.abandon .outbound),
    .handler 0 .closeLegs, .finish]

/-- **The loop breaks at the failure of those who are told of an arrival**: no
more connections are accepted, the connection in flight is cancelled, the
forwarder ends though its source has not, and the leg of the connection that has
just arrived is left open. -/
theorem dropped_connection_survives :
    ∃ f events, machine.run (new "tcp://a:1" "s" .posix {}) toldInPain = some (f, events) ∧
      sourceState toldInPain = .supplying ∧
      f.loop.ending?.bind Ending.faultName? = some Ending.groupName ∧
      .handler 0 .cancel ∈ toldInPain ∧
      (∃ k leg, f.handlers[1]? = some k ∧ k.leg? .inbound = some leg ∧ leg.closed = false) ∧
      ∀ supply receivers, f.step (.supplied supply receivers) = none := by
  obtain ⟨⟨f, events⟩, h⟩ := Option.isSome_iff_exists.mp
    (show (machine.run (new "tcp://a:1" "s" .posix {}) toldInPain).isSome = true by
      decide +kernel)
  have hseen : (machine.run (new "tcp://a:1" "s" .posix {}) toldInPain).all (fun r =>
      r.1.loop.ending?.bind Ending.faultName? == some Ending.groupName &&
        r.1.handlers[1]?.any fun k => (k.leg? .inbound).any fun leg => !leg.closed) = true := by
    decide +kernel
  simp only [h, Option.all_some, Bool.and_eq_true, beq_iff_eq] at hseen
  obtain ⟨hbroken, hleft⟩ := hseen
  obtain ⟨k, hk, hany⟩ := (Option.any_eq_true _ _).mp hleft
  obtain ⟨leg, hleg, hopen⟩ := (Option.any_eq_true _ _).mp hany
  refine ⟨f, events, h, rfl, hbroken, by simp [toldInPain], ⟨k, leg, hk, hleg, ?_⟩,
    fun supply receivers => ?_⟩
  · simpa using hopen
  · -- a loop that has ended accepts nothing
    cases hloop : f.loop with
    | ended => simp [step, hloop, Loop.isAccepting]
    | accepting | draining | failing | breaking | cancelled =>
      rw [hloop] at hbroken
      cases hbroken

end Forwarder

end TunnelRelay
