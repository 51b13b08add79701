import TunnelRelay.Proofs.Response
import TunnelRelay.Proofs.Verdicts
/-!
# A responder that nobody disturbs

A client keeps to its script, nobody cancels the responder or closes its leg,
and all writes fare alike (`Undisturbed`). What the responder returns and writes
is then a function of the verdict on the script and of how its one write fares
(`outcome`). Each step brings it nearer (`Awaits`), so two runs whose scripts
have one verdict end alike.
-/

namespace TunnelRelay

namespace Leg

variable {leg next : Leg}

/-- How an ending looks when the leg has been closed: a fault of closing takes
its place. -/
def closing {α : Type} (leg : Leg) (ending : Ending α) : Ending α :=
  ((if leg.closeHeld then none else leg.closeFault).map .raised).getD ending

theorem ClosesLike.closing {α : Type} (h : next.ClosesLike leg) (ending : Ending α) :
    next.closing ending = leg.closing ending := by
  rw [Leg.closing, Leg.closing, h.held, h.fault]

theorem closing_eq_self {α : Type} (h : leg.closeFault = none) (ending : Ending α) :
    leg.closing ending = ending := by
  rw [closing, h, ite_self]
  rfl

end Leg

namespace Gateway

variable {g next : Gateway} {act : Act} {acts : List Act} {events : List Event}
variable {result : Gateway × List Event} {leg : Leg} {reason : String} {subject : Log.Subject}
variable {buffer chunk head stream : Bytes} {arrived rest more script : List Leg.Arrival}
variable {verdict : Http.Verdict} {refusal : Option Fault} {written : List Bytes}

/-! ## A run that nobody disturbs -/

/-- An action that does not disturb the responder: it is not cancelled, and its
leg is closed by nobody else. -/
structure Act.Gentle (act : Act) : Prop where
  cancel : act ≠ .cancel
  close : act ≠ .peer .close

theorem gentle_iff : act.Gentle ↔ act ≠ .cancel ∧ act ≠ .peer .close :=
  ⟨fun h => ⟨h.cancel, h.close⟩, fun h => ⟨h.1, h.2⟩⟩

/-- What an action makes arrive. -/
def Act.arrivals : Act → List Leg.Arrival
  | .peer act => act.arrivals
  | .advance | .cancel => []

/-- All that has arrived: what waited on the leg, and what came since. -/
def arrivedBy (leg : Leg) (acts : List Act) : List Leg.Arrival :=
  leg.arrivals ++ acts.flatMap Act.arrivals

theorem arrivedBy_concat (leg : Leg) (acts : List Act) (act : Act) :
    arrivedBy leg (acts ++ [act]) = arrivedBy leg acts ++ act.arrivals := by
  simp [arrivedBy, List.flatMap_append]

/-- How a write fares, if the action is one. -/
def attempt? (g : Gateway) : Act → Option Leg.Sending
  | .advance =>
    match g.stage with
    | .writing _ => some g.leg.send
    | .reading | .closing _ | .ended _ => none
  | .peer _ | .cancel => none

/-- How the writes of a run fare. -/
def attempts (start : Gateway) (acts : List Act) : List Leg.Sending :=
  machine.gather (fun g act => (g.attempt? act).toList) start acts

/-- A write that succeeds, or is refused by this fault. -/
def fate : Option Fault → Leg.Sending
  | none => .sent
  | some fault => .fault fault

theorem fate_eq_sent_iff : fate refusal = .sent ↔ refusal = none := by
  cases refusal <;> simp [fate]

theorem fate_eq_fault_iff {fault : Fault} :
    fate refusal = .fault fault ↔ refusal = some fault := by
  cases refusal <;> simp [fate]

/-- **A run that nobody disturbs**: the client keeps to its script, which may be
longer than what has arrived, and a write of the responder succeeds, or fails
with the given fault. -/
structure Undisturbed (leg : Leg) (reason : String) (subject : Log.Subject)
    (script : List Leg.Arrival) (refusal : Option Fault) (acts : List Act) (g : Gateway)
    (events : List Event) : Prop where
  run : machine.run { leg, reason, subject } acts = some (g, events)
  isOpen : leg.closed = false
  gentle : ∀ act ∈ acts, act.Gentle
  keeps : arrivedBy leg acts <+: script
  writes : ∀ attempt ∈ attempts { leg, reason, subject } acts, attempt = fate refusal

/-- **What such a responder comes to** with a verdict: how it ends, before the
leg is closed, and what it has written. -/
def outcome (reason : String) (refusal : Option Fault) : Http.Verdict → Ending Bool × List Bytes
  | .request request =>
    match refusal with
    | none => (.returned true, [response (body reason) request])
    | some fault => (if fault.kind.isStream then .returned false else .raised fault, [])
  | .incomplete | .closed | .invalid => (.returned false, [])

/-- What is still to come of a verdict, if more arrives after what waits on the
leg, and at the end what has come of it. -/
def Awaits (g : Gateway) (refusal : Option Fault) (more : List Leg.Arrival)
    (verdict : Http.Verdict) (written : List Bytes) : Prop :=
  match g.stage with
  | .reading => g.leg.closed = false ∧ ReadsTo g.buffer (g.leg.arrivals ++ more) verdict ∧
      written = []
  | .writing data => g.leg.closed = false ∧ written = [] ∧
      ∃ request, verdict = .request request ∧ data = response (body g.reason) request
  | .closing ending | .ended ending =>
    ending = g.leg.closing (outcome g.reason refusal verdict).1 ∧
      written = (outcome g.reason refusal verdict).2

/-- An open leg is closed, and that settles how the responder ends. -/
theorem settles_finish (hopen : g.leg.closed = false) (ending : Ending Bool)
    (events : List Event) :
    (g.finish ending events).1.stage = .closing (g.leg.closing ending) ∨
      (g.finish ending events).1.stage = .ended (g.leg.closing ending) := by
  have hfault : g.leg.closing ending = (g.leg.closeFault?.map .raised).getD ending := by
    simp [Leg.closing, Leg.closeFault?, hopen]
  rw [hfault]
  rcases g.stage_finish ending events with ⟨hnone, hstage⟩ | ⟨fault, hsome, hstage⟩
  · exact Or.inl (by rw [hstage, hnone]; rfl)
  · exact Or.inr (by rw [hstage, hsome]; rfl)

theorem writes_finish (g : Gateway) (ending : Ending Bool) (events : List Event) :
    writes (g.finish ending events).2 = writes events := by
  rw [finish, writes_append, writes_legs (Leg.wrote_not_mem_closeEvents g.leg), List.append_nil]

/-- A responder that ends as its verdict asks. -/
theorem awaits_finish {ending : Ending Bool} (hopen : g.leg.closed = false)
    (houtcome : (ending, writes events) = outcome g.reason refusal verdict) :
    (g.finish ending events).1.Awaits refusal more verdict (writes (g.finish ending events).2) := by
  have hclosing : (g.finish ending events).1.leg.ClosesLike g.leg := Leg.closesLike_closeNow _
  have hreason : (g.finish ending events).1.reason = g.reason := rfl
  unfold Awaits
  rcases settles_finish hopen ending events with hstage | hstage <;>
  · simp only [hstage]
    rw [hreason, ← houtcome, writes_finish]
    exact ⟨(hclosing.closing ending).symm, rfl⟩

/-- More arrives, or the leg changes in another way that is gentle. -/
theorem Awaits.peer {own : Leg.Act}
    (h : g.Awaits refusal (own.arrivals ++ more) verdict written) (hown : own ≠ .close) :
    Awaits { g with leg := (g.leg.apply own).1 } refusal more verdict written := by
  have hopen (hclosed : g.leg.closed = false) : (g.leg.apply own).1.closed = false := by
    cases own with
    | close => exact absurd rfl hown
    | deliver | finish | snap | refuse | stall | resume => exact hclosed
  unfold Awaits at h ⊢
  cases hstage : g.stage with
  | reading =>
    simp only [hstage] at h ⊢
    rw [Leg.arrivals_apply, List.append_assoc]
    exact ⟨hopen h.1, h.2⟩
  | writing data =>
    simp only [hstage] at h ⊢
    exact ⟨hopen h.1, h.2⟩
  | closing ending | ended ending =>
    simp only [hstage] at h ⊢
    rwa [(Leg.closesLike_apply g.leg own).closing]

/-- **Each step brings the verdict nearer**, or does what it asks. -/
theorem awaits_passage (h : g.Awaits refusal more verdict written)
    (hp : Passage g .advance result)
    (hfate : ∀ attempt ∈ g.attempt? .advance, attempt = fate refusal) :
    result.1.Awaits refusal more verdict (written ++ writes result.2) := by
  unfold Awaits at h
  cases hp with
  | listen hstage hread hmore =>
    simp only [hstage] at h
    obtain ⟨hopen, hreads, rfl⟩ := h
    rcases hreads.of_receive hread with ⟨rfl, hdone⟩ | ⟨-, hrest⟩
    · exact absurd hmore hdone
    · simp only [Awaits, hstage]
      exact ⟨(Leg.closed_of_receive hread).trans hopen, hrest, rfl⟩
  | settle hstage hread hrequest =>
    simp only [hstage] at h
    obtain ⟨hopen, hreads, rfl⟩ := h
    rcases hreads.of_receive hread with ⟨rfl, -⟩ | ⟨hmore, -⟩
    · exact ⟨(Leg.closed_of_receive hread).trans hopen, rfl, _, hrequest, rfl⟩
    · rw [hmore] at hrequest
      cases hrequest
  | decline hstage hread hnone hsome =>
    simp only [hstage] at h
    obtain ⟨hopen, hreads, rfl⟩ := h
    rcases hreads.of_receive hread with ⟨rfl, hdone⟩ | ⟨hmore, -⟩
    · refine awaits_finish ((Leg.closed_of_receive hread).trans hopen) ?_
      generalize Http.examine _ _ = verdict at hnone
      cases verdict with
      | request request => exact absurd rfl (hnone request)
      | incomplete | closed | invalid => rfl
    · exact absurd hmore hsome
  | unread hstage hread =>
    simp only [hstage] at h
    obtain ⟨hopen, hreads, -⟩ := h
    rcases Leg.receive_fault_cases hread with hclosed | ⟨cause, rest, harrivals⟩
    · rw [hopen] at hclosed
      cases hclosed
    · rw [harrivals] at hreads
      exact absurd rfl hreads.ne_broken
  | @unsent data fault hstage hsend =>
    simp only [hstage] at h
    obtain ⟨hopen, rfl, request, rfl, -⟩ := h
    -- the fault of the write is the one that all writes meet
    have hattempt : g.leg.send = fate refusal := hfate g.leg.send (by simp [attempt?, hstage])
    obtain rfl : refusal = some fault := fate_eq_fault_iff.mp (hattempt.symm.trans hsend)
    unfold fail
    split
    · rename_i hstream
      exact awaits_finish hopen (by simp [outcome, hstream]; rfl)
    · rename_i hother
      exact awaits_finish hopen (by simp [outcome, hother]; rfl)
  | answer hstage hsend =>
    simp only [hstage] at h
    obtain ⟨hopen, rfl, request, rfl, rfl⟩ := h
    have hattempt : g.leg.send = fate refusal := hfate g.leg.send (by simp [attempt?, hstage])
    obtain rfl : refusal = none := fate_eq_sent_iff.mp (hattempt.symm.trans hsend)
    exact awaits_finish hopen rfl
  | leave hstage =>
    simp only [hstage] at h
    rw [writes, List.filterMap_nil, List.append_nil]
    exact h

theorem awaits_step (h : g.Awaits refusal (act.arrivals ++ more) verdict written)
    (hstep : g.step act = some result) (hact : act.Gentle)
    (hfate : ∀ attempt ∈ g.attempt? act, attempt = fate refusal) :
    result.1.Awaits refusal more verdict (written ++ writes result.2) := by
  cases act with
  | cancel => exact absurd rfl hact.cancel
  | advance => exact awaits_passage h (passage_of_advance hstep) hfate
  | peer own =>
    obtain rfl : ({ g with leg := (g.leg.apply own).1 }, (g.leg.apply own).2.map .leg) = result :=
      Option.some.inj hstep
    have hquiet := writes_legs (Leg.wrote_not_mem_apply g.leg own)
    rw [hquiet, List.append_nil]
    exact h.peer fun hclose => hact.close (by rw [hclose])

/-- What a step leaves as it is: what the responder is there to tell, and how
its leg closes. -/
theorem kept_step (hstep : g.step act = some result) :
    result.1.reason = g.reason ∧ result.1.leg.ClosesLike g.leg := by
  by_cases hpeer : ∃ own, act = .peer own
  · obtain ⟨own, rfl⟩ := hpeer
    obtain rfl : ({ g with leg := (g.leg.apply own).1 }, (g.leg.apply own).2.map .leg) = result :=
      Option.some.inj hstep
    exact ⟨rfl, Leg.closesLike_apply _ _⟩
  · have hp := passage_of_step (fun own heq => hpeer ⟨own, heq⟩) hstep
    exact ⟨reason_of_passage hp, closesLike_of_passage hp⟩

theorem kept_run (h : machine.run { leg, reason, subject } acts = some (g, events)) :
    g.reason = reason ∧ g.leg.ClosesLike leg := by
  refine Machine.run_induction (P := fun u _ _ => u.reason = reason ∧ u.leg.ClosesLike leg) ?_ ?_ h
  · exact ⟨rfl, .refl _⟩
  · rintro u next act acts events own - ⟨hreason, hlike⟩ hstep
    obtain ⟨hsame, hcloses⟩ := kept_step hstep
    exact ⟨hsame.trans hreason, hcloses.trans hlike⟩

/-- **The verdict tells what comes of the run.** -/
theorem awaits_run (h : Undisturbed leg reason subject script refusal acts g events)
    (hreads : ReadsTo [] script verdict) :
    ∃ more, script = arrivedBy leg acts ++ more ∧
      g.Awaits refusal more verdict (writes events) := by
  obtain ⟨hrun, hopen, hgentle, ⟨more, rfl⟩, hwrites⟩ := h
  refine ⟨more, rfl, ?_⟩
  refine Machine.run_induction_of (Q := Act.Gentle) (P := fun u acts events =>
    (∀ attempt ∈ attempts { leg, reason, subject } acts, attempt = fate refusal) →
      ∀ more, ReadsTo [] (arrivedBy leg acts ++ more) verdict →
        u.Awaits refusal more verdict (writes events)) ?_ ?_ hrun hgentle hwrites more hreads
  · intro _ more hmore
    rw [arrivedBy, List.flatMap_nil, List.append_nil] at hmore
    exact ⟨hopen, hmore, rfl⟩
  · intro u next act acts events own hbefore hu hstep hact hall more hmore
    have hsplit : attempts { leg, reason, subject } (acts ++ [act]) =
        attempts { leg, reason, subject } acts ++ (u.attempt? act).toList :=
      Machine.gather_concat hbefore act
    rw [hsplit] at hall
    rw [arrivedBy_concat, List.append_assoc] at hmore
    rw [writes_append]
    refine awaits_step (hu (fun attempt hmem => ?_) _ hmore) hstep hact fun attempt hmem => ?_
    · exact hall _ (List.mem_append_left _ hmem)
    · exact hall _ (List.mem_append_right _ (Option.mem_toList.mpr hmem))

/-- A leg that is open, and on which writes always fare like this. -/
structure Steady (refusal : Option Fault) (leg : Leg) : Prop where
  isOpen : leg.closed = false
  fault : leg.sendFault = refusal

theorem Steady.send (h : Steady refusal leg) (hsend : leg.send ≠ .waiting) :
    leg.send = fate refusal := by
  obtain ⟨hopen, rfl⟩ := h
  simp only [Leg.send, hopen, Bool.false_eq_true, if_false] at hsend ⊢
  split at hsend
  · exact absurd rfl hsend
  · rename_i hflow
    rw [if_neg hflow]
    cases leg.sendFault <;> rfl

/-- The leg of a responder that goes on is as steady as it was, if the peer does
not begin to refuse writes. -/
theorem steady_step (h : Steady refusal g.leg) (hstep : g.step act = some result)
    (hact : act.Gentle) (hrefuse : ∀ fault, act ≠ .peer (.refuse fault))
    (hgoes : result.1.stage.isOver = false) : Steady refusal result.1.leg := by
  have hfinish {other : Gateway} {ending : Ending Bool} {events : List Event}
      (h : (other.finish ending events).1.stage.isOver = false) : Steady refusal result.1.leg := by
    rw [finish_over] at h
    cases h
  have hread {chunk : Bytes} {next : Leg}
      (hread : g.leg.receive Http.headLimit = .data chunk next) : Steady refusal next := by
    rw [Leg.receive_eq hread]
    exact ⟨h.isOpen, h.fault⟩
  cases act with
  | cancel => exact absurd rfl hact.cancel
  | peer own =>
    obtain rfl : ({ g with leg := (g.leg.apply own).1 }, (g.leg.apply own).2.map .leg) = result :=
      Option.some.inj hstep
    cases own with
    | close => exact absurd rfl hact.close
    | refuse fault => exact absurd rfl (hrefuse fault)
    | deliver | finish | snap | stall | resume => exact ⟨h.isOpen, h.fault⟩
  | advance =>
    cases passage_of_advance hstep with
    | listen _ hdata | settle _ hdata => exact hread hdata
    | decline | answer => exact hfinish hgoes
    | unread | unsent =>
      rename_i fault _ _
      obtain ⟨ending, message, heq, -⟩ := fail_spec g fault
      rw [heq] at hgoes
      exact hfinish hgoes
    | leave => cases hgoes

/-- **On a steady leg all writes fare alike.** -/
theorem attempts_of_steady (h : machine.run { leg, reason, subject } acts = some (g, events))
    (hleg : Steady refusal leg)
    (hacts : ∀ act ∈ acts, act.Gentle ∧ ∀ fault, act ≠ .peer (.refuse fault)) :
    ∀ attempt ∈ attempts { leg, reason, subject } acts, attempt = fate refusal := by
  refine (Machine.run_induction_of
    (Q := fun act : Act => act.Gentle ∧ ∀ fault, act ≠ .peer (.refuse fault))
    (P := fun u acts _ => (u.stage.isOver = false → Steady refusal u.leg) ∧
      ∀ attempt ∈ attempts { leg, reason, subject } acts, attempt = fate refusal)
    ⟨fun _ => hleg, nofun⟩ ?_ h hacts).2
  rintro u next act acts events own hbefore ⟨hsteady, hall⟩ hstep ⟨hact, hrefuse⟩
  have hgoes (hnext : next.stage.isOver = false) : u.stage.isOver = false := by
    cases act with
    | cancel => exact absurd rfl hact.cancel
    | advance =>
      rw [Bool.eq_false_iff]
      intro hover
      rw [(over_of_passage (passage_of_advance hstep) hover).1] at hnext
      cases hnext
    | peer own' =>
      obtain ⟨rfl, rfl⟩ := Prod.mk.inj (Option.some.inj hstep)
      exact hnext
  refine ⟨fun hnext => steady_step (hsteady (hgoes hnext)) hstep hact hrefuse hnext, ?_⟩
  intro attempt hmem
  rw [attempts, Machine.gather_concat hbefore] at hmem
  rcases List.mem_append.mp hmem with hbefore | hlast
  · exact hall attempt hbefore
  · have hattempt := Option.mem_toList.mp hlast
    cases act with
    | peer | cancel => cases hattempt
    | advance =>
      cases hstage : u.stage with
      | reading | closing | ended => simp [attempt?, hstage] at hattempt
      | writing data =>
        simp only [attempt?, hstage, Option.some.injEq] at hattempt
        -- a write that would wait is not made
        have hsend : u.leg.send ≠ .waiting := by
          intro hwaits
          simp [machine, step, advance, hstage, hwaits] at hstep
        rw [← hattempt]
        exact (hsteady (by rw [hstage]; rfl)).send hsend

theorem undisturbed_of_steady (h : machine.run { leg, reason, subject } acts = some (g, events))
    (hleg : Steady refusal leg)
    (hacts : ∀ act ∈ acts, act.Gentle ∧ ∀ fault, act ≠ .peer (.refuse fault))
    (hscript : arrivedBy leg acts <+: script) :
    Undisturbed leg reason subject script refusal acts g events :=
  ⟨h, hleg.isOpen, fun act hact => (hacts act hact).1, hscript, attempts_of_steady h hleg hacts⟩

/-! ## Coming to the end -/

theorem ends_of_writing {data : Bytes} (hstage : g.stage = .writing data)
    (hopen : g.leg.closed = false) (hflow : g.leg.stalled = false) : ∃ data, g.Answers data := by
  have hstep : ∃ ending events, g.advance = some (g.finish ending events) := by
    simp only [advance, hstage, Leg.send, hopen, hflow, Bool.false_eq_true, if_false]
    cases g.leg.sendFault with
    | none => exact ⟨_, _, rfl⟩
    | some fault =>
      obtain ⟨ending, message, heq, -⟩ := fail_spec g fault
      exact ⟨ending, message, congrArg some heq⟩
  obtain ⟨ending, events, hstep⟩ := hstep
  exact ⟨_, answers_of_finish hstep⟩

theorem ends_of_readsTo (h : ReadsTo buffer arrived verdict) (hstage : g.stage = .reading)
    (hbuffer : g.buffer = buffer) (harrived : g.leg.arrivals = arrived)
    (hopen : g.leg.closed = false) (hflow : g.leg.stalled = false) : ∃ data, g.Answers data := by
  induction h generalizing g with
  | @now buffer chunk arrived rest verdict htake hverdict hdone =>
    have hread := Leg.receive_of_take? hopen (harrived ▸ htake)
    have hstep : g.advance = some (({ g with
        leg := { g.leg with arrivals := rest }
        buffer := buffer ++ chunk } : Gateway).consider (chunk = [])) := by
      simp only [advance, hstage, hread, hbuffer]
    unfold consider at hstep
    cases verdict with
    | incomplete => exact absurd rfl hdone
    | closed | invalid =>
      simp only [hverdict] at hstep
      exact ⟨_, answers_of_finish hstep⟩
    | request request =>
      simp only [hverdict] at hstep
      obtain ⟨data, hanswers⟩ := ends_of_writing (g := { g with
        leg := { g.leg with arrivals := rest }
        buffer := buffer ++ chunk
        stage := .writing (response (body g.reason) request) }) rfl hopen hflow
      exact ⟨data, hanswers.of_advance hstep rfl⟩
  | @later buffer chunk arrived rest verdict htake hmore _ ih =>
    have hread := Leg.receive_of_take? hopen (harrived ▸ htake)
    have hstep : g.advance = some ({ g with
        leg := { g.leg with arrivals := rest }
        buffer := buffer ++ chunk }, []) := by
      simp only [advance, hstage, hread, hbuffer, consider, hmore]
    obtain ⟨data, hanswers⟩ := ih (g := { g with
      leg := { g.leg with arrivals := rest }
      buffer := buffer ++ chunk }) hstage rfl rfl hopen hflow
    exact ⟨data, hanswers.of_advance hstep rfl⟩

/-- **A responder that has all of its script comes to its end**, once writes are
not stalled. -/
theorem Awaits.ends (h : g.Awaits refusal [] verdict written) (hflow : g.leg.stalled = false) :
    ∃ data, g.Answers data := by
  unfold Awaits at h
  cases hstage : g.stage with
  | reading =>
    simp only [hstage, List.append_nil] at h
    exact ends_of_readsTo h.2.1 hstage rfl rfl h.1 hflow
  | writing data =>
    simp only [hstage] at h
    exact ends_of_writing hstage h.1 hflow
  | closing ending | ended ending => exact ⟨[], answers_of_over (by rw [hstage]; rfl)⟩

/-! ## Two runs -/

section TwoRuns

variable {leg' : Leg} {subject' : Log.Subject} {script' : List Leg.Arrival} {acts' : List Act}
variable {g' : Gateway} {events' : List Event}

/-- **Two scripts that agree on what counts**: they begin with the same head,
which ends in a blank line and is not too long, or they bring the same stream,
which has no blank line, and end it. They may cut it into any chunks, and go on
after it as they like. -/
inductive Agree (script script' : List Leg.Arrival) : Prop
  | head {head after after' : Bytes} {rest rest' : List Leg.Arrival} :
      Http.EndsInBlank head → head.length ≤ Http.headLimit →
      Sends script (head ++ after) rest → Sends script' (head ++ after') rest' →
      Agree script script'
  | stream {stream : Bytes} {rest rest' : List Leg.Arrival} : ¬ Http.HasBlank stream →
      Sends script stream (.ended :: rest) → Sends script' stream (.ended :: rest') →
      Agree script script'

/-- Scripts that agree come to the same verdict. -/
theorem Agree.readsTo (h : Agree script script') :
    ∃ verdict, ReadsTo [] script verdict ∧ ReadsTo [] script' verdict := by
  cases h with
  | @head head _ _ _ _ hblank hfits hsends hsends' =>
    obtain ⟨lines, hlines⟩ := Http.headLines?_of_blank hblank
    have hne : head ≠ [] := by
      rintro rfl
      cases hlines
    exact ⟨_, readsTo_head hlines hne hfits hsends, readsTo_head hlines hne hfits hsends'⟩
  | stream hblank hsends hsends' =>
    exact ⟨_, readsTo_ended hblank hsends, readsTo_ended hblank hsends'⟩

/-- **The answer depends on the head alone.** Take two runs that nobody disturbs,
on legs that close alike and with writes that fare alike. If the scripts of the
clients agree up to a blank line, or up to the end of a stream without one, then
the responders end alike and write the same, in whatever chunks the scripts
arrive and whatever follows. And each of them does end: with all of its script
it only has to go on, once writes are not stalled. -/
theorem answer_of_head (h : Undisturbed leg reason subject script refusal acts g events)
    (h' : Undisturbed leg' reason subject' script' refusal acts' g' events')
    (hagree : Agree script script') (hcloses : leg.ClosesLike leg') :
    (∀ ending ending', g.stage = .ended ending → g'.stage = .ended ending' →
      ending = ending' ∧ writes events = writes events') ∧
    (arrivedBy leg acts = script → g.leg.stalled = false → ∃ data, g.Answers data) ∧
    (arrivedBy leg' acts' = script' → g'.leg.stalled = false → ∃ data, g'.Answers data) := by
  obtain ⟨verdict, hreads, hreads'⟩ := hagree.readsTo
  obtain ⟨more, hmore, hawaits⟩ := awaits_run h hreads
  obtain ⟨more', hmore', hawaits'⟩ := awaits_run h' hreads'
  refine ⟨fun ending ending' hended hended' => ?_, fun hall hflow => ?_, fun hall hflow => ?_⟩
  · obtain ⟨hreason, hlike⟩ := kept_run h.run
    obtain ⟨hreason', hlike'⟩ := kept_run h'.run
    simp only [Awaits, hended] at hawaits
    simp only [Awaits, hended'] at hawaits'
    obtain ⟨rfl, hwritten⟩ := hawaits
    obtain ⟨rfl, hwritten'⟩ := hawaits'
    rw [hwritten, hwritten', hreason, hreason']
    exact ⟨((hlike.trans hcloses).trans ⟨hlike'.fault.symm, hlike'.held.symm⟩).closing _, rfl⟩
  · obtain rfl : more = [] := List.self_eq_append_right.mp (hall.trans hmore)
    exact hawaits.ends hflow
  · obtain rfl : more' = [] := List.self_eq_append_right.mp (hall.trans hmore')
    exact hawaits'.ends hflow

end TwoRuns

/-- The head of a request. -/
def plainHead : Bytes := Http.asciiBytes "GET / HTTP/1.1\r\nHost: a\r\n\r\n"

/-- A client that sends the head at once, and the beginning of another after
it. -/
def atOnce : List Act :=
  [.peer (.deliver (plainHead ++ Http.asciiBytes "GET ")), .advance, .advance, .advance]

/-- A client that sends the head in three pieces, one of them within the blank
line, and breaks off. -/
def inPieces : List Act :=
  [.peer (.deliver (plainHead.take 8)), .advance, .peer (.deliver ((plainHead.drop 8).take 18)),
    .advance, .peer (.deliver (plainHead.drop 26)), .peer (.snap .streamClosed), .advance, .advance,
    .advance]

/-- Both are answered, and alike. -/
theorem inPieces_answered_alike :
    ∃ g events g' events' ending ending',
      machine.run { leg := {}, reason := "gone" } atOnce = some (g, events) ∧
      machine.run { leg := {}, reason := "gone" } inPieces = some (g', events') ∧
      g.stage = .ended ending ∧ g'.stage = .ended ending' ∧
      ending = ending' ∧ writes events = writes events' := by
  have hleg : Steady none {} := ⟨rfl, rfl⟩
  have hfirst : Sends (arrivedBy {} atOnce) (plainHead ++ Http.asciiBytes "GET ") [] :=
    ⟨[plainHead ++ Http.asciiBytes "GET "], by decide, List.append_nil _, rfl⟩
  have hsecond : Sends (arrivedBy {} inPieces) (plainHead ++ []) [.broken .streamClosed] :=
    ⟨[plainHead.take 8, (plainHead.drop 8).take 18, plainHead.drop 26], by decide, by decide, rfl⟩
  have hagree : Agree (arrivedBy {} atOnce) (arrivedBy {} inPieces) :=
    .head ⟨[10, 13, 10], by decide, by decide⟩ (by decide) hfirst hsecond
  have hgentle : ∀ acts ∈ [atOnce, inPieces], ∀ act ∈ acts,
      act.Gentle ∧ ∀ fault, act ≠ .peer (.refuse fault) := by
    simp [atOnce, inPieces, gentle_iff]
  obtain ⟨⟨g, events⟩, h, hended⟩ := (Option.any_eq_true _ _).mp
    (show (machine.run { leg := {}, reason := "gone" } atOnce).any (·.1.stage.isEnded) = true by
      decide +kernel)
  obtain ⟨⟨g', events'⟩, h', hended'⟩ := (Option.any_eq_true _ _).mp
    (show (machine.run { leg := {}, reason := "gone" } inPieces).any (·.1.stage.isEnded) = true by
      decide +kernel)
  obtain ⟨ending, hended⟩ := Stage.isEnded_iff.mp hended
  obtain ⟨ending', hended'⟩ := Stage.isEnded_iff.mp hended'
  have hboth := answer_of_head
    (undisturbed_of_steady h hleg (hgentle atOnce (by simp)) List.prefix_rfl)
    (undisturbed_of_steady h' hleg (hgentle inPieces (by simp)) List.prefix_rfl) hagree (.refl _)
  obtain ⟨hsame, hwrites⟩ := hboth.1 ending ending' hended hended'
  exact ⟨g, events, g', events', ending, ending', h, h', hended, hended', hsame, hwrites⟩

end Gateway

end TunnelRelay
