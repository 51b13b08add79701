import TunnelRelay.Proofs.Closing
import TunnelRelay.Proofs.Sealing
/-!
# What the pumps of a relay meet

What the pumps meet on their reads and writes is the history of a relay
(`meetings`), and decides how it ends. Three things are read off it at every
moment: the faults are kept in the order in which they were met (`Books`), what
a pump has read it has written before it reads again (`Flows`), and a relay
stops for a reason (`Stopped`): it was cancelled, a pump has met a fault, or a
pump has come to the end of its stream with all written that it had read. With
what is true of a relay that has ended (`Done`) they are its accounts
(`Accounts`), which every action keeps.
-/

namespace TunnelRelay

namespace Relay

variable {r next : Relay} {act : Act} {acts : List Act} {events : List Event}
variable {result : Relay × List Event} {legs : Both Leg} {side : Side} {ending : Ending Outcome}

/-! ## What the pumps meet in a run -/

/-- The chunk that is read, the empty one at the end of the stream. -/
def Meeting.read? : Meeting → Option Bytes
  | .chunk data => some data
  | .last => some []
  | .wrote _ | .fault _ => none

/-- The fault that is met. -/
def Meeting.fault? : Meeting → Option Fault
  | .fault cause => some cause
  | .chunk _ | .last | .wrote _ => none

/-- What a pump meets by an action, with the side that it reads from. -/
def met (r : Relay) : Act → List (Side × Meeting)
  | .advance side => (r.meeting? side).toList.map (side, ·)
  | .peer _ _ | .abandon _ | .cancel | .close => []

/-- **What the pumps meet in a run**, in order. -/
def meetings (legs : Both Leg) (acts : List Act) : List (Side × Meeting) :=
  machine.gather met (start legs) acts

/-- The faults that are met on reads and writes, in order. -/
def faultsOf (met : List (Side × Meeting)) : List Fault := met.filterMap (·.2.fault?)

/-- The chunks that are read from a side, in order. -/
def readsOf (side : Side) (met : List (Side × Meeting)) : List Bytes :=
  met.filterMap fun m => if m.1 = side then m.2.read? else none

variable {seen more : List (Side × Meeting)} {meeting : Meeting}

theorem readsOf_append (side : Side) (seen more : List (Side × Meeting)) :
    readsOf side (seen ++ more) = readsOf side seen ++ readsOf side more :=
  List.filterMap_append

theorem readsOf_singleton (side : Side) (meeting : Meeting) :
    readsOf side [(side, meeting)] = meeting.read?.toList := by
  cases meeting <;> simp [readsOf, Meeting.read?]

theorem readsOf_other (side : Side) (meeting : Meeting) :
    readsOf side.other [(side, meeting)] = [] := by
  simp [readsOf]

theorem closeLegs_kept (r : Relay) : r.closeLegs.1.faults = r.faults ∧
    r.closeLegs.1.crashes = r.crashes ∧ r.closeLegs.1.stopping = r.stopping ∧
      r.closeLegs.1.halted = r.halted := by
  unfold closeLegs
  split <;> exact ⟨rfl, rfl, rfl, rfl⟩

/-- **What the other actions leave as it is**: nothing is met or written. -/
structure Idle (r : Relay) (act : Act) (result : Relay × List Event) : Prop where
  met : r.met act = []
  faults : result.1.faults = r.faults
  crashes : result.1.crashes = r.crashes
  moved : result.1.moved = r.moved
  pumps : ∀ side, result.1.pumps.get side = r.pumps.get side ∨
    result.1.pumps.get side = .ended ∧ r.stopping = true
  queued : ∀ side, (result.1.legs.get side).queued = (r.legs.get side).queued ++ act.sent side
  written : ∀ side, writtenOn side result.2 = []
  stopping : result.1.stopping = true ↔ r.stopping = true ∨ act = .cancel

theorem idle_step (hact : ∀ side, act ≠ .advance side) (hstep : r.step act = some result) :
    Idle r act result := by
  have hsame (side : Side) : (r.legs.get side).queued = (r.legs.get side).queued ++ [] :=
    (List.append_nil _).symm
  cases act with
  | advance side => exact absurd rfl (hact side)
  | peer side own =>
    cases passage_of_step hstep with
    | peer =>
      refine ⟨rfl, rfl, rfl, rfl, fun _ => Or.inl rfl, fun other => ?_,
        fun _ => writtenOn_map fun _ => Leg.written_apply, by simp⟩
      rcases Side.eq_or_eq_other side other with rfl | rfl
      · simpa [Act.sent] using Leg.queued_apply
      · simp [Act.sent]
  | abandon side =>
    obtain ⟨hstop, -, rfl⟩ := abandon_cases hstep
    refine ⟨rfl, rfl, rfl, rfl, fun other => ?_, hsame, fun _ => rfl, ?_⟩
    · rcases Side.eq_or_eq_other side other with rfl | rfl
      · exact Or.inr ⟨by simp [haltPump, endPump], hstop⟩
      · exact Or.inl (by simp [haltPump, endPump])
    · simp [haltPump, endPump, hstop]
  | cancel =>
    cases passage_of_step hstep with
    | cancel => exact ⟨rfl, rfl, rfl, rfl, fun _ => Or.inl rfl, hsame, fun _ => rfl, by simp⟩
  | close =>
    cases passage_of_step hstep with
    | close =>
      obtain ⟨-, hpumps, hmoved, -⟩ := closeLegs_frame r
      obtain ⟨hfaults, hcrashes, hstopping, -⟩ := closeLegs_kept r
      exact ⟨rfl, hfaults, hcrashes, hmoved, fun _ => Or.inl (by rw [hpumps]),
        fun side => (queued_closeLegs r side).trans (hsame side), written_closeLegs r,
        by simp [hstopping]⟩

/-- **What an action can be**: a step of a pump that has met something, or one that
leaves most as it is. -/
theorem step_cases (hstep : r.step act = some result) :
    (∃ side meeting, act = .advance side ∧ r.met act = [(side, meeting)] ∧
      r.meeting? side = some meeting ∧ Pumps r side meeting result) ∨ Idle r act result := by
  by_cases hact : ∃ side, act = .advance side
  · obtain ⟨side, rfl⟩ := hact
    obtain ⟨meeting, hmeets, hpumps⟩ := pumps_of_advance hstep
    exact Or.inl ⟨side, meeting, rfl, by simp [met, hmeets], hmeets, hpumps⟩
  · exact Or.inr (idle_step (fun side heq => hact ⟨side, heq⟩) hstep)

/-- A step of a pump leaves the other direction as it is. -/
theorem other_pumps (hp : Pumps r side meeting result) :
    result.1.pumps.get side.other = r.pumps.get side.other ∧
      readsOf side.other (seen ++ [(side, meeting)]) = readsOf side.other seen ∧
      writtenOn side (events ++ result.2) = writtenOn side events := by
  rw [readsOf_append, readsOf_other, List.append_nil, writtenOn_append]
  cases hp with
  | last | unread | unsent => simp [endPump]
  | chunk => simp [continuePump]
  | wrote => simp [continuePump, writtenOn, Event.writtenOn, legEvent]

/-- So does every other action with both. -/
theorem Idle.history (h : Idle r act result) (side : Side) :
    readsOf side (seen ++ r.met act) = readsOf side seen ∧
      writtenOn side.other (events ++ result.2) = writtenOn side.other events := by
  rw [h.met, List.append_nil, writtenOn_append, h.written, List.append_nil]
  exact ⟨rfl, rfl⟩

/-! ## The faults -/

/-- **A relay keeps the faults that its pumps meet**, those of reading and
writing apart from all others. -/
structure Books (r : Relay) (seen : List (Side × Meeting)) : Prop where
  faults : r.faults = (faultsOf seen).filter (·.kind.isStream)
  crashes : r.crashes = (faultsOf seen).filter (!·.kind.isStream)

theorem books_recordFault (h : Books r seen) (fault : Fault) :
    Books (r.recordFault fault) (seen ++ [(side, .fault fault)]) := by
  obtain ⟨hfaults, hcrashes⟩ := h
  have hmet : faultsOf (seen ++ [(side, .fault fault)]) = faultsOf seen ++ [fault] := by
    simp [faultsOf, Meeting.fault?]
  unfold recordFault
  split
  · rename_i hstream
    exact ⟨by simp [hmet, hfaults, hstream], by simp [hmet, hcrashes, hstream]⟩
  · rename_i hother
    exact ⟨by simp [hmet, hfaults, hother], by simp [hmet, hcrashes, hother]⟩

theorem books_step (h : Books r seen) (hstep : r.step act = some result) :
    Books result.1 (seen ++ r.met act) := by
  rcases step_cases hstep with ⟨side, meeting, rfl, hmet, -, hpumps⟩ | hidle
  · rw [hmet]
    have hsame (hnone : meeting.fault? = none) :
        faultsOf (seen ++ [(side, meeting)]) = faultsOf seen := by
      simp [faultsOf, hnone]
    cases hpumps with
    | last | chunk | wrote =>
      have hnone := hsame rfl
      exact ⟨hnone ▸ h.faults, hnone ▸ h.crashes⟩
    | unread | unsent =>
      obtain ⟨hfaults, hcrashes⟩ := books_recordFault h _
      exact ⟨hfaults, hcrashes⟩
  · rw [hidle.met, List.append_nil]
    exact ⟨hidle.faults.trans h.faults, hidle.crashes.trans h.crashes⟩

/-! ## Each direction -/

/-- **What a pump has read and what was written**: the same, but for the chunk
that it holds. -/
def Flows (pump : Pump) (reads : List Bytes) (written : Bytes) : Prop :=
  match pump with
  | .reading => (∀ read ∈ reads, read ≠ []) ∧ written = reads.flatten
  | .writing chunk => (∀ read ∈ reads, read ≠ []) ∧ written ++ chunk = reads.flatten
  | .ended => True

/-- **A direction that is done**: it was read to the end of its stream, and all
that was read before the end was written. -/
def Drained (reads : List Bytes) (written : Bytes) : Prop :=
  ∃ chunks, reads = chunks ++ [[]] ∧ (∀ chunk ∈ chunks, chunk ≠ []) ∧ written = chunks.flatten

/-- A pump that goes on, unless it has been told to stop. -/
theorem flows_continue {pump : Pump} {reads : List Bytes} {written : Bytes}
    (h : Flows pump reads written) (stopping : Bool) :
    Flows (if stopping then .ended else pump) reads written := by
  cases stopping with
  | false => exact h
  | true => trivial

/-- **A step of a pump moves its own direction**, and leaves the other. -/
theorem flows_pumps (h : Flows (r.pumps.get side) (readsOf side seen) (writtenOn side.other events))
    (hp : Pumps r side meeting result) :
    Flows (result.1.pumps.get side) (readsOf side (seen ++ [(side, meeting)]))
      (writtenOn side.other (events ++ result.2)) := by
  rw [readsOf_append, readsOf_singleton, writtenOn_append]
  cases hp with
  | last | unread | unsent => simp [endPump, Flows]
  | @chunk chunk leg hpump hread hchunk =>
    rw [hpump] at h
    have hnext : Flows (.writing chunk) (readsOf side seen ++ [chunk])
        (writtenOn side.other events) := by
      refine ⟨fun read hmem => ?_, ?_⟩
      · rcases List.mem_append.mp hmem with hmem | hmem
        · exact h.1 read hmem
        · rw [List.mem_singleton.mp hmem]
          exact hchunk
      · rw [List.flatten_concat, ← h.2]
    simpa [continuePump, Meeting.read?] using flows_continue hnext r.stopping
  | @wrote chunk hpump hsend =>
    rw [hpump] at h
    have hwrote : writtenOn side.other [r.legEvent side.other (.wrote chunk)] = chunk := by
      simp [writtenOn, Event.writtenOn, legEvent, Leg.Event.written]
    have hnext : Flows .reading (readsOf side seen) (writtenOn side.other events ++ chunk) := h
    rw [hwrote, Meeting.read?, Option.toList_none, List.append_nil]
    simpa [continuePump] using flows_continue hnext r.stopping

theorem flows_step
    (h : ∀ side, Flows (r.pumps.get side) (readsOf side seen) (writtenOn side.other events))
    (hstep : r.step act = some result) (side : Side) :
    Flows (result.1.pumps.get side) (readsOf side (seen ++ r.met act))
      (writtenOn side.other (events ++ result.2)) := by
  rcases step_cases hstep with ⟨own, meeting, rfl, hmet, -, hpumps⟩ | hidle
  · rw [hmet]
    rcases Side.eq_or_eq_other own side with rfl | rfl
    · exact flows_pumps (h side) hpumps
    · have hother := h own.other
      obtain ⟨hsame, hreads, hwritten⟩ := other_pumps hpumps
      rw [Side.other_other] at hother ⊢
      rw [hsame, hreads, hwritten]
      exact hother
  · obtain ⟨hreads, hwritten⟩ := hidle.history side
    rw [hreads, hwritten]
    rcases hidle.pumps side with hsame | ⟨hended, -⟩
    · rw [hsame]
      exact h side
    · rw [hended]
      trivial

/-- **What was read of a side** is what its peer has sent, up to what waits on the
leg. -/
theorem received_step {sent : Side → Bytes}
    (h : ∀ side, sent side = (readsOf side seen).flatten ++ (r.legs.get side).queued)
    (hstep : r.step act = some result) (side : Side) :
    sent side ++ act.sent side =
      (readsOf side (seen ++ r.met act)).flatten ++ (result.1.legs.get side).queued := by
  rw [h, List.append_assoc]
  rcases step_cases hstep with ⟨own, meeting, rfl, hmet, -, hpumps⟩ | hidle
  · have hnone : (Act.advance own).sent side = [] := rfl
    rw [hmet, readsOf_append, List.flatten_append, List.append_assoc, hnone, List.append_nil]
    refine congrArg _ ?_
    rcases Side.eq_or_eq_other own side with rfl | rfl
    · rw [readsOf_singleton]
      cases hpumps with
      | last hpump hread | chunk hpump hread =>
        rw [(Leg.queued_of_receive hread).1]
        simp [Meeting.read?]
      | wrote | unread | unsent => simp [Meeting.read?, endPump, continuePump]
    · rw [readsOf_other]
      cases hpumps <;> simp [endPump, continuePump]
  · rw [hidle.met, List.append_nil, hidle.queued]

/-! ## Stopping -/

/-- **Why a relay stops**: it was cancelled, a fault was met, or a direction is
done. -/
def Stopped (r : Relay) (seen : List (Side × Meeting)) (events : List Event) : Prop :=
  r.cancelled = true ∨ faultsOf seen ≠ [] ∨
    ∃ side, r.pumps.get side = .ended ∧ Drained (readsOf side seen) (writtenOn side.other events)

/-- A reason to stop stays one. -/
theorem stopped_step (h : Stopped r seen events) (hstep : r.step act = some result) :
    Stopped result.1 (seen ++ r.met act) (events ++ result.2) := by
  rcases h with hcancelled | hfaults | ⟨side, hended, hdrained⟩
  · refine Or.inl ?_
    by_cases hcancel : act = .cancel
    · rw [hcancel] at hstep
      cases passage_of_step hstep with
      | cancel => rfl
    · rw [(frame_step (passage_of_step hstep)).2.1 hcancel]
      exact hcancelled
  · refine Or.inr (Or.inl ?_)
    rw [faultsOf, List.filterMap_append]
    exact List.append_ne_nil_of_left_ne_nil hfaults _
  · refine Or.inr (Or.inr ⟨side, ?_⟩)
    rcases step_cases hstep with ⟨own, meeting, rfl, hmet, hmeets, hpumps⟩ | hidle
    · -- a pump that has ended makes no step, so it is the other one
      rcases Side.eq_or_eq_other own side with rfl | rfl
      · simp [meeting?, hended] at hmeets
      · obtain ⟨hsame, hreads, hwritten⟩ := other_pumps hpumps
        rw [Side.other_other] at hdrained ⊢
        rw [hmet, hsame, hreads, hwritten]
        exact ⟨hended, hdrained⟩
    · obtain ⟨hreads, hwritten⟩ := hidle.history side
      rw [hreads, hwritten]
      refine ⟨?_, hdrained⟩
      rcases hidle.pumps side with hsame | ⟨hnow, -⟩
      · exact hsame.trans hended
      · exact hnow

/-- **A relay stops for a reason.** -/
theorem stops_step
    (hflows : ∀ side, Flows (r.pumps.get side) (readsOf side seen) (writtenOn side.other events))
    (h : r.stopping = true → Stopped r seen events) (hstep : r.step act = some result)
    (hnow : result.1.stopping = true) :
    Stopped result.1 (seen ++ r.met act) (events ++ result.2) := by
  by_cases hbefore : r.stopping = true
  · exact stopped_step (h hbefore) hstep
  · rcases step_cases hstep with ⟨side, meeting, rfl, hmet, -, hpumps⟩ | hidle
    · rw [hmet]
      cases hpumps with
      | chunk | wrote => exact absurd hnow hbefore
      | unread | unsent => exact Or.inr (Or.inl (by simp [faultsOf, Meeting.fault?]))
      | last hpump hread =>
        have hside := hflows side
        rw [hpump] at hside
        refine Or.inr (Or.inr ⟨side, by simp [endPump], readsOf side seen, ?_, hside.1, ?_⟩)
        · rw [readsOf_append, readsOf_singleton]
          rfl
        · rw [List.append_nil]
          exact hside.2
    · rcases hidle.stopping.mp hnow with hstop | rfl
      · exact absurd hstop hbefore
      · cases passage_of_step hstep with
        | cancel => exact Or.inl rfl

/-- What was told to stop stays so. -/
theorem stopping_step (h : r.stopping = true) (hstep : r.step act = some result) :
    result.1.stopping = true := by
  rcases step_cases hstep with ⟨side, meeting, rfl, -, -, hpumps⟩ | hidle
  · cases hpumps with
    | last | unread | unsent => rfl
    | chunk | wrote => exact h
  · exact hidle.stopping.mpr (Or.inl h)

/-- **A relay stops as soon as it is cancelled or one of its pumps has ended.** -/
theorem told_step
    (h : (r.cancelled = true ∨ ∃ side, r.pumps.get side = .ended) → r.stopping = true)
    (hstep : r.step act = some result)
    (hwhy : result.1.cancelled = true ∨ ∃ side, result.1.pumps.get side = .ended) :
    result.1.stopping = true := by
  by_cases hbefore : r.stopping = true
  · exact stopping_step hbefore hstep
  · obtain ⟨hopen, hwork⟩ := not_or.mp fun hwhy => hbefore (h hwhy)
    have hkept := (frame_step (passage_of_step hstep)).2.1
    rcases step_cases hstep with ⟨side, meeting, rfl, -, -, hpumps⟩ | hidle
    · -- a pump that goes on has not ended, as nobody has told it to stop
      have hgoes (pump : Pump) (hpump : pump ≠ .ended)
          (hpumps : result.1.pumps = (r.continuePump side pump).pumps) : False := by
        rcases hwhy with hcancelled | ⟨other, hended⟩
        · exact hopen ((hkept (by simp)).symm.trans hcancelled)
        · rw [hpumps] at hended
          rcases Side.eq_or_eq_other side other with rfl | rfl
          · exact hpump (by simpa [continuePump, hbefore] using hended)
          · exact hwork ⟨side.other, by simpa [continuePump] using hended⟩
      cases hpumps with
      | last | unread | unsent => rfl
      | @chunk chunk => exact (hgoes (.writing chunk) (by simp) rfl).elim
      | wrote => exact (hgoes .reading (by simp) rfl).elim
    · rcases hwhy with hcancelled | ⟨side, hended⟩
      · by_cases hcancel : act = .cancel
        · exact hidle.stopping.mpr (Or.inr hcancel)
        · exact absurd ((hkept hcancel).symm.trans hcancelled) hopen
      · rcases hidle.pumps side with hsame | ⟨-, hstop⟩
        · exact absurd ⟨side, hsame.symm.trans hended⟩ hwork
        · exact absurd hstop hbefore

/-! ## The ending -/

/-- What happens to the legs does not change the conclusion. -/
theorem Concludes.kept (h : Concludes r ending) (hcrashes : next.crashes = r.crashes)
    (hfaults : next.faults = r.faults) (hmoved : next.moved = r.moved)
    (hcancelled : next.cancelled = r.cancelled) (hhalted : next.halted = r.halted) :
    Concludes next ending := by
  cases h with
  | crashed hne =>
    rw [← hcrashes] at hne
    rw [← hcrashes, ← hcancelled, ← hhalted]
    exact .crashed hne
  | cancelled hnone hcancel => exact .cancelled (hcrashes.trans hnone) (hcancelled.trans hcancel)
  | returned hnone hopen hquiet =>
    rw [← hmoved]
    exact .returned (hcrashes.trans hnone) (hcancelled.trans hopen) (hfaults.trans hquiet)
  | @failed fault others hnone hopen hsome =>
    have hsame : r.failureOf fault = next.failureOf fault := by simp [failureOf, hmoved]
    rw [hsame]
    exact .failed (hcrashes.trans hnone) (hcancelled.trans hopen) (hfaults.trans hsome)

/-- **A relay that has ended**: its pumps have, its legs are closed, and it has
concluded. -/
structure Done (r : Relay) (ending : Ending Outcome) : Prop where
  pumps : ∀ side, r.pumps.get side = .ended
  closed : ∀ side, (r.legs.get side).closed = true
  concludes : Concludes r ending

theorem done_closeLegs (hlegs : ∀ side, (r.legs.get side).Closable) (hpumps : r.pumpsEnded = true) :
    Done r.closeLegs.1 r.endingOf := by
  obtain ⟨-, hsame, hmoved, hcancelled⟩ := closeLegs_frame r
  have hclosed := Handler.closed_closeLegs hlegs
  have hended : r.pumps = ⟨.ended, .ended⟩ := by simpa [pumpsEnded] using hpumps
  obtain ⟨hfaults, hcrashes, -, hhalted⟩ := closeLegs_kept r
  have hclose : r.legs.inbound.closeFault?.or r.legs.outbound.closeFault? = none :=
    Option.or_eq_none_iff.mpr ⟨Leg.closeFault?_eq_none (hlegs .inbound).noFault,
      Leg.closeFault?_eq_none (hlegs .outbound).noFault⟩
  refine ⟨fun side => ?_, hclosed,
    (concludes_endingOf hclose).kept hcrashes hfaults hmoved hcancelled hhalted⟩
  rw [hsame, hended]
  cases side <;> rfl

/-- Whatever has ended stays so: nothing happens to it but from outside. -/
theorem done_kept (h : Done r ending) (hending : r.ending = some ending)
    (hstep : r.step act = some result) : Done result.1 ending := by
  have hclosed (side : Side) : (result.1.legs.get side).closed = true := by
    have htrace := trace_step hstep side
    rw [h.closed side] at htrace
    exact htrace.eq_nil.2
  cases passage_of_step hstep with
  | peer => exact ⟨h.pumps, hclosed, h.concludes.kept rfl rfl rfl rfl rfl⟩
  | last hpump | read hpump | unread hpump | write hpump | unsent hpump =>
    rw [h.pumps] at hpump
    cases hpump
  | abandon hpump => exact absurd (h.pumps _) hpump
  | cancel hnone | close _ hnone =>
    rw [hending] at hnone
    cases hnone

theorem done_step (h : ∀ ending, r.ending = some ending → Done r ending)
    (hlegs : ∀ side, (r.legs.get side).Closable) (hstep : r.step act = some result)
    (hended : result.1.ending = some ending) : Done result.1 ending := by
  by_cases hbefore : r.ending = some ending
  · exact done_kept (h ending hbefore) hbefore hstep
  · cases passage_of_step hstep with
    | close hpumps =>
      obtain rfl := Option.some.inj ((closeLegs_frame r).1.symm.trans hended)
      exact done_closeLegs hlegs hpumps
    | unread | unsent => exact absurd (by simpa [endPump] using hended) hbefore
    | peer | last | read | write | abandon | cancel => exact absurd hended hbefore

/-! ## Every run -/

/-- **What is true of a relay at every moment of every run.** -/
structure Accounts (r : Relay) (legs : Both Leg) (acts : List Act) (seen : List (Side × Meeting))
    (events : List Event) : Prop where
  closable : ∀ side, (r.legs.get side).Closable
  books : Books r seen
  cancelled : r.cancelled = true ↔ .cancel ∈ acts
  received : ∀ side,
    sentBy legs acts side = (readsOf side seen).flatten ++ (r.legs.get side).queued
  flows : ∀ side, Flows (r.pumps.get side) (readsOf side seen) (writtenOn side.other events)
  told : (r.cancelled = true ∨ ∃ side, r.pumps.get side = .ended) → r.stopping = true
  stops : r.stopping = true → Stopped r seen events
  done : ∀ ending, r.ending = some ending → Done r ending

theorem cancelled_step (h : r.cancelled = true ↔ .cancel ∈ acts)
    (hstep : r.step act = some result) :
    result.1.cancelled = true ↔ .cancel ∈ acts ++ [act] := by
  rw [List.mem_append, List.mem_singleton]
  by_cases hcancel : act = .cancel
  · rw [hcancel] at hstep
    cases passage_of_step hstep with
    | cancel => simp [hcancel]
  · rw [(frame_step (passage_of_step hstep)).2.1 hcancel, h]
    simp [Ne.symm hcancel]

theorem accounts_step (h : Accounts r legs acts seen events) (hstep : r.step act = some result) :
    Accounts result.1 legs (acts ++ [act]) (seen ++ r.met act) (events ++ result.2) where
  closable := fun side => (h.closable side).of_like ((frame_step (passage_of_step hstep)).1 side)
  books := books_step h.books hstep
  cancelled := cancelled_step h.cancelled hstep
  received := fun side => by
    rw [← received_step h.received hstep side]
    simp [sentBy, List.flatMap_append]
  flows := flows_step h.flows hstep
  told := told_step h.told hstep
  stops := stops_step h.flows h.stops hstep
  done := fun _ => done_step h.done h.closable hstep

theorem accounts_run (h : machine.run (start legs) acts = some (r, events))
    (hlegs : ∀ side, (legs.get side).Closable) :
    Accounts r legs acts (meetings legs acts) events := by
  refine Machine.run_induction (P := fun r acts events =>
    Accounts r legs acts (meetings legs acts) events) ?_ ?_ h
  · have hpump (side : Side) : (start legs).pumps.get side = .reading := by cases side <;> rfl
    refine ⟨hlegs, ⟨rfl, rfl⟩, ⟨nofun, nofun⟩, fun side => List.append_nil _, fun side => ?_, ?_,
      nofun, nofun⟩
    · rw [hpump]
      exact ⟨nofun, rfl⟩
    · rintro (hcancelled | ⟨side, hended⟩)
      · cases hcancelled
      · rw [hpump] at hended
        cases hended
  · intro r next act acts events more hbefore hr hstep
    rw [meetings, Machine.gather_concat hbefore]
    exact accounts_step hr hstep

end Relay

end TunnelRelay
