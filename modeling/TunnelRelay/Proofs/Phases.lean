import TunnelRelay.Proofs.Lanes
import TunnelRelay.Proofs.Streams
/-!
# The phases of a connection

A connection is accepted, then dialed, then relayed or degraded, then closed. It
may skip a phase and never goes back. That is said of what is seen as well as
of the handler: the events of a connection are a course (`Course`), in which
every event belongs to the phase that it is seen in and phases only follow in
this order.
-/

namespace TunnelRelay

namespace Handler

/-- The phases of a connection. -/
inductive Phase where
  | accepted
  | dialing
  | relaying
  /-- The client is told that the destination could not be dialed. -/
  | degraded
  | closed
  deriving DecidableEq, Repr

/-- How late a phase is. A connection is relayed or degraded, and not one after
the other. -/
def Phase.rank : Phase → Nat
  | .accepted => 0
  | .dialing => 1
  | .relaying | .degraded => 2
  | .closed => 3

/-- A phase does not come after a later one. -/
def Phase.Leads (p q : Phase) : Prop := p = q ∨ p.rank < q.rank

/-- The phase that a handler is in. -/
def phase (h : Handler) : Phase :=
  match h.stage with
  | .starting _ | .dropped _ => .accepted
  | .dialing _ _ _ | .handshaking _ _ _ _ => .dialing
  | .relaying _ => .relaying
  | .answering _ _ => .degraded
  | .ended _ _ _ => .closed

/-- **The phases that an event may be seen in.** Bytes are written while the
connection is relayed, and on the inbound leg also while it is degraded. A leg
may be closed by anybody at any time; and once the connection is closed nothing
more is said of it. -/
def Event.In (p : Phase) : Event → Prop
  | .dial _ | .cover _ | .handshake | .dialFailed _ => p = .dialing
  | .leg .inbound _ (.wrote _) => p = .relaying ∨ p = .degraded
  | .leg .outbound _ (.wrote _) | .relayClosed _ => p = .relaying
  | .leg _ _ .closed => True
  | .log _ => p ≠ .closed

/-- **A course of events** from one phase to another. -/
inductive Course : Phase → List Event → Phase → Prop
  | nil {p : Phase} : Course p [] p
  /-- An event is seen that belongs to the phase. -/
  | see {p q : Phase} {e : Event} {events : List Event} : e.In p → Course p events q →
      Course p (e :: events) q
  /-- A later phase begins. -/
  | lead {p q r : Phase} {events : List Event} : p.rank < q.rank → Course q events r →
      Course p events r

namespace Course

variable {p q r : Phase} {events more : List Event}

theorem append (h : Course p events q) (h' : Course q more r) : Course p (events ++ more) r := by
  induction h with
  | nil => exact h'
  | see he _ ih => exact .see he (ih h')
  | lead hlt _ ih => exact .lead hlt (ih h')

/-- Events that all belong to one phase. -/
theorem of_forall (h : ∀ e ∈ events, e.In p) : Course p events p := by
  induction events with
  | nil => exact .nil
  | cons e events ih =>
    rw [List.forall_mem_cons] at h
    exact .see h.1 (ih h.2)

/-- **No phase comes back.** -/
theorem leads (h : Course p events q) : p.Leads q := by
  induction h with
  | nil => exact Or.inl rfl
  | see _ _ ih => exact ih
  | lead hlt _ ih =>
    rcases ih with rfl | hmore
    · exact Or.inr hlt
    · exact Or.inr (Nat.lt_trans hlt hmore)

end Course

variable {h : Handler} {inbound : Leg} {outbound : Option Leg} {ending : Ending Unit}
variable {events : List Event} {platform : Platform} {url : String} {t : Turn}
variable {taken : List Turn} {result : Handler × List Event} {p q : Phase}

/-! ## Which phases the events belong to -/

theorem in_of_closed {seen : List Leg.Event} (hseen : ∀ data, .wrote data ∉ seen) (side : Side)
    (cover : Cover) (p : Phase) : ∀ e ∈ seen.map (.leg side cover), Event.In p e := by
  intro e he
  obtain ⟨event, hevent, rfl⟩ := List.mem_map.mp he
  cases event with
  | wrote data => exact absurd hevent (hseen data)
  | closed => cases side <;> trivial

theorem in_discarded (leg : Leg) (p : Phase) : ∀ e ∈ discarded leg, e.In p :=
  in_of_closed (Leg.wrote_not_mem_closeEvents leg) .outbound leg.cover p

theorem in_ofRelay (own : List Relay.Event) : ∀ e ∈ own.map ofRelay, e.In .relaying := by
  intro e he
  obtain ⟨⟨side, cover, event⟩, -, rfl⟩ := List.mem_map.mp he
  cases event with
  | closed => cases side <;> trivial
  | wrote data =>
    cases side with
    | inbound => exact Or.inl rfl
    | outbound => exact rfl

theorem in_ofGateway (cover : Cover) (own : List Gateway.Event) :
    ∀ e ∈ own.map (ofGateway cover), e.In .degraded := by
  intro e he
  obtain ⟨event, -, rfl⟩ := List.mem_map.mp he
  cases event with
  | log record => exact nofun
  | leg event =>
    cases event with
    | closed => trivial
    | wrote data => exact Or.inr rfl

theorem in_conclude (h : Handler) (ending : Ending Relay.Outcome) :
    ∀ e ∈ (h.conclude ending).2, e.In .relaying := by
  have hrecords (records : List Log.Record) : ∀ e ∈ records.map Event.log, e.In .relaying := by
    intro e he
    obtain ⟨record, -, rfl⟩ := List.mem_map.mp he
    exact nofun
  simp only [conclude]
  split
  · intro e he
    rcases List.mem_append.mp he with hrecord | hlast
    · exact hrecords _ e hrecord
    · rw [List.mem_singleton.mp hlast]
      exact rfl
  · exact hrecords _

/-! ## Every turn goes on with the course -/

/-- A handler that ends, in whichever phase it was. -/
theorem course_finish (hevents : Course p events q) (hopen : q.rank < Phase.closed.rank) :
    Course p (h.finish inbound outbound ending events).2
      (h.finish inbound outbound ending events).1.phase := by
  have hsaid : ∀ e ∈ (ending.faultName?.map (h.noteUnexpected "forwarding connection")).toList,
      e.In q := by
    intro e he
    obtain ⟨name, -, rfl⟩ := Option.map_eq_some_iff.mp (Option.mem_toList.mp he)
    rintro rfl
    exact absurd hopen (Nat.lt_irrefl _)
  have hclosed := in_of_closed (Leg.wrote_not_mem_closeEvents inbound) .inbound inbound.cover q
  have hdone := (Course.of_forall hclosed).append (.lead hopen .nil)
  rw [List.append_nil] at hdone
  exact (hevents.append (.of_forall hsaid)).append hdone

/-- A fault of dialing leads on from the dial, whether there is a client to
answer or not. -/
theorem course_dialFailed {fault : Fault} (hevents : ∀ e ∈ events, e.In .dialing) :
    Course .dialing (h.dialFailed inbound outbound fault events).2
      (h.dialFailed inbound outbound fault events).1.phase := by
  have hrecord : (h.dialRecord fault).In .dialing := by
    unfold dialRecord
    split <;> exact nofun
  have htold : Course .dialing (events ++ [h.dialRecord fault, .dialFailed fault]) .dialing :=
    (Course.of_forall hevents).append (.see hrecord (.see rfl .nil))
  rcases h.dialFailed_cases inbound outbound fault events with
    ⟨-, -, -, heq⟩ | ⟨-, ending, -, heq⟩
  · rw [heq]
    have hdegraded : Course .dialing [] .degraded := .lead (by decide) .nil
    rw [← List.append_nil (events ++ _)]
    exact htold.append hdegraded
  · rw [heq]
    exact course_finish htold (by decide)

/-- The relay begins. -/
theorem course_established {leg : Leg} {peer : Option String}
    (hevents : ∀ e ∈ events, e.In .dialing) :
    Course .dialing (h.established inbound leg peer events).2
      (h.established inbound leg peer events).1.phase := by
  have hsaid (message : String) : (h.note .debug message Log.success).In .dialing := nofun
  have hrelaying : Course .dialing [] .relaying := .lead (by decide) .nil
  exact (Course.of_forall hevents).append (.see (hsaid _) hrelaying)

theorem phase_withLeg (h : Handler) (side : Side) (leg : Leg) :
    (h.withLeg side leg).phase = h.phase := by
  cases hstage : h.stage with
  | relaying => simp [withLeg, phase, hstage]
  | starting | dialing | handshaking | dropped => cases side <;> simp [withLeg, phase, hstage]
  | answering gateway outbound | ended inbound outbound ending =>
    cases side <;> cases outbound <;> simp [withLeg, phase, hstage]

/-- **Every turn of a handler goes on with its course.** -/
theorem course_step (hp : Passage h t result) : Course h.phase result.2 result.1.phase := by
  -- a course that begins with the dial may begin one phase earlier
  have hstart {events : List Event} {q : Phase} (hcourse : Course .dialing events q) :
      Course .accepted events q := .lead (by decide) hcourse
  cases hp with
  | @peer side act leg hleg =>
    rw [phase_withLeg]
    exact .of_forall (in_of_closed (Leg.wrote_not_mem_apply leg act) side leg.cover h.phase)
  | unresolved hstage =>
    simp only [phase, hstage]
    exact hstart (course_dialFailed nofun)
  | dial hstage =>
    simp only [phase, hstage]
    exact hstart (.see rfl .nil)
  | refused hstage | unnamed hstage =>
    simp only [phase, hstage]
    exact course_dialFailed nofun
  | connected hstage =>
    simp only [phase, hstage]
    exact course_established nofun
  | covered hstage =>
    simp only [phase, hstage]
    exact .see rfl .nil
  | uncovered hstage =>
    simp only [phase, hstage]
    refine course_dialFailed fun e he => ?_
    rcases List.mem_cons.mp he with rfl | hdiscarded
    · exact rfl
    · exact in_discarded _ _ e hdiscarded
  | shaken hstage =>
    simp only [phase, hstage]
    exact course_established fun e he => List.mem_singleton.mp he ▸ rfl
  | unshaken hstage | cancelFailed hstage =>
    simp only [phase, hstage]
    exact course_dialFailed (in_discarded _ _)
  | cancelDial hstage =>
    simp only [phase, hstage]
    exact course_finish .nil (by decide)
  | cancelHandshake hstage =>
    simp only [phase, hstage]
    exact course_finish (.of_forall (in_discarded _ _)) (by decide)
  | @relay relay act own result hstage hown hstep =>
    have hphase : h.phase = .relaying := by simp [phase, hstage]
    have hown := Course.of_forall (in_ofRelay result.2)
    rw [hphase]
    rcases h.withRelay_cases result.1 result.2 with ⟨-, heq⟩ | ⟨ending, -, heq⟩
    · rw [heq]
      exact hown
    · rw [heq]
      exact course_finish (hown.append (.of_forall (in_conclude h ending))) (by decide)
  | @gateway gateway outbound act own result hstage hown hstep =>
    have hphase : h.phase = .degraded := by simp [phase, hstage]
    have hown := Course.of_forall (in_ofGateway result.1.leg.cover result.2)
    rw [hphase]
    rcases h.withGateway_cases outbound result.1 result.2 with ⟨-, heq⟩ | ⟨ending, -, heq⟩
    · rw [heq]
      exact hown
    · rw [heq]
      exact course_finish hown (by decide)

end Handler

namespace Forwarder

open Handler (Course life)

variable {f f' : Forwarder} {act : Act} {acts : List Act} {events : List Event}
variable {result : Forwarder × List Event} {i : Nat} {k : Handler}

/-! ## Runs -/

/-- An action goes on with the course of every connection. -/
theorem course_passage (hget : f.handlers[i]? = some k) (hp : Passage f act result) :
    ∃ k', result.1.handlers[i]? = some k' ∧ Course k.phase (eventsOf i result.2) k'.phase := by
  cases hp with
  | accept =>
    have hi := (List.getElem?_eq_some_iff.mp hget).1
    exact ⟨k, (List.getElem?_append_left hi).trans hget, .nil⟩
  | exhausted | failed | cancel => exact ⟨k, hget, .nil⟩
  | finish _ hconclude =>
    rw [(eventsOf_conclude hconclude).1]
    exact ⟨k, hget, .nil⟩
  | @turn act j old t cache next hold _ _ hstep =>
    have hj := (List.getElem?_eq_some_iff.mp hold).1
    rcases eq_or_ne j i with rfl | hne
    · obtain rfl : old = k := Option.some.inj (hold.symm.trans hget)
      refine ⟨next.1, by simp [hj], ?_⟩
      rw [eventsOf_map, if_pos rfl]
      exact Handler.course_step (Handler.passage_of_turn hstep)
    · refine ⟨k, (List.getElem?_set_ne hne).trans hget, ?_⟩
      rw [eventsOf_map, if_neg hne]
      exact .nil

/-- **From any moment on, every connection goes on with its course.** -/
theorem course_run (hget : f.handlers[i]? = some k)
    (h : machine.run f acts = some (f', events)) :
    ∃ k', f'.handlers[i]? = some k' ∧ Course k.phase (eventsOf i events) k'.phase := by
  refine Machine.run_induction (P := fun f' _ events => ∃ k', f'.handlers[i]? = some k' ∧
    Course k.phase (eventsOf i events) k'.phase) ?_ ?_ h
  · exact ⟨k, hget, .nil⟩
  · rintro f' next act acts events more - ⟨mid, hmid, hcourse⟩ hstep
    obtain ⟨k', hk', hmore⟩ := course_passage hmid (passage_of_step hstep)
    refine ⟨k', hk', ?_⟩
    rw [eventsOf_append]
    exact hcourse.append hmore

end Forwarder

end TunnelRelay
