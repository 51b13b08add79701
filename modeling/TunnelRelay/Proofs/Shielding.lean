import TunnelRelay.Proofs.Endpoints
import TunnelRelay.Proofs.Ledger
/-!
# Nothing is written before the handshake

Towards a destination that needs TLS, the life of a handler has three
milestones: the destination is dialed, TLS is put on the leg that the dial
delivers, and the handshake succeeds. They are made in this order (`steps`),
and only after the last of them is anything written on the outbound leg; what
is written goes through TLS (`Shielded`). The invariant says how far each stage
of the handler has come, and that the leg of a handshake and that of a relay
are under TLS (`Guarded`).

The certificates are asked for before the dial. What the trust cache answers
is final, so the context that is put on the leg is the one that the cache has
ever since.
-/

namespace TunnelRelay

/-! ## Covers -/

namespace Leg

variable {leg next : Leg}

theorem cover_apply (leg : Leg) (act : Act) : (leg.apply act).1.cover = leg.cover := by
  cases act <;> rfl

theorem cover_receive {max : Nat} {chunk : Bytes} (h : leg.receive max = .data chunk next) :
    next.cover = leg.cover := by
  rw [receive_eq h]

theorem cover_closeNow (leg : Leg) : leg.closeNow.cover = leg.cover := by
  unfold closeNow
  split <;> rfl

end Leg

namespace Relay

variable {r : Relay} {act : Act} {result : Relay × List Event} {legs : Both Leg}

theorem cover_set {side : Side} {leg : Leg} (h : leg.cover = (legs.get side).cover) (other : Side) :
    ((legs.set side leg).get other).cover = (legs.get other).cover := by
  rcases Side.eq_or_eq_other side other with rfl | rfl
  · rw [Both.get_set_same]
    exact h
  · rw [Both.get_set_other]

theorem cover_closeLegs (r : Relay) (side : Side) :
    (r.closeLegs.1.legs.get side).cover = (r.legs.get side).cover := by
  have hin := r.legs.inbound.cover_closeNow
  have hout := r.legs.outbound.cover_closeNow
  unfold closeLegs
  split
  · exact cover_set hin side
  · cases side with
    | inbound => exact hin
    | outbound => exact hout

/-- **A relay does not change how its legs are protected**, and each of its
events tells how its leg is. -/
theorem cover_step (hp : Passage r act result) :
    (∀ side, (result.1.legs.get side).cover = (r.legs.get side).cover) ∧
      ∀ e ∈ result.2, e.cover = (r.legs.get e.side).cover := by
  have hlegEvents (side : Side) (own : List Leg.Event) :
      ∀ e ∈ own.map (r.legEvent side), e.cover = (r.legs.get e.side).cover := by
    intro e he
    obtain ⟨event, -, rfl⟩ := List.mem_map.mp he
    rfl
  cases hp with
  | @peer side act => exact ⟨cover_set (Leg.cover_apply _ act), hlegEvents side _⟩
  | last _ hread | read _ hread =>
    exact ⟨cover_set (Leg.cover_receive hread), List.forall_mem_nil _⟩
  | unread | unsent => exact ⟨fun side => by simp [endPump], List.forall_mem_nil _⟩
  | @write side chunk => exact ⟨fun _ => rfl, hlegEvents side.other [.wrote chunk]⟩
  | abandon | cancel => exact ⟨fun _ => rfl, List.forall_mem_nil _⟩
  | close =>
    refine ⟨cover_closeLegs r, ?_⟩
    unfold closeLegs
    split
    · exact hlegEvents .inbound _
    · exact List.forall_mem_append.mpr ⟨hlegEvents .inbound _, hlegEvents .outbound _⟩

end Relay

/-! ## The trust cache -/

namespace Trust.Cache

variable {α : Type} {c : Cache α} {outcome : Outcome α} {value : α}

/-- An outcome that is remembered is answered, whatever loading would give. -/
theorem get_of_some (h : c.outcome = some outcome) (load : Outcome α) :
    c.get load = (answer outcome, c) := by
  simp only [get, h]

/-- An outcome that is remembered stays so. -/
theorem get_kept (h : c.outcome = some outcome) (load : Outcome α) :
    (c.get load).2.outcome = some outcome := by
  rw [get_of_some h]
  exact h

/-- A value that is answered is remembered. -/
theorem get_of_ok {load : Outcome α} (h : (c.get load).1 = .ok value) :
    (c.get load).2.outcome = some (.ok value) := by
  cases houtcome : c.outcome with
  | some outcome =>
    rw [get_of_some houtcome] at h ⊢
    cases outcome with
    | ok kept =>
      obtain rfl := Except.ok.inj h
      exact houtcome
    | error fault => cases h
  | none =>
    simp only [get, houtcome] at h ⊢
    cases load with
    | ok given =>
      obtain rfl := Except.ok.inj h
      rfl
    | error fault =>
      simp only at h
      split at h <;> cases h

end Trust.Cache

namespace Handler

variable {h next : Handler} {cache cache' : Trust.Cache Trust.Context} {host : String}
variable {port : Option Int} {context : Trust.Context} {inbound : Leg} {outbound : Option Leg}
variable {events more last : List Event} {result : Handler × List Event} {t : Turn}

/-! ## Milestones -/

/-- Whether an event is a milestone on the way to an outbound leg. -/
def Event.isMilestone : Event → Bool
  | .dial _ | .cover _ | .handshake => true
  | .log _ | .leg _ _ _ | .dialFailed _ | .relayClosed _ => false

/-- The milestones among events, in order. -/
def milestones (events : List Event) : List Event := events.filter Event.isMilestone

/-- The milestones of an opening over TLS. -/
def steps (host : String) (port : Option Int) (context : Trust.Context) : List Event :=
  [.dial (.tcp host port), .cover ⟨host, context⟩, .handshake]

/-- Whether an event shows bytes written on the outbound leg. -/
def Event.isSent : Event → Bool
  | .leg .outbound _ (.wrote _) => true
  | .leg _ _ _ | .dial _ | .cover _ | .handshake | .log _ | .dialFailed _ | .relayClosed _ => false

/-- **Events among which nothing is sent and no milestone is made.** -/
structure Plain (events : List Event) : Prop where
  milestones : milestones events = []
  sent : ∀ e ∈ events, e.isSent = false

@[simp] theorem milestones_append (events more : List Event) :
    milestones (events ++ more) = milestones events ++ milestones more :=
  List.filter_append events more

theorem plain_of_forall (h : ∀ e ∈ events, e.isMilestone = false ∧ e.isSent = false) :
    Plain events :=
  ⟨List.filter_eq_nil_iff.mpr fun e he => by rw [(h e he).1]; exact nofun, fun e he => (h e he).2⟩

theorem plain_nil : Plain [] := ⟨rfl, nofun⟩

theorem not_mem_of_milestones {e : Event} (h : milestones events = [])
    (he : e.isMilestone = true) : e ∉ events :=
  fun hmem => List.filter_eq_nil_iff.mp h e hmem he

theorem Plain.append (h : Plain events) (h' : Plain more) : Plain (events ++ more) := by
  refine ⟨?_, fun e he => ?_⟩
  · rw [milestones_append, h.milestones, h'.milestones, List.append_nil]
  · exact (List.mem_append.mp he).elim (h.sent e) (h'.sent e)

/-- What only closes legs, or changes them from outside, is plain. -/
theorem plain_legs {quiet : List Leg.Event} (side : Side) (cover : Cover)
    (hquiet : ∀ e ∈ quiet, ∀ data, e ≠ .wrote data) : Plain (quiet.map (.leg side cover)) := by
  refine plain_of_forall fun e he => ?_
  obtain ⟨event, hevent, rfl⟩ := List.mem_map.mp he
  cases event with
  | wrote data => exact absurd rfl (hquiet _ hevent data)
  | closed => cases side <;> exact ⟨rfl, rfl⟩

theorem plain_closeEvents (leg : Leg) (side : Side) (cover : Cover) :
    Plain (leg.closeEvents.map (.leg side cover)) := by
  refine plain_legs side cover fun e he data hwrote => ?_
  unfold Leg.closeEvents at he
  split at he
  · cases he
  · cases hwrote ▸ List.mem_singleton.mp he

theorem plain_apply (leg : Leg) (act : Leg.Act) (side : Side) (cover : Cover) :
    Plain ((leg.apply act).2.map (.leg side cover)) := by
  refine plain_legs side cover fun e he data hwrote => ?_
  cases act with
  | close =>
    simp only [Leg.apply] at he
    split at he
    · cases he
    · cases hwrote ▸ List.mem_singleton.mp he
  | deliver | finish | snap | refuse | stall | resume => cases he

theorem plain_discarded (leg : Leg) : Plain (discarded leg) :=
  plain_closeEvents leg .outbound leg.cover

theorem plain_log (record : Log.Record) : Plain [.log record] :=
  plain_of_forall (by simp [Event.isMilestone, Event.isSent])

theorem plain_conclude (h : Handler) (ending : Ending Relay.Outcome) :
    Plain (h.conclude ending).2 := by
  have hrecords (records : List Log.Record) : Plain (records.map .log) :=
    plain_of_forall fun e he => by
      obtain ⟨record, -, rfl⟩ := List.mem_map.mp he
      exact ⟨rfl, rfl⟩
  simp only [conclude]
  split
  · rename_i outcome _
    have hclosed : Plain [.relayClosed outcome] := plain_of_forall (by
      simp [Event.isMilestone, Event.isSent])
    exact (hrecords _).append hclosed
  · exact hrecords _

theorem plain_ofGateway (cover : Cover) (own : List Gateway.Event) :
    Plain (own.map (ofGateway cover)) := by
  refine plain_of_forall fun e he => ?_
  obtain ⟨event, -, rfl⟩ := List.mem_map.mp he
  cases event <;> exact ⟨rfl, rfl⟩

/-! ## Openings that are over -/

/-- Whether the handler has given its opening up or has ended, so that there is
nothing to relay any more. -/
def isOver (h : Handler) : Bool :=
  match h.stage with
  | .answering _ _ | .ended _ _ _ | .dropped _ => true
  | .starting _ | .dialing _ _ _ | .handshaking _ _ _ _ | .relaying _ => false

theorem isOver_withLeg (h : Handler) (side : Side) (leg : Leg) :
    (h.withLeg side leg).isOver = h.isOver := by
  unfold isOver withLeg
  cases h.stage with
  | starting | dialing | dropped | handshaking => cases side <;> rfl
  | relaying => rfl
  | answering gateway outbound =>
    cases side with
    | inbound => rfl
    | outbound => cases outbound <;> rfl
  | ended inbound outbound =>
    cases side with
    | inbound => rfl
    | outbound => cases outbound <;> rfl

/-- **A handler that ends is over**, and what it does besides is plain. -/
theorem over_finish (h : Handler) (inbound : Leg) (outbound : Option Leg) (ending : Ending Unit)
    (events : List Event) :
    (h.finish inbound outbound ending events).1.isOver = true ∧
      ∃ last, Plain last ∧ (h.finish inbound outbound ending events).2 = events ++ last := by
  have hsaid : Plain (ending.faultName?.map (h.noteUnexpected "forwarding connection")).toList := by
    cases ending.faultName? with
    | none => exact plain_nil
    | some name => exact plain_log _
  exact ⟨rfl, _, hsaid.append (plain_closeEvents inbound .inbound inbound.cover),
    List.append_assoc _ _ _⟩

/-- **So is one that gives its opening up.** -/
theorem over_dialFailed (h : Handler) (inbound : Leg) (outbound : Option Leg) (fault : Fault)
    (events : List Event) :
    (h.dialFailed inbound outbound fault events).1.isOver = true ∧
      ∃ last, Plain last ∧ (h.dialFailed inbound outbound fault events).2 = events ++ last := by
  have htold : Plain [h.dialRecord fault, .dialFailed fault] := by
    unfold dialRecord
    split
    · exact (plain_log _).append (plain_of_forall (by simp [Event.isMilestone, Event.isSent]))
    · exact (plain_log _).append (plain_of_forall (by simp [Event.isMilestone, Event.isSent]))
  rcases h.dialFailed_cases inbound outbound fault events with
    ⟨-, -, -, heq⟩ | ⟨-, ending, -, heq⟩
  · rw [heq]
    exact ⟨rfl, _, htold, rfl⟩
  · rw [heq]
    obtain ⟨hover, last, hlast, hevents⟩ := h.over_finish inbound outbound ending
      (events ++ [h.dialRecord fault, .dialFailed fault])
    exact ⟨hover, _, htold.append hlast, hevents.trans (List.append_assoc _ _ _)⟩

theorem over_withGateway (h : Handler) (outbound : Option Leg)
    (result : Gateway × List Gateway.Event) :
    (h.withGateway outbound result).1.isOver = true ∧ Plain (h.withGateway outbound result).2 := by
  have hown := plain_ofGateway result.1.leg.cover result.2
  rcases h.withGateway_cases outbound result.1 result.2 with ⟨-, heq⟩ | ⟨ending, -, heq⟩
  · rw [heq]
    exact ⟨rfl, hown⟩
  · rw [heq]
    obtain ⟨hover, last, hlast, hevents⟩ := h.over_finish result.1.leg outbound ending.void
      (result.2.map (ofGateway result.1.leg.cover))
    rw [hevents]
    exact ⟨hover, hown.append hlast⟩

/-- **What is over stays so.** -/
theorem over_step (hover : h.isOver = true) (hp : Passage h t result) :
    result.1.isOver = true ∧ Plain result.2 := by
  cases hp with
  | @peer side act leg =>
    exact ⟨(isOver_withLeg h side _).trans hover, plain_apply leg act side leg.cover⟩
  | gateway hstage => exact over_withGateway h _ _
  | unresolved hstage | dial hstage | refused hstage | unnamed hstage | connected hstage
  | covered hstage | uncovered hstage | shaken hstage | unshaken hstage | cancelDial hstage
  | cancelHandshake hstage | cancelFailed hstage | relay hstage =>
    simp [isOver, hstage] at hover

/-! ## Shielded events -/

/-- **Events of a connection to a destination that needs TLS.** The milestones
come in their order, the dial not before the cache has the context; and bytes
are sent only after the last of them, under TLS. -/
structure Shielded (cache : Trust.Cache Trust.Context) (host : String) (port : Option Int)
    (events : List Event) : Prop where
  stages : milestones events = [] ∨ ∃ context, cache.outcome = some (.ok context) ∧
    milestones events <+: steps host port context
  veiled : ∀ (before : List Event) (cover : Cover) (data : Bytes) (after : List Event),
    events = before ++ .leg .outbound cover (.wrote data) :: after →
    cover = .tls ∧ ∃ context, cache.outcome = some (.ok context) ∧
      milestones before = steps host port context

theorem shielded_nil : Shielded cache host port [] :=
  ⟨Or.inl rfl, fun before _ _ _ h => by cases before <;> cases h⟩

/-- What the cache has of a context it keeps. -/
theorem Shielded.later (h : Shielded cache host port events)
    (hkept : ∀ context, cache.outcome = some (.ok context) → cache'.outcome = some (.ok context)) :
    Shielded cache' host port events := by
  refine ⟨?_, fun before cover data after heq => ?_⟩
  · obtain hnone | ⟨context, hcontext, hprefix⟩ := h.stages
    · exact Or.inl hnone
    · exact Or.inr ⟨context, hkept context hcontext, hprefix⟩
  · obtain ⟨hcover, context, hcontext, hdone⟩ := h.veiled before cover data after heq
    exact ⟨hcover, context, hkept context hcontext, hdone⟩

/-- More events, if bytes are sent by them only after all milestones. -/
theorem Shielded.append (h : Shielded cache host port events)
    (hstages : milestones (events ++ more) = [] ∨ ∃ context,
      cache.outcome = some (.ok context) ∧
        milestones (events ++ more) <+: steps host port context)
    (hsent : ∀ (before : List Event) (cover : Cover) (data : Bytes) (after : List Event),
      more = before ++ .leg .outbound cover (.wrote data) :: after →
      cover = .tls ∧ ∃ context, cache.outcome = some (.ok context) ∧
        milestones (events ++ before) = steps host port context) :
    Shielded cache host port (events ++ more) := by
  refine ⟨hstages, fun before cover data after heq => ?_⟩
  obtain ⟨rest, rfl, hmore⟩ | ⟨rest, hevents, hafter⟩ := List.append_eq_append_iff.mp heq
  · exact hsent rest cover data after hmore
  · cases rest with
    | nil =>
      rw [List.append_nil] at hevents
      rw [← hevents, ← List.append_nil events]
      exact hsent [] cover data after hafter.symm
    | cons e rest =>
      rw [List.cons_append, List.cons.injEq] at hafter
      exact h.veiled before cover data rest (hafter.1 ▸ hevents)

/-- More events by which nothing is sent. -/
theorem Shielded.unsent (h : Shielded cache host port events)
    (hcontext : cache.outcome = some (.ok context))
    (hstages : milestones (events ++ more) <+: steps host port context)
    (hmore : ∀ e ∈ more, e.isSent = false) : Shielded cache host port (events ++ more) := by
  refine h.append (Or.inr ⟨context, hcontext, hstages⟩) fun before cover data after heq => ?_
  have hsent := hmore (.leg .outbound cover (.wrote data)) (by simp [heq])
  cases hsent

theorem Shielded.plain (h : Shielded cache host port events) (hmore : Plain more) :
    Shielded cache host port (events ++ more) := by
  refine h.append ?_ fun before cover data after heq => ?_
  · rw [milestones_append, hmore.milestones, List.append_nil]
    exact h.stages
  · have hsent := hmore.sent (.leg .outbound cover (.wrote data)) (by simp [heq])
    cases hsent

/-- A relay makes no milestones. -/
theorem milestones_ofRelay (own : List Relay.Event) : milestones (own.map ofRelay) = [] :=
  List.filter_eq_nil_iff.mpr fun e he => by
    obtain ⟨event, -, rfl⟩ := List.mem_map.mp he
    exact nofun

/-- What a relay under TLS does after all milestones. -/
theorem Shielded.relay (h : Shielded cache host port events)
    (hcontext : cache.outcome = some (.ok context))
    (hdone : milestones events = steps host port context) {own : List Relay.Event}
    (hcover : ∀ e ∈ own, e.side = .outbound → e.cover = .tls) :
    Shielded cache host port (events ++ own.map ofRelay) := by
  have hsame (own : List Relay.Event) :
      milestones (events ++ own.map ofRelay) = steps host port context := by
    rw [milestones_append, milestones_ofRelay, List.append_nil, hdone]
  refine h.append (Or.inr ⟨context, hcontext, hsame own ▸ List.prefix_rfl⟩)
    fun before cover data after heq => ?_
  obtain ⟨first, rest, rfl, rfl, hrest⟩ := List.map_eq_append_iff.mp heq
  obtain ⟨e, tail, rfl, he, -⟩ := List.map_eq_cons_iff.mp hrest
  refine ⟨?_, context, hcontext, hsame first⟩
  injection he with hside hcov _
  rw [← hcov]
  exact hcover e (by simp) hside

/-! ## Progress -/

/-- **How far a stage of the handler has come**: which milestones are made, that
what is put on the leg is the context of the cache, and that a leg which TLS
was put on is under TLS. -/
def Progress (cache : Trust.Cache Trust.Context) (host : String) (port : Option Int) (h : Handler)
    (events : List Event) : Prop :=
  match h.stage with
  | .starting _ => milestones events = []
  | .dialing _ _ guard => ∃ context, cache.outcome = some (.ok context) ∧
      guard = some ⟨host, context⟩ ∧ milestones events = (steps host port context).take 1
  | .handshaking _ guard _ outbound => ∃ context, cache.outcome = some (.ok context) ∧
      guard = ⟨host, context⟩ ∧ outbound.cover = .tls ∧
      milestones events = (steps host port context).take 2
  | .relaying relay => ∃ context, cache.outcome = some (.ok context) ∧
      relay.legs.outbound.cover = .tls ∧ milestones events = steps host port context
  | .answering _ _ | .ended _ _ _ | .dropped _ => True

/-- **The invariant of a handler**: its events are shielded, and it is as far as
they say. -/
structure Guarded (cache : Trust.Cache Trust.Context) (host : String) (port : Option Int)
    (h : Handler) (events : List Event) : Prop where
  shielded : Shielded cache host port events
  progress : h.Progress cache host port events

theorem progress_of_over (hover : h.isOver = true) : h.Progress cache host port events := by
  unfold isOver at hover
  unfold Progress
  cases hstage : h.stage with
  | answering | ended | dropped => trivial
  | starting | dialing | handshaking | relaying =>
    rw [hstage] at hover
    cases hover

/-- What the cache has of a context it keeps. -/
theorem Guarded.later (hg : h.Guarded cache host port events)
    (hkept : ∀ context, cache.outcome = some (.ok context) →
      cache'.outcome = some (.ok context)) : h.Guarded cache' host port events := by
  refine ⟨hg.shielded.later hkept, ?_⟩
  have hprogress := hg.progress
  unfold Progress at hprogress ⊢
  cases hstage : h.stage with
  | starting =>
    rw [hstage] at hprogress
    exact hprogress
  | dialing | handshaking | relaying =>
    rw [hstage] at hprogress
    obtain ⟨context, hcontext, hrest⟩ := hprogress
    exact ⟨context, hkept context hcontext, hrest⟩
  | answering | ended | dropped => trivial

/-- A handler as it is accepted. -/
theorem guarded_accepted (conn : Inbound) (leg : Leg) (receivers : Receivers) :
    (accepted conn leg receivers).Guarded cache host port [] := by
  refine ⟨shielded_nil, ?_⟩
  unfold accepted
  cases receivers.accepted with
  | none => exact rfl
  | some fault => trivial

/-- After an opening that is given up, nothing is sent any more. -/
theorem Guarded.over (hshielded : Shielded cache host port (events ++ more))
    (hover : result.1.isOver = true ∧ ∃ last, Plain last ∧ result.2 = more ++ last) :
    result.1.Guarded cache host port (events ++ result.2) := by
  obtain ⟨hend, last, hlast, heq⟩ := hover
  rw [heq, ← List.append_assoc]
  exact ⟨hshielded.plain hlast, progress_of_over hend⟩

/-- What happens to a leg from outside leaves the progress as it is. -/
theorem progress_withLeg {side : Side} {leg other : Leg} (hleg : h.leg? side = some leg)
    (hcover : other.cover = leg.cover) (hmore : milestones more = [])
    (hprogress : h.Progress cache host port events) :
    (h.withLeg side other).Progress cache host port (events ++ more) := by
  have hsame : milestones (events ++ more) = milestones events := by
    rw [milestones_append, hmore, List.append_nil]
  unfold Progress withLeg at *
  unfold leg? at hleg
  cases hstage : h.stage with
  | starting | dialing =>
    rw [hstage] at hprogress
    cases side with
    | inbound => exact hsame ▸ hprogress
    | outbound => exact hsame ▸ hprogress
  | handshaking inbound guard peer outbound =>
    rw [hstage] at hprogress hleg
    cases side with
    | inbound => exact hsame ▸ hprogress
    | outbound =>
      obtain rfl := Option.some.inj hleg
      obtain ⟨context, hcontext, hguard, htls, hdone⟩ := hprogress
      exact ⟨context, hcontext, hguard, hcover.trans htls, hsame.trans hdone⟩
  | relaying relay =>
    rw [hstage] at hprogress hleg
    obtain rfl := Option.some.inj hleg
    obtain ⟨context, hcontext, htls, hdone⟩ := hprogress
    exact ⟨context, hcontext, (Relay.cover_set hcover .outbound).trans htls, hsame.trans hdone⟩
  | answering gateway outbound =>
    cases side with
    | inbound => trivial
    | outbound => cases outbound <;> trivial
  | ended inbound outbound =>
    cases side with
    | inbound => trivial
    | outbound => cases outbound <;> trivial
  | dropped => cases side <;> trivial

theorem prefix_of_milestones {n : Nat}
    (hdone : milestones events = (steps host port context).take n) :
    milestones events <+: steps host port context :=
  hdone ▸ List.take_prefix n _

/-- A step of the relay of a handler. -/
theorem guarded_withRelay {relay : Relay} {own : Relay.Act}
    {result : Relay × List Relay.Event} (hg : h.Guarded cache host port events)
    (hstage : h.stage = .relaying relay) (hstep : relay.step own = some result) :
    (h.withRelay result).1.Guarded cache host port (events ++ (h.withRelay result).2) := by
  have hprogress := hg.progress
  simp only [Progress, hstage] at hprogress
  obtain ⟨context, hcontext, htls, hdone⟩ := hprogress
  obtain ⟨hlegs, hevents⟩ := Relay.cover_step (Relay.passage_of_step hstep)
  have hshielded : Shielded cache host port (events ++ result.2.map ofRelay) := by
    refine hg.shielded.relay hcontext hdone fun e he hside => ?_
    rw [hevents e he, hside]
    exact htls
  rcases h.withRelay_cases result.1 result.2 with ⟨-, heq⟩ | ⟨ending, -, heq⟩
  · rw [heq]
    refine ⟨hshielded, context, hcontext, (hlegs .outbound).trans htls, ?_⟩
    rw [milestones_append, milestones_ofRelay, List.append_nil, hdone]
  · rw [heq]
    refine .over ?_ (over_finish _ _ _ _ _)
    rw [← List.append_assoc]
    exact hshielded.plain (plain_conclude h ending)

/-- **Every action of a handler keeps it guarded.** -/
theorem guarded_act {act : Act} (hg : h.Guarded cache host port events)
    (hp : Passage h (.act act) result) :
    result.1.Guarded cache host port (events ++ result.2) := by
  have hprogress := hg.progress
  cases hp with
  | @peer side act leg hleg =>
    have hplain := plain_apply leg act side leg.cover
    exact ⟨hg.shielded.plain hplain,
      progress_withLeg hleg (Leg.cover_apply leg act) hplain.milestones hprogress⟩
  | refused | unnamed =>
    exact .over (hg.shielded.plain plain_nil) (over_dialFailed _ _ _ _ _)
  | connected hstage =>
    -- a dial that is over TLS does not connect without a cover
    simp only [Progress, hstage] at hprogress
    obtain ⟨context, -, hguard, -⟩ := hprogress
    cases hguard
  | @covered inbound transport guard delivery peer hstage =>
    simp only [Progress, hstage] at hprogress
    obtain ⟨context, hcontext, hguard, hdone⟩ := hprogress
    obtain rfl := Option.some.inj hguard
    have hnext : milestones (events ++ [.cover ⟨host, context⟩]) =
        (steps host port context).take 2 := by
      rw [milestones_append, hdone]
      rfl
    exact ⟨hg.shielded.unsent hcontext (prefix_of_milestones hnext) (by simp [Event.isSent]),
      context, hcontext, rfl, rfl, hnext⟩
  | @uncovered inbound transport guard delivery fault hstage =>
    simp only [Progress, hstage] at hprogress
    obtain ⟨context, hcontext, hguard, hdone⟩ := hprogress
    obtain rfl := Option.some.inj hguard
    have hplain := plain_discarded delivery.leg
    have hnext : milestones (events ++ .cover ⟨host, context⟩ :: discarded delivery.leg) =
        (steps host port context).take 2 := by
      rw [milestones_append, hdone, milestones, List.filter_cons_of_pos rfl, ← milestones,
        hplain.milestones]
      rfl
    refine .over (hg.shielded.unsent hcontext (prefix_of_milestones hnext) ?_)
      (over_dialFailed _ _ _ _ _)
    exact List.forall_mem_cons.mpr ⟨rfl, hplain.sent⟩
  | @shaken inbound outbound guard peer hstage =>
    simp only [Progress, hstage] at hprogress
    obtain ⟨context, hcontext, -, htls, hdone⟩ := hprogress
    have hnext : milestones (events ++ [.handshake]) = steps host port context := by
      rw [milestones_append, hdone]
      rfl
    have hshaken : Shielded cache host port (events ++ [.handshake]) :=
      hg.shielded.unsent hcontext (hnext ▸ List.prefix_rfl) (by simp [Event.isSent])
    simp only [established]
    rw [← List.append_assoc]
    refine ⟨hshaken.plain (plain_log _), context, hcontext, htls, ?_⟩
    rw [milestones_append, hnext]
    exact List.append_nil _
  | @unshaken _ outbound | @cancelFailed _ outbound =>
    exact .over (hg.shielded.plain (plain_discarded outbound)) (over_dialFailed _ _ _ _ _)
  | cancelDial => exact .over (hg.shielded.plain plain_nil) (over_finish _ _ _ _ _)
  | @cancelHandshake _ outbound =>
    exact .over (hg.shielded.plain (plain_discarded outbound)) (over_finish _ _ _ _ _)
  | relay hstage _ hstep => exact guarded_withRelay hg hstage hstep
  | @gateway gateway outbound act own step hstage =>
    obtain ⟨hover, hplain⟩ := over_withGateway h outbound step
    exact ⟨hg.shielded.plain hplain, progress_of_over hover⟩

/-! ## The start -/

/-- **A handler asks for the certificates before it dials.** It dials only with
the context that the cache answers. -/
theorem start_tls {platform : Platform} {url : String}
    (htransport : transportOf platform url = .ok (.tls host port host))
    (load : Trust.Outcome Trust.Context) (inbound : Leg) :
    h.start platform url cache load inbound =
      (match (cache.get load).1 with
        | .ok context =>
          ({ h with
              stage := .dialing inbound (.tls host port host) (some ⟨host, context⟩) },
            [.dial (.tcp host port)])
        | .error fault => h.dialFailed inbound none (Opening.report fault) [],
        (cache.get load).2) := by
  simp only [start, htransport, Opening.askTrust]
  cases (cache.get load).1 <;> rfl

theorem guarded_start {platform : Platform} {url : String}
    (htransport : transportOf platform url = .ok (.tls host port host))
    (hg : h.Guarded cache host port events) (hstage : h.stage = .starting inbound)
    (load : Trust.Outcome Trust.Context) :
    (h.start platform url cache load inbound).1.1.Guarded
      (h.start platform url cache load inbound).2 host port
      (events ++ (h.start platform url cache load inbound).1.2) := by
  have hprogress := hg.progress
  simp only [Progress, hstage] at hprogress
  have hlater : Shielded (cache.get load).2 host port events :=
    hg.shielded.later fun context hcontext => Trust.Cache.get_kept hcontext load
  rw [start_tls htransport]
  cases hget : (cache.get load).1 with
  | ok context =>
    have hcontext := Trust.Cache.get_of_ok hget
    have hnext : milestones (events ++ [.dial (.tcp host port)]) =
        (steps host port context).take 1 := by
      rw [milestones_append, hprogress]
      rfl
    exact ⟨hlater.unsent hcontext (prefix_of_milestones hnext) (by simp [Event.isSent]),
      context, hcontext, rfl, hnext⟩
  | error fault => exact .over (hlater.plain plain_nil) (over_dialFailed _ _ _ _ _)

/-- A handler that gives its opening up tells of the fault. -/
theorem dialFaults_dialFailed (h : Handler) (inbound : Leg) (outbound : Option Leg) (fault : Fault)
    (events : List Event) :
    dialFaults (h.dialFailed inbound outbound fault events).2 = dialFaults events ++ [fault] := by
  have htold : dialFaults [h.dialRecord fault, .dialFailed fault] = [fault] := by
    unfold dialRecord
    split <;> rfl
  rcases h.dialFailed_cases inbound outbound fault events with
    ⟨-, -, -, heq⟩ | ⟨-, ending, -, heq⟩
  · rw [heq, dialFaults_append, htold]
  · obtain ⟨last, hlast, hevents⟩ := h.silent_finish inbound outbound ending
      (events ++ [h.dialRecord fault, .dialFailed fault])
    rw [heq, hevents, dialFaults_append, dialFaults_append, htold, hlast.faults, List.append_nil]

/-- **TLS is put on the very leg that the dial delivers**, or the opening is
over. -/
theorem covered_of_delivered {delivery : Delivery} (hg : h.Guarded cache host port events)
    (hp : Passage h (.act (.delivered (.ok delivery))) result) :
    result.1.isOver = true ∨
      result.1.leg? .outbound = some { delivery.leg with cover := .tls } := by
  have hprogress := hg.progress
  cases hp with
  | unnamed | uncovered => exact Or.inl (over_dialFailed _ _ _ _ _).1
  | connected hstage =>
    simp only [Progress, hstage] at hprogress
    obtain ⟨context, -, hguard, -⟩ := hprogress
    cases hguard
  | covered => exact Or.inr rfl
  | relay _ hown => cases hown
  | gateway _ hown => cases hown

/-- Whether the handler waits for its dial or its handshake. -/
def isOpening (h : Handler) : Bool :=
  match h.stage with
  | .dialing _ _ _ | .handshaking _ _ _ _ => true
  | .starting _ | .relaying _ | .answering _ _ | .ended _ _ _ | .dropped _ => false

/-- Whether an action is the failure of a dial or of a handshake, or a
cancellation. -/
def Act.isFailure : Act → Bool
  | .delivered (.error _) | .handshaken (some _) | .cancel => true
  | .delivered (.ok _) | .handshaken none | .peer _ _ | .advance _ | .abandon _ | .closeLegs
  | .answer => false

/-- **An opening is over once its dial or its handshake fails or is
cancelled.** -/
theorem over_of_failure {act : Act} (hopening : h.isOpening = true)
    (hfailure : act.isFailure = true) (hp : Passage h (.act act) result) :
    result.1.isOver = true := by
  cases hp with
  | refused | unshaken | cancelFailed => exact (over_dialFailed _ _ _ _ _).1
  | cancelDial | cancelHandshake => rfl
  | peer | unnamed | connected | covered | uncovered | shaken => cases hfailure
  | relay hstage | gateway hstage => simp [isOpening, hstage] at hopening

/-- Nothing is sent without a handshake. -/
theorem Shielded.writtenOn_eq_nil (h : Shielded cache host port events)
    (hunshaken : .handshake ∉ events) : writtenOn .outbound events = [] := by
  refine List.flatMap_eq_nil_iff.mpr fun e he => ?_
  obtain ⟨before, after, rfl⟩ := List.append_of_mem he
  cases e with
  | leg side cover event =>
    cases event with
    | closed => simp [Event.writtenOn, Leg.Event.written]
    | wrote data =>
      cases side with
      | inbound => rfl
      | outbound =>
        -- the handshake is one of the milestones before it
        obtain ⟨-, context, -, hdone⟩ := h.veiled before cover data after rfl
        have hmem : Event.handshake ∈ milestones before := by
          rw [hdone]
          simp [steps]
        exact absurd (List.mem_append_left _ (List.mem_filter.mp hmem).1) hunshaken
  | dial | cover | handshake | log | dialFailed | relayClosed => rfl

end Handler

end TunnelRelay
