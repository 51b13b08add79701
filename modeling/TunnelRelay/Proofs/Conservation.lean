import TunnelRelay.Proofs.Runs
import TunnelRelay.Proofs.Streams
import TunnelRelay.Relay
/-!
# The relay conserves bytes

Each direction of a relay carries the bytes that one peer has sent to the
other leg: they are written, or held by the pump of the direction, or wait on
the leg (`Carries`). Every action keeps this of both directions (`Conserves`),
so at every moment of every run what is written is a prefix of what was sent,
and the pump holds what is missing between the two. The counts follow the
writes, and what a relay reports at its end are the counts of that moment.
-/

namespace TunnelRelay

namespace Relay

variable {r next : Relay} {act : Act} {acts : List Act} {events : List Event}
variable {result : Relay × List Event} {legs : Both Leg}

/-! ## What was sent and what was written -/

/-- The bytes that the peer of a side sends by an action. -/
def Act.sent (side : Side) : Act → Bytes
  | .peer other act => if other = side then act.sent else []
  | _ => []

/-- The bytes that the peer of a side has sent: those that waited at the start
of the relay, and those of the actions since. -/
def sentBy (legs : Both Leg) (acts : List Act) (side : Side) : Bytes :=
  (legs.get side).queued ++ acts.flatMap (Act.sent side)

/-- The bytes that an event shows as written on the leg of a side. -/
def Event.writtenOn (side : Side) (e : Event) : Bytes :=
  if e.side = side then e.event.written else []

/-- The bytes written on the leg of a side. -/
def writtenOn (side : Side) (events : List Event) : Bytes :=
  events.flatMap (Event.writtenOn side)

@[simp] theorem writtenOn_nil (side : Side) : writtenOn side [] = [] := rfl

@[simp] theorem writtenOn_append (side : Side) (events later : List Event) :
    writtenOn side (events ++ later) = writtenOn side events ++ writtenOn side later :=
  List.flatMap_append

/-- Events of legs on which nothing is written. -/
theorem writtenOn_map {side other : Side} {quiet : List Leg.Event}
    (h : ∀ e ∈ quiet, e.written = []) : writtenOn side (quiet.map (r.legEvent other)) = [] := by
  rw [writtenOn, List.flatMap_map, List.flatMap_eq_nil_iff]
  intro e he
  unfold Event.writtenOn legEvent
  split
  · exact h e he
  · rfl

/-! ## Steps -/

/-- What a pump meets at its next read or write. -/
inductive Meeting where
  /-- A chunk is read. -/
  | chunk (data : Bytes)
  /-- The end of the stream is read. -/
  | last
  /-- What was read is written. -/
  | wrote (data : Bytes)
  | fault (fault : Fault)

/-- What the pump of a side meets, unless it waits or has ended. -/
def meeting? (r : Relay) (side : Side) : Option Meeting :=
  match r.pumps.get side with
  | .reading =>
    match (r.legs.get side).receive chunkSize with
    | .waiting => none
    | .data [] _ => some .last
    | .data chunk _ => some (.chunk chunk)
    | .fault fault => some (.fault fault)
  | .writing chunk =>
    match (r.legs.get side.other).send with
    | .waiting => none
    | .sent => some (.wrote chunk)
    | .fault fault => some (.fault fault)
  | .ended => none

/-- **What a pump makes of what it meets.** -/
inductive Pumps (r : Relay) (side : Side) : Meeting → Relay × List Event → Prop
  | last {leg : Leg} : r.pumps.get side = .reading →
      (r.legs.get side).receive chunkSize = .data [] leg →
      Pumps r side .last ({ r.endPump side with legs := r.legs.set side leg }, [])
  | chunk {chunk : Bytes} {leg : Leg} : r.pumps.get side = .reading →
      (r.legs.get side).receive chunkSize = .data chunk leg → chunk ≠ [] →
      Pumps r side (.chunk chunk)
        ({ r.continuePump side (.writing chunk) with legs := r.legs.set side leg }, [])
  | unread {fault : Fault} : r.pumps.get side = .reading →
      (r.legs.get side).receive chunkSize = .fault fault →
      Pumps r side (.fault fault) ((r.recordFault fault).endPump side, [])
  | wrote {chunk : Bytes} : r.pumps.get side = .writing chunk →
      (r.legs.get side.other).send = .sent →
      Pumps r side (.wrote chunk)
        ({ r.continuePump side .reading with
            moved := r.moved.set side (r.moved.get side + chunk.length) },
          [r.legEvent side.other (.wrote chunk)])
  | unsent {chunk : Bytes} {fault : Fault} : r.pumps.get side = .writing chunk →
      (r.legs.get side.other).send = .fault fault →
      Pumps r side (.fault fault) ((r.recordFault fault).endPump side, [])

/-- A pump that makes a step has met something. -/
theorem pumps_of_advance {side : Side} (hstep : r.step (.advance side) = some result) :
    ∃ meeting, r.meeting? side = some meeting ∧ Pumps r side meeting result := by
  simp only [step] at hstep
  split at hstep
  · rename_i hpump
    unfold readStep at hstep
    split at hstep
    · cases hstep
    · rename_i leg hread
      obtain rfl := Option.some.inj hstep
      exact ⟨.last, by simp only [meeting?, hpump, hread], .last hpump hread⟩
    · rename_i chunk leg hchunk hread
      obtain rfl := Option.some.inj hstep
      have hmeets : r.meeting? side = some (.chunk chunk) := by
        cases chunk with
        | nil => exact absurd rfl hchunk
        | cons => simp only [meeting?, hpump, hread]
      exact ⟨.chunk chunk, hmeets, .chunk hpump hread hchunk⟩
    · rename_i fault hread
      obtain rfl := Option.some.inj hstep
      exact ⟨.fault fault, by simp only [meeting?, hpump, hread], .unread hpump hread⟩
  · rename_i chunk hpump
    unfold writeStep at hstep
    split at hstep
    · cases hstep
    · rename_i hsend
      obtain rfl := Option.some.inj hstep
      exact ⟨.wrote chunk, by simp only [meeting?, hpump, hsend], .wrote hpump hsend⟩
    · rename_i fault hsend
      obtain rfl := Option.some.inj hstep
      exact ⟨.fault fault, by simp only [meeting?, hpump, hsend], .unsent hpump hsend⟩
  · cases hstep

/-- A pump is stopped when it has been told to. -/
theorem abandon_cases {side : Side} (hstep : r.step (.abandon side) = some result) :
    r.stopping = true ∧ r.pumps.get side ≠ .ended ∧ result = (r.haltPump side, []) := by
  simp only [step] at hstep
  split at hstep
  · rename_i hpump
    exact ⟨hpump.1, hpump.2, (Option.some.inj hstep).symm⟩
  · cases hstep

/-- **What an action of a relay can do.** -/
inductive Passage (r : Relay) : Act → Relay × List Event → Prop
  /-- Something happens to a leg from outside. -/
  | peer {side : Side} {act : Leg.Act} :
      Passage r (.peer side act)
        ({ r with legs := r.legs.set side ((r.legs.get side).apply act).1 },
          ((r.legs.get side).apply act).2.map (r.legEvent side))
  /-- A pump meets the end of its stream. -/
  | last {side : Side} {leg : Leg} : r.pumps.get side = .reading →
      (r.legs.get side).receive chunkSize = .data [] leg →
      Passage r (.advance side) ({ r.endPump side with legs := r.legs.set side leg }, [])
  /-- A pump reads a chunk. -/
  | read {side : Side} {chunk : Bytes} {leg : Leg} : r.pumps.get side = .reading →
      (r.legs.get side).receive chunkSize = .data chunk leg →
      Passage r (.advance side)
        ({ r.continuePump side (.writing chunk) with legs := r.legs.set side leg }, [])
  /-- A pump fails to read. -/
  | unread {side : Side} {fault : Fault} : r.pumps.get side = .reading →
      Passage r (.advance side) ((r.recordFault fault).endPump side, [])
  /-- A pump writes what it has read. -/
  | write {side : Side} {chunk : Bytes} : r.pumps.get side = .writing chunk →
      Passage r (.advance side)
        ({ r.continuePump side .reading with
            moved := r.moved.set side (r.moved.get side + chunk.length) },
          [r.legEvent side.other (.wrote chunk)])
  /-- A pump fails to write. -/
  | unsent {side : Side} {chunk : Bytes} {fault : Fault} : r.pumps.get side = .writing chunk →
      Passage r (.advance side) ((r.recordFault fault).endPump side, [])
  /-- A pump is stopped. -/
  | abandon {side : Side} : r.pumps.get side ≠ .ended →
      Passage r (.abandon side) (r.haltPump side, [])
  /-- The relay is cancelled. -/
  | cancel : r.ending = none → r.cancelled = false →
      Passage r .cancel ({ r with stopping := true, cancelled := true }, [])
  /-- The legs are closed. -/
  | close : r.pumpsEnded = true → r.ending = none → Passage r .close r.closeLegs

/-- **Every action of a relay is one of its passages.** -/
theorem passage_of_step (hstep : r.step act = some result) : Passage r act result := by
  cases act with
  | peer side act =>
    obtain rfl := Option.some.inj hstep
    exact .peer
  | advance side =>
    obtain ⟨meeting, -, hpumps⟩ := pumps_of_advance hstep
    cases hpumps with
    | last hpump hread => exact .last hpump hread
    | chunk hpump hread => exact .read hpump hread
    | unread hpump => exact .unread hpump
    | wrote hpump => exact .write hpump
    | unsent hpump => exact .unsent hpump
  | abandon side =>
    obtain ⟨-, hpump, rfl⟩ := abandon_cases hstep
    exact .abandon hpump
  | cancel =>
    simp only [step] at hstep
    split at hstep
    · rename_i hopen
      obtain rfl := Option.some.inj hstep
      simp only [Bool.and_eq_true, Option.isNone_iff_eq_none, Bool.not_eq_true'] at hopen
      exact .cancel hopen.1 hopen.2
    · cases hstep
  | close =>
    simp only [step] at hstep
    split at hstep
    · rename_i hended
      obtain rfl := Option.some.inj hstep
      exact .close hended.1 (by simpa using hended.2)
    · cases hstep

@[simp] theorem recordFault_legs (fault : Fault) : (r.recordFault fault).legs = r.legs := by
  unfold recordFault
  split <;> rfl

@[simp] theorem recordFault_pumps (fault : Fault) : (r.recordFault fault).pumps = r.pumps := by
  unfold recordFault
  split <;> rfl

@[simp] theorem recordFault_ending (fault : Fault) : (r.recordFault fault).ending = r.ending := by
  unfold recordFault
  split <;> rfl

@[simp] theorem recordFault_cancelled (fault : Fault) :
    (r.recordFault fault).cancelled = r.cancelled := by
  unfold recordFault
  split <;> rfl

/-- A change of one leg that does not touch how it closes. -/
theorem closesLike_set {side : Side} {leg : Leg} (h : leg.ClosesLike (legs.get side)) (s : Side) :
    ((legs.set side leg).get s).ClosesLike (legs.get s) := by
  rcases Side.eq_or_eq_other side s with rfl | rfl
  · rw [Both.get_set_same]
    exact h
  · rw [Both.get_set_other]
    exact .refl _

theorem closesLike_closeLegs (r : Relay) (side : Side) :
    (r.closeLegs.1.legs.get side).ClosesLike (r.legs.get side) := by
  have hin := r.legs.inbound.closesLike_closeNow
  have hout := r.legs.outbound.closesLike_closeNow
  unfold closeLegs
  split
  · exact closesLike_set hin side
  · cases side with
    | inbound => exact hin
    | outbound => exact hout

theorem closeLegs_frame (r : Relay) :
    r.closeLegs.1.ending = some r.endingOf ∧ r.closeLegs.1.pumps = r.pumps ∧
      r.closeLegs.1.moved = r.moved ∧ r.closeLegs.1.cancelled = r.cancelled := by
  unfold closeLegs
  split <;> exact ⟨rfl, rfl, rfl, rfl⟩

/-- **What an action leaves as it is**: how the legs close, whether the relay
was cancelled, unless the action does that, and its ending, unless it is the
action that ends it. -/
theorem frame_step (hp : Passage r act result) :
    (∀ side, (result.1.legs.get side).ClosesLike (r.legs.get side)) ∧
      (act ≠ .cancel → result.1.cancelled = r.cancelled) ∧
      (result.1.ending = r.ending ∨ r.ending = none ∧ result = r.closeLegs) := by
  cases hp with
  | peer => exact ⟨closesLike_set (Leg.closesLike_apply _ _), fun _ => rfl, Or.inl rfl⟩
  | last hpump hread | read hpump hread =>
    exact ⟨closesLike_set (Leg.closesLike_receive hread), fun _ => rfl, Or.inl rfl⟩
  | unread | unsent => simp [endPump, Leg.ClosesLike.refl]
  | write | abandon => exact ⟨fun _ => .refl _, fun _ => rfl, Or.inl rfl⟩
  | cancel => exact ⟨fun _ => .refl _, fun h => absurd rfl h, Or.inl rfl⟩
  | close _ hending =>
    exact ⟨closesLike_closeLegs r, fun _ => (closeLegs_frame r).2.2.2, Or.inr ⟨hending, rfl⟩⟩

/-- A leg that an action has put in its place is closed if it was, or if it was
closed before it. -/
theorem closed_of_set {side other : Side} {leg : Leg} {P : Prop}
    (h : ((legs.set side leg).get other).closed = true)
    (hleg : leg.closed = true → (legs.get side).closed = true ∨ P) :
    (legs.get other).closed = true ∨ (other = side ∧ P) := by
  rcases Side.eq_or_eq_other side other with rfl | rfl
  · rw [Both.get_set_same] at h
    exact (hleg h).imp_right fun hp => ⟨rfl, hp⟩
  · rw [Both.get_set_other] at h
    exact Or.inl h

/-- **A relay does not close a leg unseen.** -/
theorem closed_of_passage (hp : Passage r act result) {side : Side}
    (hclosed : (result.1.legs.get side).closed = true) :
    (r.legs.get side).closed = true ∨ ∃ cover, ⟨side, cover, .closed⟩ ∈ result.2 := by
  have hclose (other : Side) (h : (r.legs.get other).closeNow.closed = true) :
      (r.legs.get other).closed = true ∨
        ⟨other, (r.legs.get other).cover, .closed⟩ ∈
          (r.legs.get other).closeEvents.map (r.legEvent other) :=
    (Leg.closed_of_closeNow h).imp_right List.mem_map_of_mem
  cases hp with
  | @peer other act =>
    rcases closed_of_set hclosed Leg.closed_of_apply with hbefore | ⟨rfl, hevent⟩
    · exact Or.inl hbefore
    · exact Or.inr ⟨_, List.mem_map_of_mem hevent⟩
  | last _ hread | read _ hread =>
    -- a read closes nothing, so there is no event to show
    rcases closed_of_set (P := False) hclosed
      (fun h => Or.inl (by rwa [Leg.closed_of_receive hread] at h)) with hbefore | ⟨-, hfalse⟩
    · exact Or.inl hbefore
    · exact hfalse.elim
  | unread | unsent => exact Or.inl (by simpa [endPump] using hclosed)
  | write | abandon | cancel => exact Or.inl hclosed
  | close =>
    unfold closeLegs at hclosed ⊢
    split at hclosed
    · rcases closed_of_set hclosed (hclose .inbound) with hbefore | ⟨rfl, hevent⟩
      · exact Or.inl hbefore
      · exact Or.inr ⟨_, hevent⟩
    · cases side with
      | inbound =>
        exact (hclose .inbound hclosed).imp_right fun h => ⟨_, List.mem_append_left _ h⟩
      | outbound =>
        exact (hclose .outbound hclosed).imp_right fun h => ⟨_, List.mem_append_right _ h⟩

/-! ## One direction -/

section Direction

variable {leg leg' : Leg} {pump : Pump} {moved : Nat} {chunk sent written more : Bytes}

/-- What a pump holds: the chunk that it has read and not written, and after
its end at most one chunk that nobody will write. -/
def Pump.Holds : Pump → Bytes → Prop
  | .reading, held => held = []
  | .writing chunk, held => held = chunk ∧ held.length ≤ chunkSize
  | .ended, held => held.length ≤ chunkSize

theorem Pump.Holds.length_le {held : Bytes} (h : pump.Holds held) : held.length ≤ chunkSize := by
  cases pump with
  | reading =>
    rw [show held = [] from h]
    exact Nat.zero_le _
  | writing chunk => exact h.2
  | ended => exact h

/-- What a pump holds that goes on unless it has been told to stop. -/
theorem Pump.Holds.continue {held : Bytes} {stopping : Bool} (h : pump.Holds held) :
    (if stopping then Pump.ended else pump).Holds held := by
  cases stopping with
  | false => exact h
  | true => exact h.length_le

/-- **One direction of a relay**: what its peer has sent is what was written
on the other leg, then what the pump holds, then what waits on the leg; and
the count is the number of bytes written. -/
structure Carries (pump : Pump) (moved : Nat) (leg : Leg) (sent written : Bytes) : Prop where
  kept : ∃ held, pump.Holds held ∧ sent = written ++ held ++ leg.queued
  counted : moved = written.length

namespace Carries

/-- The peer sends more. -/
theorem arrive (h : Carries pump moved leg sent written)
    (hqueued : leg'.queued = leg.queued ++ more) :
    Carries pump moved leg' (sent ++ more) written := by
  obtain ⟨⟨held, hholds, rfl⟩, hcount⟩ := h
  refine ⟨⟨held, hholds, ?_⟩, hcount⟩
  rw [hqueued, ← List.append_assoc]

/-- The pump reads a chunk. -/
theorem read (h : Carries .reading moved leg sent written)
    (hqueued : leg.queued = chunk ++ leg'.queued) (hholds : pump.Holds chunk) :
    Carries pump moved leg' sent written := by
  obtain ⟨⟨held, rfl, rfl⟩, hcount⟩ := h
  refine ⟨⟨chunk, hholds, ?_⟩, hcount⟩
  rw [hqueued, List.append_nil, List.append_assoc]

/-- The pump writes the chunk that it holds. -/
theorem write (h : Carries (.writing chunk) moved leg sent written) (hholds : pump.Holds []) :
    Carries pump (moved + chunk.length) leg sent (written ++ chunk) := by
  obtain ⟨⟨held, ⟨rfl, -⟩, rfl⟩, rfl⟩ := h
  refine ⟨⟨[], hholds, ?_⟩, ?_⟩
  · rw [List.append_nil]
  · rw [List.length_append]

/-- The pump ends with whatever it holds. -/
theorem stop (h : Carries pump moved leg sent written) : Carries .ended moved leg sent written := by
  obtain ⟨⟨held, hholds, hsent⟩, hcount⟩ := h
  exact ⟨⟨held, hholds.length_le, hsent⟩, hcount⟩

end Carries

end Direction

/-! ## Both directions -/

/-- Both directions carry what their peers have sent. -/
def Conserves (r : Relay) (sent written : Side → Bytes) : Prop :=
  ∀ side, Carries (r.pumps.get side) (r.moved.get side) (r.legs.get side) (sent side)
    (written side.other)

section Step

variable {sent written : Side → Bytes}

/-- At the start nothing has been written. -/
theorem conserves_start (legs : Both Leg) :
    Conserves (start legs) (fun side => (legs.get side).queued) (fun _ => []) := by
  intro side
  cases side <;> exact ⟨⟨[], rfl, rfl⟩, rfl⟩

/-- A change of one direction leaves the other as it is. -/
theorem conserves_of_one (h : Conserves r sent written) (side : Side)
    {sent' written' : Side → Bytes}
    (hone : Carries (next.pumps.get side) (next.moved.get side) (next.legs.get side) (sent' side)
      (written' side.other))
    (hpump : next.pumps.get side.other = r.pumps.get side.other)
    (hmoved : next.moved.get side.other = r.moved.get side.other)
    (hleg : next.legs.get side.other = r.legs.get side.other)
    (hsent : sent' side.other = sent side.other) (hwritten : written' side = written side) :
    Conserves next sent' written' := by
  intro s
  rcases Side.eq_or_eq_other side s with rfl | rfl
  · exact hone
  · -- the other direction ends on the leg of `side`
    have hother := h side.other
    rw [Side.other_other] at hother ⊢
    rw [hpump, hmoved, hleg, hsent, hwritten]
    exact hother

/-- A pump that ends leaves what it holds unwritten. -/
theorem conserves_endPump (h : Conserves r sent written) (side : Side) :
    Conserves (r.endPump side) sent written := by
  refine conserves_of_one h side ?_ ?_ rfl rfl rfl rfl
  · simpa [endPump] using (h side).stop
  · simp [endPump]

theorem conserves_recordFault (h : Conserves r sent written) (fault : Fault) :
    Conserves (r.recordFault fault) sent written := by
  unfold recordFault
  split <;> exact h

theorem conserves_peer (h : Conserves r sent written) (side : Side) (act : Leg.Act) :
    Conserves { r with legs := r.legs.set side ((r.legs.get side).apply act).1 }
      (fun s => sent s ++ Act.sent s (.peer side act)) written := by
  refine conserves_of_one h side ?_ rfl rfl ?_ ?_ rfl
  · simpa [Act.sent] using (h side).arrive Leg.queued_apply
  · simp
  · simp [Act.sent]

/-- Legs that differ only in whether they are closed carry the same bytes. -/
theorem conserves_legs (h : Conserves r sent written)
    (hpumps : next.pumps = r.pumps) (hmoved : next.moved = r.moved)
    (hlegs : ∀ side, (next.legs.get side).queued = (r.legs.get side).queued) :
    Conserves next sent written := by
  intro side
  have hqueued : (next.legs.get side).queued = (r.legs.get side).queued ++ [] := by
    rw [hlegs, List.append_nil]
  rw [hpumps, hmoved, ← List.append_nil (sent side)]
  exact (h side).arrive hqueued

/-- Closing the legs writes nothing. -/
theorem written_closeLegs (r : Relay) (side : Side) : writtenOn side r.closeLegs.2 = [] := by
  have hquiet (other : Side) :
      writtenOn side ((r.legs.get other).closeEvents.map (r.legEvent other)) = [] :=
    writtenOn_map fun e he => Leg.written_closeEvents he
  unfold closeLegs
  split
  · exact hquiet .inbound
  · rw [writtenOn_append]
    exact List.append_eq_nil_iff.mpr ⟨hquiet .inbound, hquiet .outbound⟩

/-- Closing the legs leaves on them what waits there. -/
theorem queued_closeLegs (r : Relay) (side : Side) :
    (r.closeLegs.1.legs.get side).queued = (r.legs.get side).queued := by
  unfold closeLegs
  split <;> cases side <;> simp [Both.get, Both.set]

theorem conserves_closeLegs (h : Conserves r sent written) :
    Conserves r.closeLegs.1 sent written := by
  obtain ⟨-, hpumps, hmoved, -⟩ := closeLegs_frame r
  exact conserves_legs h hpumps hmoved (queued_closeLegs r)

/-- A pump reads. -/
theorem conserves_read (h : Conserves r sent written) {side : Side} {pump : Pump} {chunk : Bytes}
    {leg : Leg} (hpump : r.pumps.get side = .reading)
    (hread : (r.legs.get side).receive chunkSize = .data chunk leg) (hholds : pump.Holds chunk)
    (hpumps : next.pumps = r.pumps.set side pump) (hmoved : next.moved = r.moved)
    (hlegs : next.legs = r.legs.set side leg) : Conserves next sent written := by
  have hside := h side
  rw [hpump] at hside
  refine conserves_of_one h side ?_ ?_ (by rw [hmoved]) ?_ rfl rfl
  · rw [hpumps, hmoved, hlegs, Both.get_set_same, Both.get_set_same]
    exact hside.read (Leg.queued_of_receive hread).1 hholds
  · rw [hpumps, Both.get_set_other]
  · rw [hlegs, Both.get_set_other]

/-- A pump writes what it has read. -/
theorem conserves_write (h : Conserves r sent written) {side : Side} {chunk : Bytes}
    (hpump : r.pumps.get side = .writing chunk) :
    Conserves { r.continuePump side .reading with
        moved := r.moved.set side (r.moved.get side + chunk.length) } sent
      (fun s => written s ++ writtenOn s [r.legEvent side.other (.wrote chunk)]) := by
  have hside := h side
  rw [hpump] at hside
  have hholds : (if r.stopping then .ended else Pump.reading).Holds [] := Pump.Holds.continue rfl
  refine conserves_of_one h side ?_ ?_ ?_ rfl rfl ?_
  · simpa [continuePump, writtenOn, Event.writtenOn, legEvent, Leg.Event.written] using
      hside.write hholds
  · simp [continuePump]
  · simp
  · simp [writtenOn, Event.writtenOn, legEvent]

/-- **Every action conserves bytes**: what a peer sends by it is added to what
was sent, and what it writes to what was written. -/
theorem conserves_step (h : Conserves r sent written) (hp : Passage r act result) :
    Conserves result.1 (fun side => sent side ++ act.sent side)
      (fun side => written side ++ writtenOn side result.2) := by
  cases hp with
  | @peer side act =>
    simpa [writtenOn_map fun _ => Leg.written_apply] using conserves_peer h side act
  | @last side leg hpump hread =>
    have hholds : Pump.ended.Holds [] := Nat.zero_le chunkSize
    have hnext : Conserves { r.endPump side with legs := r.legs.set side leg } sent written :=
      conserves_read h hpump hread hholds rfl rfl rfl
    simpa [Act.sent] using hnext
  | @read side chunk leg hpump hread =>
    have hholds : (if r.stopping then .ended else Pump.writing chunk).Holds chunk :=
      Pump.Holds.continue ⟨rfl, (Leg.queued_of_receive hread).2⟩
    have hnext : Conserves
        { r.continuePump side (.writing chunk) with legs := r.legs.set side leg } sent written :=
      conserves_read h hpump hread hholds rfl rfl rfl
    simpa [Act.sent] using hnext
  | write hpump => simpa [Act.sent] using conserves_write h hpump
  | unread | unsent =>
    simpa [Act.sent] using conserves_endPump (conserves_recordFault h _) _
  | @abandon side =>
    have hnext : Conserves (r.haltPump side) sent written := conserves_endPump h side
    simpa [Act.sent] using hnext
  | cancel =>
    have hnext : Conserves { r with stopping := true, cancelled := true } sent written :=
      conserves_legs h rfl rfl fun _ => rfl
    simpa [Act.sent] using hnext
  | close =>
    simpa [Act.sent, written_closeLegs] using conserves_closeLegs h

end Step

/-- So does every run of a relay. -/
theorem conserves_run (h : machine.run (start legs) acts = some (r, events)) :
    Conserves r (fun side => sentBy legs acts side) (fun side => writtenOn side events) := by
  refine Machine.run_induction (P := fun r acts events =>
    Conserves r (fun side => sentBy legs acts side) fun side => writtenOn side events) ?_ ?_ h
  · simpa [sentBy] using conserves_start legs
  · intro r next act acts events more _ hr hstep
    have := conserves_step hr (passage_of_step hstep)
    simpa [sentBy, List.flatMap_append, List.append_assoc] using this

/-! ## What is told at the end -/

/-- **How a relay concludes** from the faults that it has kept, if closing its
legs does not fail. -/
inductive Concludes (r : Relay) : Ending Outcome → Prop
  | crashed : r.crashes ≠ [] →
      Concludes r (.group { faults := r.crashes, cancelled := r.cancelled && r.halted })
  | cancelled : r.crashes = [] → r.cancelled = true → Concludes r .cancelled
  | returned : r.crashes = [] → r.cancelled = false → r.faults = [] →
      Concludes r (.returned
        { fromInbound := .int r.moved.inbound, fromOutbound := .int r.moved.outbound })
  | failed {fault : Fault} {others : List Fault} : r.crashes = [] → r.cancelled = false →
      r.faults = fault :: others → Concludes r (.raised (r.failureOf fault))

theorem concludes_endingOf
    (hclose : r.legs.inbound.closeFault?.or r.legs.outbound.closeFault? = none) :
    Concludes r r.endingOf := by
  cases hcrashes : r.crashes with
  | cons crash others =>
    have hending : r.endingOf =
        .group { faults := r.crashes, cancelled := r.cancelled && r.halted } := by
      simp [endingOf, hclose, hcrashes]
    rw [hending]
    exact .crashed (by simp [hcrashes])
  | nil =>
    cases hcancelled : r.cancelled with
    | true =>
      have hending : r.endingOf = .cancelled := by
        cases hfaults : r.faults <;> simp [endingOf, hclose, hcrashes, hfaults, hcancelled]
      rw [hending]
      exact .cancelled hcrashes hcancelled
    | false =>
      cases hfaults : r.faults with
      | nil =>
        have hending : r.endingOf = .returned
            { fromInbound := .int r.moved.inbound, fromOutbound := .int r.moved.outbound } := by
          simp [endingOf, hclose, hcrashes, hfaults, hcancelled]
        rw [hending]
        exact .returned hcrashes hcancelled hfaults
      | cons fault others =>
        have hending : r.endingOf = .raised (r.failureOf fault) := by
          simp [endingOf, hclose, hcrashes, hfaults, hcancelled]
        rw [hending]
        exact .failed hcrashes hcancelled hfaults

/-- What the ending of a relay may tell of legs and counts: the counts
themselves, also in a failure, or a fault that closing one of the legs was to
give. -/
def Tells (legs : Both Leg) (counts : Both Nat) : Ending Outcome → Prop
  | .returned outcome =>
    outcome.fromInbound = .int counts.inbound ∧ outcome.fromOutbound = .int counts.outbound
  | .raised fault =>
    fault.kind = .relayFailure (.int counts.inbound) (.int counts.outbound) ∨
      ∃ side, (legs.get side).closeFault = some fault
  | .group _ | .cancelled => True

theorem tells_endingOf : Tells r.legs r.moved r.endingOf := by
  unfold endingOf
  split
  · rename_i fault _ _ hclose
    rcases Option.or_eq_some_iff.mp hclose with hin | ⟨-, hout⟩
    · exact Or.inr ⟨.inbound, Leg.closeFault_of_closeFault? hin⟩
    · exact Or.inr ⟨.outbound, Leg.closeFault_of_closeFault? hout⟩
  · split
    · trivial
    · exact ⟨rfl, rfl⟩
  · split
    · trivial
    · exact Or.inl rfl
  · trivial

/-- A relay that has ended has told the counts that it still has, and its
pumps have ended before. Its legs close like those it came with. -/
structure Faithful (legs : Both Leg) (r : Relay) : Prop where
  closes : ∀ side, (r.legs.get side).ClosesLike (legs.get side)
  told : ∀ ending, r.ending = some ending → r.pumpsEnded ∧ Tells legs r.moved ending

/-- A relay with a pump at work has not ended. -/
theorem Faithful.ending_eq_none (h : Faithful legs r) {side : Side} {pump : Pump}
    (hpump : r.pumps.get side = pump) (hwork : pump ≠ .ended) : r.ending = none := by
  cases hending : r.ending with
  | none => rfl
  | some ending =>
    have hpumps : r.pumps = ⟨.ended, .ended⟩ := by
      simpa [pumpsEnded] using (h.told ending hending).1
    rw [hpumps] at hpump
    cases side <;> exact absurd hpump.symm hwork

/-- The ending of a relay tells of the legs that it came with. -/
theorem Faithful.tells (h : Faithful legs r) : Tells legs r.moved r.endingOf := by
  have htells := tells_endingOf (r := r)
  cases he : r.endingOf with
  | raised fault =>
    rw [he] at htells
    rcases htells with hkind | ⟨side, hside⟩
    · exact Or.inl hkind
    · exact Or.inr ⟨side, (h.closes side).fault.symm.trans hside⟩
  | returned outcome =>
    rw [he] at htells
    exact htells
  | group faults => trivial
  | cancelled => trivial

/-- **Every action keeps the report faithful.** Before the end there is none;
the legs are closed with the counts of that moment, and nothing moves after. -/
theorem faithful_step (h : Faithful legs r) (hp : Passage r act result) :
    Faithful legs result.1 := by
  obtain ⟨hlegs, -, hending⟩ := frame_step hp
  refine ⟨fun side => (hlegs side).trans (h.closes side), ?_⟩
  -- all actions but the last leave a relay without an ending as it is
  have hopen (hnone : r.ending = none) (heq : result.1.ending = r.ending) (ending : Ending Outcome)
      (hsome : result.1.ending = some ending) :
      result.1.pumpsEnded ∧ Tells legs result.1.moved ending := by
    rw [heq, hnone] at hsome
    cases hsome
  cases hp with
  | peer => exact h.told
  | last hpump | read hpump | unread hpump | write hpump | unsent hpump =>
    exact hopen (h.ending_eq_none hpump nofun) (by simp [endPump, continuePump])
  | abandon hpump => exact hopen (h.ending_eq_none rfl hpump) rfl
  | cancel hnone => exact hopen hnone rfl
  | close hended hnone =>
    -- closing the legs moves nothing: the counts told are those that stay
    obtain ⟨htold, hpumps, hmoved, -⟩ := closeLegs_frame r
    intro ending hsome
    rw [htold, Option.some.injEq] at hsome
    rw [hmoved, ← hsome]
    exact ⟨by simpa [pumpsEnded, hpumps] using hended, h.tells⟩

theorem faithful_run (h : machine.run (start legs) acts = some (r, events)) : Faithful legs r := by
  refine Machine.run_induction (P := fun r _ _ => Faithful legs r) ?_ ?_ h
  · exact ⟨fun _ => .refl _, nofun⟩
  · intro r next act acts events more _ hr hstep
    exact faithful_step hr (passage_of_step hstep)

/-! ## Conservation -/

/-- **A relay conserves bytes**, at every moment of every run. On each side,
what the peer has sent is what was written on the other leg, then what the pump
has read and not yet written, then what is not yet read; the pump holds at most
one chunk of at most `chunkSize` bytes. The count of the side is the number of
bytes written on the other, and a relay that has ended has told these counts,
unless closing a leg failed. -/
theorem relay_conserves (h : machine.run (start legs) acts = some (r, events)) (side : Side) :
    writtenOn side.other events <+: sentBy legs acts side ∧
      (∃ held, (r.pumps.get side).Holds held ∧ held.length ≤ chunkSize ∧
        sentBy legs acts side =
          writtenOn side.other events ++ held ++ (r.legs.get side).queued) ∧
      r.moved.get side = (writtenOn side.other events).length ∧
      ∀ ending, r.ending = some ending →
        Tells legs ⟨(writtenOn .outbound events).length, (writtenOn .inbound events).length⟩
          ending := by
  have hconserves := conserves_run h
  obtain ⟨⟨held, hholds, hsent⟩, hcount⟩ := hconserves side
  refine ⟨⟨held ++ (r.legs.get side).queued, ?_⟩, ⟨held, hholds, hholds.length_le, hsent⟩, hcount,
    fun ending hending => ?_⟩
  · rw [← List.append_assoc]
    exact hsent.symm
  · have hmoved : r.moved =
        ⟨(writtenOn .outbound events).length, (writtenOn .inbound events).length⟩ :=
      Both.ext_get fun s => by
        rw [(hconserves s).counted]
        cases s <;> rfl
    rw [← hmoved]
    exact ((faithful_run h).told ending hending).2

/-- A run in which the outbound leg breaks while the second chunk of the
inbound peer waits to be written. -/
def brokenOff : List Act :=
  [.peer .inbound (.deliver [1, 2, 3]), .advance .inbound, .advance .inbound,
    .peer .inbound (.deliver [4]), .advance .inbound, .peer .outbound (.snap .streamClosed),
    .advance .outbound, .abandon .inbound, .close]

/-- The fourth byte has been read and is written nowhere; the failure tells of
the three that were. -/
theorem brokenOff_conserves :
    ∃ r events ending, machine.run (start ⟨{}, {}⟩) brokenOff = some (r, events) ∧
      r.ending = some ending ∧ Tells ⟨{}, {}⟩ ⟨3, 0⟩ ending ∧
      sentBy ⟨{}, {}⟩ brokenOff .inbound = [1, 2, 3, 4] ∧
      writtenOn .outbound events = [1, 2, 3] ∧
      writtenOn .outbound events <+: sentBy ⟨{}, {}⟩ brokenOff .inbound := by
  obtain ⟨hwritten, -, -, htold⟩ :=
    @relay_conserves _ brokenOff _ ⟨{}, {}⟩ rfl .inbound
  exact ⟨_, _, _, rfl, rfl, htold _ rfl, rfl, rfl, hwritten⟩

end Relay

end TunnelRelay
