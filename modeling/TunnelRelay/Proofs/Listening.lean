import TunnelRelay.Proofs.Undisturbed
/-!
# How much the responder reads

A responder reads on only while the bytes that it has are incomplete, and
bytes that are incomplete are no more than the limit and have not ended
(`Http.examine_incomplete`). So every read but the last brings something, all
of them together bring no more than the limit, and the last brings no more
than one read can: that bounds the bytes and the reads (`Listens`).

A responder that reads does nothing else: it makes a step only by a read, and
it can read whenever something waits on its leg. With the bound on the reads
this makes it come to an end, if its client does or goes on sending
(`leaves_reading`).
-/

namespace TunnelRelay

/-- What ends the stream of a leg is still there after some bytes of it have
been read. -/
theorem Leg.stop_of_receive {leg next : Leg} {chunk : Bytes} {max : Nat}
    (hread : leg.receive max = .data chunk next) (hchunk : chunk ≠ [])
    (h : ∃ arrival ∈ leg.arrivals, arrival.isData = false) :
    ∃ arrival ∈ next.arrivals, arrival.isData = false := by
  obtain ⟨-, ⟨whole, rest, harrivals, rfl, rfl⟩ | ⟨-, hnil, -⟩⟩ := Leg.receive_data_cases hread
  · obtain ⟨arrival, hmem, hstop⟩ := h
    rw [harrivals] at hmem
    rcases List.mem_cons.mp hmem with rfl | hmem
    · -- the first arrival brought bytes
      have hwhole : whole = [] := by simpa [Leg.Arrival.isData] using hstop
      exact absurd (by rw [hwhole, List.take_nil]) hchunk
    · refine ⟨arrival, ?_, hstop⟩
      unfold Leg.unread
      split
      · exact hmem
      · exact List.mem_cons_of_mem _ hmem
  · exact absurd hnil hchunk

namespace Gateway

variable {g next : Gateway} {act : Act} {acts : List Act} {events more : List Event}
variable {result : Gateway × List Event} {leg : Leg} {reason : String} {subject : Log.Subject}
variable {chunk : Bytes}

/-! ## The reads of a run -/

/-- What a read gives: bytes, none of them at the end of the stream, or a
fault. -/
abbrev Read := Except Fault Bytes

/-- What the responder reads, if the action is a read. -/
def read? (g : Gateway) : Act → Option Read
  | .advance =>
    match g.stage with
    | .reading =>
      match g.leg.receive Http.headLimit with
      | .waiting => none
      | .data chunk _ => some (.ok chunk)
      | .fault fault => some (.error fault)
    | .writing _ | .closing _ | .ended _ => none
  | .peer _ | .cancel => none

/-- The reads of a run, in order. -/
def reads (start : Gateway) (acts : List Act) : List Read :=
  machine.gather (fun g act => (g.read? act).toList) start acts

theorem reads_concat {start : Gateway} (h : machine.run start acts = some (g, events)) (act : Act) :
    start.reads (acts ++ [act]) = start.reads acts ++ (g.read? act).toList :=
  Machine.gather_concat h act

/-- The bytes of a read. -/
def Read.bytes : Read → Bytes
  | .ok chunk => chunk
  | .error _ => []

/-- All the bytes that were read. -/
def taken (reads : List Read) : Bytes := reads.flatMap Read.bytes

theorem taken_append (reads later : List Read) :
    taken (reads ++ later) = taken reads ++ taken later :=
  List.flatMap_append

theorem taken_chunks (chunks : List Bytes) : taken (chunks.map .ok) = chunks.flatten := by
  rw [taken, List.flatMap_map]
  exact List.flatMap_id

theorem read?_of_receive {leg : Leg} (hstage : g.stage = .reading)
    (hread : g.leg.receive Http.headLimit = .data chunk leg) :
    g.read? .advance = some (.ok chunk) := by
  simp only [read?, hstage, hread]

theorem read?_of_fault {fault : Fault} (hstage : g.stage = .reading)
    (hread : g.leg.receive Http.headLimit = .fault fault) :
    g.read? .advance = some (.error fault) := by
  simp only [read?, hstage, hread]

/-- A responder that reads makes no other step. -/
theorem read?_of_advance (hstage : g.stage = .reading) (hstep : g.advance = some result) :
    ∃ read, g.read? .advance = some read := by
  cases hread : g.leg.receive Http.headLimit with
  | waiting => simp [advance, hstage, hread] at hstep
  | data chunk leg => exact ⟨_, read?_of_receive hstage hread⟩
  | fault fault => exact ⟨_, read?_of_fault hstage hread⟩

/-- A responder that does not read does not begin to. -/
theorem read?_eq_none (h : g.stage ≠ .reading) (act : Act) : g.read? act = none := by
  cases act with
  | peer | cancel => rfl
  | advance =>
    cases hstage : g.stage with
    | reading => exact absurd hstage h
    | writing | closing | ended => simp only [read?, hstage]

/-- A responder that has closed its leg does not read. -/
theorem ne_reading_of_over (h : g.stage.isOver = true) : g.stage ≠ .reading := by
  intro hstage
  rw [hstage] at h
  cases h

theorem stage_fail (g : Gateway) (fault : Fault) : (g.fail fault).1.stage ≠ .reading := by
  obtain ⟨ending, message, heq, -⟩ := fail_spec g fault
  rw [heq]
  exact ne_reading_of_over (finish_over _ _ _)

/-- **What a step does to what waits on the leg**: what the client sends is
added at its end, and what is read is taken from its front. -/
theorem queued_step (hstep : g.step act = some result) :
    g.leg.queued ++ act.sent = taken (g.read? act).toList ++ result.1.leg.queued := by
  cases act with
  | peer own =>
    obtain rfl : ({ g with leg := (g.leg.apply own).1 }, (g.leg.apply own).2.map .leg) = result :=
      Option.some.inj hstep
    exact Leg.queued_apply.symm
  | cancel =>
    cases passage_of_step (fun _ => by simp) hstep with
    | stop =>
      rw [stop, Leg.queued_closeNow]
      exact List.append_nil _
    | interrupt => exact List.append_nil _
  | advance =>
    have hfail (fault : Fault) : (g.fail fault).1.leg.queued = g.leg.queued := by
      obtain ⟨ending, message, heq, -⟩ := fail_spec g fault
      rw [heq, finish, Leg.queued_closeNow]
    have hreading {chunk : Bytes} {leg : Leg} (hstage : g.stage = .reading)
        (hread : g.leg.receive Http.headLimit = .data chunk leg) :
        g.leg.queued ++ Act.advance.sent = taken (g.read? .advance).toList ++ leg.queued := by
      rw [read?_of_receive hstage hread, (Leg.queued_of_receive hread).1]
      simp [taken, Read.bytes, Act.sent]
    cases passage_of_advance hstep with
    | listen hstage hread | settle hstage hread => exact hreading hstage hread
    | decline hstage hread =>
      rw [finish, Leg.queued_closeNow]
      exact hreading hstage hread
    | unread hstage hread =>
      rw [hfail, read?_of_fault hstage hread]
      exact List.append_nil _
    | unsent hstage =>
      rw [hfail, read?_eq_none (by simp [hstage])]
      exact List.append_nil _
    | answer hstage =>
      rw [read?_eq_none (by simp [hstage]), finish, Leg.queued_closeNow]
      exact List.append_nil _
    | leave hstage =>
      rw [read?_eq_none (by simp [hstage])]
      exact List.append_nil _

/-- Whatever the client sends is read, or waits on the leg. -/
theorem sent_run (h : machine.run { leg, reason, subject } acts = some (g, events)) :
    sentBy leg acts = taken (reads { leg, reason, subject } acts) ++ g.leg.queued := by
  refine Machine.run_induction (P := fun u acts _ =>
    sentBy leg acts = taken (reads { leg, reason, subject } acts) ++ u.leg.queued) ?_ ?_ h
  · exact List.append_nil _
  · intro u next act acts events more hbefore hu hstep
    have hsent : sentBy leg (acts ++ [act]) = sentBy leg acts ++ act.sent := by
      simp [sentBy, List.flatMap_append, List.append_assoc]
    rw [hsent, hu, reads_concat hbefore, taken_append, List.append_assoc, queued_step hstep,
      List.append_assoc]

/-! ## The bound -/

/-- **What the reads of a responder are**: chunks that are not empty and fit
together, and then perhaps one more read, after which it does not read on. -/
structure Listens (g : Gateway) (reads : List Read) (chunks : List Bytes) (last : Option Read) :
    Prop where
  reads : reads = chunks.map .ok ++ last.toList
  nonempty : ∀ chunk ∈ chunks, chunk ≠ []
  fit : chunks.flatten.length ≤ Http.headLimit
  lastFits : ∀ read ∈ last, read.bytes.length ≤ Http.headLimit
  still : g.stage = .reading → last = none ∧ chunks.flatten = g.buffer

/-- A responder that does not read keeps what its reads were. -/
theorem Listens.kept {reads : List Read} {chunks : List Bytes} {last : Option Read}
    (h : g.Listens reads chunks last)
    (hnext : next.stage = .reading → g.stage = .reading ∧ next.buffer = g.buffer) :
    next.Listens reads chunks last :=
  { h with
    still := fun hstage => by
      obtain ⟨hbefore, hbuffer⟩ := hnext hstage
      rw [hbuffer]
      exact h.still hbefore }

/-- A responder that has read a chunk, and reads on. -/
theorem Listens.further {reads : List Read} {chunks : List Bytes} {last : Option Read}
    (h : g.Listens reads chunks last) (hstage : g.stage = .reading) (hchunk : chunk ≠ [])
    (hbuffer : next.buffer = g.buffer ++ chunk) (hfits : next.buffer.length ≤ Http.headLimit) :
    next.Listens (reads ++ [.ok chunk]) (chunks ++ [chunk]) none := by
  obtain ⟨rfl, hbefore⟩ := h.still hstage
  have hflat : (chunks ++ [chunk]).flatten = next.buffer := by
    rw [List.flatten_concat, hbefore, hbuffer]
  refine ⟨?_, fun other hother => ?_, hflat ▸ hfits, nofun, fun _ => ⟨rfl, hflat⟩⟩
  · rw [h.reads]
    simp
  · rcases List.mem_append.mp hother with hother | hother
    · exact h.nonempty other hother
    · rw [List.mem_singleton.mp hother]
      exact hchunk

/-- A responder that reads for the last time. -/
theorem Listens.done {reads : List Read} {chunks : List Bytes} {last : Option Read} {read : Read}
    (h : g.Listens reads chunks last) (hstage : g.stage = .reading)
    (hfits : read.bytes.length ≤ Http.headLimit) (hnext : next.stage ≠ .reading) :
    next.Listens (reads ++ [read]) chunks (some read) := by
  obtain ⟨rfl, -⟩ := h.still hstage
  refine ⟨?_, h.nonempty, h.fit, fun other hother => ?_, fun hreading => absurd hreading hnext⟩
  · rw [h.reads, Option.toList_none, List.append_nil]
    rfl
  · obtain rfl : read = other := Option.some.inj hother
    exact hfits

/-- **Every step keeps the bound.** -/
theorem listens_step {reads : List Read} {chunks : List Bytes} {last : Option Read}
    (h : g.Listens reads chunks last) (hstep : g.step act = some result) :
    ∃ chunks last, result.1.Listens (reads ++ (g.read? act).toList) chunks last := by
  cases act with
  | peer own =>
    obtain rfl : ({ g with leg := (g.leg.apply own).1 }, (g.leg.apply own).2.map .leg) = result :=
      Option.some.inj hstep
    rw [read?, Option.toList_none, List.append_nil]
    exact ⟨chunks, last, h.kept fun hstage => ⟨hstage, rfl⟩⟩
  | cancel =>
    have hover : result.1.stage.isOver = true := by
      cases passage_of_step (fun _ => by simp) hstep with
      | stop | interrupt => rfl
    rw [read?, Option.toList_none, List.append_nil]
    exact ⟨chunks, last, h.kept fun hreading => absurd hreading (ne_reading_of_over hover)⟩
  | advance =>
    cases passage_of_advance hstep with
    | @listen chunk leg hstage hread hmore =>
      obtain ⟨hgoes, hlength⟩ := Http.examine_incomplete hmore
      rw [read?_of_receive hstage hread]
      exact ⟨_, _, h.further hstage (of_decide_eq_false hgoes) rfl hlength⟩
    | settle hstage hread =>
      rw [read?_of_receive hstage hread]
      exact ⟨chunks, _, h.done hstage (Leg.queued_of_receive hread).2 nofun⟩
    | decline hstage hread =>
      rw [read?_of_receive hstage hread]
      exact ⟨chunks, _, h.done hstage (Leg.queued_of_receive hread).2
        (ne_reading_of_over (finish_over _ _ _))⟩
    | unread hstage hread =>
      rw [read?_of_fault hstage hread]
      exact ⟨chunks, _, h.done hstage (Nat.zero_le _) (stage_fail g _)⟩
    | unsent hstage =>
      rw [read?_eq_none (by simp [hstage]), Option.toList_none, List.append_nil]
      exact ⟨chunks, last, h.kept fun hreading => absurd hreading (stage_fail g _)⟩
    | answer hstage =>
      rw [read?_eq_none (by simp [hstage]), Option.toList_none, List.append_nil]
      exact ⟨chunks, last, h.kept fun hreading =>
        absurd hreading (ne_reading_of_over (finish_over _ _ _))⟩
    | leave hstage =>
      rw [read?_eq_none (by simp [hstage]), Option.toList_none, List.append_nil]
      exact ⟨chunks, last, h.kept nofun⟩

theorem listens_run (h : machine.run { leg, reason, subject } acts = some (g, events)) :
    ∃ chunks last, g.Listens (reads { leg, reason, subject } acts) chunks last := by
  refine Machine.run_induction (P := fun u acts _ =>
    ∃ chunks last, u.Listens (reads { leg, reason, subject } acts) chunks last) ?_ ?_ h
  · exact ⟨[], none, rfl, nofun, Nat.zero_le _, nofun, fun _ => ⟨rfl, rfl⟩⟩
  · rintro u next act acts events more hbefore ⟨chunks, last, hlistens⟩ hstep
    rw [reads_concat hbefore]
    exact listens_step hlistens hstep

/-- Chunks that are not empty are no more than their bytes. -/
theorem length_le_flatten {chunks : List Bytes} (h : ∀ chunk ∈ chunks, chunk ≠ []) :
    chunks.length ≤ chunks.flatten.length := by
  induction chunks with
  | nil => exact Nat.le_refl 0
  | cons chunk chunks ih =>
    obtain ⟨hchunk, hchunks⟩ := List.forall_mem_cons.mp h
    have hpos := List.length_pos_iff.mpr hchunk
    have hrest := ih hchunks
    rw [List.flatten_cons, List.length_append, List.length_cons]
    omega

theorem Listens.length_le {reads : List Read} {chunks : List Bytes} {last : Option Read}
    (h : g.Listens reads chunks last) :
    reads.length ≤ chunks.flatten.length + last.toList.length := by
  have hchunks := length_le_flatten h.nonempty
  rw [h.reads, List.length_append, List.length_map]
  omega

/-- The chunks fit together, and the read after them fits by itself. -/
theorem Listens.taken_le {reads : List Read} {chunks : List Bytes} {last : Option Read}
    (h : g.Listens reads chunks last) : (taken reads).length ≤ 2 * Http.headLimit := by
  have hfit := h.fit
  have hlast : (taken last.toList).length ≤ Http.headLimit := by
    cases last with
    | none => exact Nat.zero_le _
    | some read => simpa [taken] using h.lastFits read rfl
  rw [h.reads, taken_append, taken_chunks, List.length_append]
  omega

/-- A read that brings nothing is the last. -/
theorem Listens.last_of_empty {reads before after : List Read} {chunks : List Bytes}
    {last : Option Read} {read : Read} (h : g.Listens reads chunks last)
    (hsplit : reads = before ++ read :: after) (hempty : read.bytes = []) : after = [] := by
  have hreads := h.reads.symm.trans hsplit
  rcases List.append_eq_append_iff.mp hreads with ⟨middle, rfl, hlast⟩ | ⟨middle, hmap, hread⟩
  · -- the read comes after the chunks, and there is at most one such
    have hlength : (middle ++ read :: after).length ≤ 1 := by
      rw [← hlast]
      cases last <;> simp
    simp only [List.length_append, List.length_cons] at hlength
    exact List.eq_nil_of_length_eq_zero (by omega)
  · cases middle with
    | nil =>
      have hlength : (read :: after).length ≤ 1 := by
        rw [hread, List.nil_append]
        cases last <;> simp
      rw [List.length_cons] at hlength
      exact List.eq_nil_of_length_eq_zero (by omega)
    | cons first middle =>
      obtain ⟨rfl, -⟩ := List.cons_eq_cons.mp hread
      have hmem : read ∈ chunks.map .ok := by
        rw [hmap]
        exact List.mem_append_right _ List.mem_cons_self
      obtain ⟨chunk, hchunk, rfl⟩ := List.mem_map.mp hmem
      exact absurd hempty (h.nonempty chunk hchunk)

/-! ## Coming to an end -/

/-- **What makes a client be read no more**: its leg is closed, its stream ends
or breaks, or it has sent more than the limit. -/
def Stops (closed : Bool) (arrivals : List Leg.Arrival) (size : Nat) : Prop :=
  closed = true ∨ (∃ arrival ∈ arrivals, arrival.isData = false) ∨ Http.headLimit < size

/-- **A responder that reads makes a step only by a read**, and waits only for
its client. -/
theorem advance_eq_none_iff (hstage : g.stage = .reading) :
    g.advance = none ↔ g.leg.closed = false ∧ g.leg.arrivals = [] := by
  have hwaiting : g.leg.receive Http.headLimit = .waiting ↔ _ := Leg.receive_eq_waiting_iff
  rw [← hwaiting]
  simp only [advance, hstage]
  split
  · rename_i hwaits
    simp [hwaits]
  · rename_i hread
    simp [hread]
  · rename_i hfault
    simp [hfault]

/-- A responder whose client stops need not wait for it. -/
theorem advances_of_stops (hstage : g.stage = .reading)
    (hfits : g.buffer.length ≤ Http.headLimit)
    (hstops : Stops g.leg.closed g.leg.arrivals (g.buffer ++ g.leg.queued).length) :
    g.advance ≠ none := by
  rw [Ne, advance_eq_none_iff hstage]
  rintro ⟨hopen, hnone⟩
  rcases hstops with hclosed | ⟨arrival, hmem, -⟩ | hsize
  · rw [hopen] at hclosed
    cases hclosed
  · rw [hnone] at hmem
    cases hmem
  · rw [Leg.queued, hnone, List.flatMap_nil, List.append_nil] at hsize
    omega

/-- Reading on does not undo that the client stops. -/
theorem Stops.receive {buffer : Bytes} {leg next : Leg}
    (h : Stops leg.closed leg.arrivals (buffer ++ leg.queued).length)
    (hread : leg.receive Http.headLimit = .data chunk next) (hchunk : chunk ≠ []) :
    Stops next.closed next.arrivals (buffer ++ chunk ++ next.queued).length := by
  rcases h with hclosed | hstop | hsize
  · exact Or.inl ((Leg.closed_of_receive hread).trans hclosed)
  · exact Or.inr (Or.inl (Leg.stop_of_receive hread hchunk hstop))
  · refine Or.inr (Or.inr ?_)
    rwa [(Leg.queued_of_receive hread).1, ← List.append_assoc] at hsize

/-- A responder that goes on reading has read bytes. -/
theorem reading_advance (hstep : g.advance = some result) (hnext : result.1.stage = .reading) :
    ∃ chunk leg, g.leg.receive Http.headLimit = .data chunk leg ∧ chunk ≠ [] ∧
      result.1 = { g with leg, buffer := g.buffer ++ chunk } ∧
      (g.buffer ++ chunk).length ≤ Http.headLimit := by
  cases passage_of_advance hstep with
  | listen _ hread hmore =>
    obtain ⟨hgoes, hlength⟩ := Http.examine_incomplete hmore
    exact ⟨_, _, hread, of_decide_eq_false hgoes, rfl, hlength⟩
  | settle | leave => cases hnext
  | decline | answer => exact absurd hnext (ne_reading_of_over (finish_over _ _ _))
  | unread | unsent => exact absurd hnext (stage_fail g _)

/-- **A responder whose client stops is done with reading** after so many reads
as there is room for bytes, and one more. -/
theorem leaves_reading (hfits : g.buffer.length ≤ Http.headLimit)
    (hstops : g.stage = .reading →
      Stops g.leg.closed g.leg.arrivals (g.buffer ++ g.leg.queued).length) :
    ∃ n next more, machine.run g (List.replicate n .advance) = some (next, more) ∧
      next.stage ≠ .reading ∧ (g.stage = .reading → n + g.buffer.length ≤ Http.headLimit + 1) := by
  induction hroom : Http.headLimit - g.buffer.length using Nat.strongRecOn generalizing g with
  | ind room ih =>
  by_cases hstage : g.stage = .reading
  · obtain ⟨⟨next, first⟩, hstep⟩ :=
      Option.ne_none_iff_exists'.mp (advances_of_stops hstage hfits (hstops hstage))
    by_cases hnext : next.stage = .reading
    · obtain ⟨chunk, leg, hread, hchunk, rfl, hlength⟩ := reading_advance hstep hnext
      have hpos := List.length_pos_iff.mpr hchunk
      have hless : Http.headLimit - (g.buffer ++ chunk).length < room := by
        rw [List.length_append] at hlength ⊢
        omega
      obtain ⟨n, last, rest, hrun, hlast, hn⟩ := ih _ hless
        (g := { g with leg, buffer := g.buffer ++ chunk }) hlength
        (fun _ => (hstops hstage).receive hread hchunk) rfl
      refine ⟨n + 1, last, first ++ rest, ?_, hlast, fun _ => ?_⟩
      · rw [List.replicate_succ]
        exact Machine.run_cons_iff.mpr ⟨_, _, _, hstep, hrun, rfl⟩
      · have hbound := hn hstage
        rw [List.length_append] at hbound
        omega
    · refine ⟨1, next, first, Machine.run_singleton_iff.mpr hstep, hnext, fun _ => ?_⟩
      omega
  · exact ⟨0, g, [], rfl, hstage, fun h => absurd h hstage⟩

/-- What ends the stream of a client is not read away: a responder that still
reads had it before it, and has it now. -/
theorem stop_step (hstep : g.step act = some result) (hnext : result.1.stage = .reading) :
    g.stage = .reading ∧ ∀ {arrivals : List Leg.Arrival},
      ((∃ arrival ∈ arrivals, arrival.isData = false) →
        ∃ arrival ∈ g.leg.arrivals, arrival.isData = false) →
      (∃ arrival ∈ arrivals ++ act.arrivals, arrival.isData = false) →
        ∃ arrival ∈ result.1.leg.arrivals, arrival.isData = false := by
  cases act with
  | peer own =>
    obtain rfl : ({ g with leg := (g.leg.apply own).1 }, (g.leg.apply own).2.map .leg) = result :=
      Option.some.inj hstep
    refine ⟨hnext, fun hbefore ⟨arrival, hmem, harrival⟩ => ?_⟩
    rw [Leg.arrivals_apply]
    rcases List.mem_append.mp hmem with hmem | hmem
    · obtain ⟨stop, hstop, hdata⟩ := hbefore ⟨arrival, hmem, harrival⟩
      exact ⟨stop, List.mem_append_left _ hstop, hdata⟩
    · exact ⟨arrival, List.mem_append_right _ hmem, harrival⟩
  | cancel =>
    cases passage_of_step (fun _ => by simp) hstep with
    | stop | interrupt => cases hnext
  | advance =>
    obtain ⟨chunk, leg, hread, hchunk, heq, -⟩ := reading_advance hstep hnext
    rw [heq] at hnext ⊢
    refine ⟨hnext, fun hbefore hstop => Leg.stop_of_receive hread hchunk (hbefore ?_)⟩
    rwa [Act.arrivals, List.append_nil] at hstop

theorem stop_run (h : machine.run { leg, reason, subject } acts = some (g, events))
    (hstage : g.stage = .reading)
    (hstop : ∃ arrival ∈ arrivedBy leg acts, arrival.isData = false) :
    ∃ arrival ∈ g.leg.arrivals, arrival.isData = false := by
  refine Machine.run_induction (P := fun u acts _ => u.stage = .reading →
    (∃ arrival ∈ arrivedBy leg acts, arrival.isData = false) →
      ∃ arrival ∈ u.leg.arrivals, arrival.isData = false) ?_ ?_ h hstage hstop
  · intro _ hstop
    rwa [arrivedBy, List.flatMap_nil, List.append_nil] at hstop
  · intro u next act acts events more _ hu hstep hnext hstop
    obtain ⟨hbefore, hkept⟩ := stop_step hstep hnext
    rw [arrivedBy_concat] at hstop
    exact hkept (hu hbefore) hstop

/-- **How a responder takes what its client sends.** -/
structure Frugal (leg : Leg) (acts : List Act) (g : Gateway) (reads : List Read) : Prop where
  /-- What is not taken still waits on the leg. -/
  takes : sentBy leg acts = taken reads ++ g.leg.queued
  /-- It takes at most twice as many bytes as a head may have. -/
  bounded : (taken reads).length ≤ 2 * Http.headLimit
  /-- It reads finitely often, whatever the client does. -/
  few : reads.length ≤ Http.headLimit + 1
  /-- It does not read again when a read has brought nothing: at the end of the
  stream, or by a fault. -/
  last : ∀ before read after, reads = before ++ read :: after → read.bytes = [] → after = []
  /-- While it reads, it waits for its client only. -/
  waits : g.stage = .reading → (g.advance = none ↔ g.leg.closed = false ∧ g.leg.arrivals = [])
  /-- It does not go on reading without having taken something. -/
  moves : g.stage = .reading → ∀ next more, g.advance = some (next, more) →
    ∃ read, g.read? .advance = some read ∧ g.leg.queued = read.bytes ++ next.leg.queued ∧
      (next.stage = .reading → read.bytes ≠ [])
  /-- It is done with reading, by itself and after finitely many reads in all,
  when the client stops. -/
  ends : Stops g.leg.closed (arrivedBy leg acts) (sentBy leg acts).length →
    ∃ n next more, machine.run g (List.replicate n .advance) = some (next, more) ∧
      next.stage ≠ .reading ∧ n + reads.length ≤ Http.headLimit + 1

/-- **Reading is bounded, and stops.** Let the client send what it may, in any
pieces, and let anything happen to its leg: the responder takes no more than
twice the limit, and never reads on after a read that brought nothing. It has
no other step to make while it reads, so it cannot go round without reading;
and when the client has ended its stream, broken it or sent more than the
limit, it has a verdict or a fault after finitely many reads. -/
theorem listening_bounded (h : machine.run { leg, reason, subject } acts = some (g, events)) :
    Frugal leg acts g (reads { leg, reason, subject } acts) := by
  obtain ⟨chunks, last, hlistens⟩ := listens_run h
  have hfew : (reads { leg, reason, subject } acts).length ≤ Http.headLimit + 1 := by
    have hfit := hlistens.fit
    have hlength := hlistens.length_le
    have hlast : last.toList.length ≤ 1 := by cases last <;> simp
    omega
  refine ⟨sent_run h, hlistens.taken_le, hfew, fun _ _ _ => hlistens.last_of_empty,
    advance_eq_none_iff, fun hstage next more hstep => ?_, fun hstops => ?_⟩
  · obtain ⟨read, hread⟩ := read?_of_advance hstage hstep
    have hqueued := queued_step (show g.step .advance = some (next, more) from hstep)
    rw [hread] at hqueued
    refine ⟨read, hread, by simpa [taken, Act.sent] using hqueued, fun hnext => ?_⟩
    obtain ⟨chunk, leg, hreceive, hchunk, -⟩ := reading_advance hstep hnext
    obtain rfl := Option.some.inj (hread.symm.trans (read?_of_receive hstage hreceive))
    exact hchunk
  · by_cases hstage : g.stage = .reading
    · obtain ⟨rfl, hbuffer⟩ := hlistens.still hstage
      have hfits : g.buffer.length ≤ Http.headLimit := hbuffer ▸ hlistens.fit
      have hsent : sentBy leg acts = g.buffer ++ g.leg.queued := by
        rw [sent_run h, hlistens.reads, Option.toList_none, List.append_nil, taken_chunks, hbuffer]
      have hknows : Stops g.leg.closed g.leg.arrivals (g.buffer ++ g.leg.queued).length :=
        hsent ▸ hstops.imp_right (Or.imp_left (stop_run h hstage))
      obtain ⟨n, next, more, hrun, hnext, hn⟩ :=
        leaves_reading hfits fun _ => hknows
      refine ⟨n, next, more, hrun, hnext, ?_⟩
      have hlength := hlistens.length_le
      have hbound := hn hstage
      rw [hbuffer, Option.toList_none, List.length_nil] at hlength
      omega
    · exact ⟨0, g, [], rfl, hstage, by omega⟩

/-- A client that sends a piece of a head, and then ends its stream. -/
def breaksOff : List Act :=
  [.peer (.deliver (Http.asciiBytes "GET / HT")), .advance, .peer .finish]

/-- One read has brought the piece, and what is left ends the reading. -/
theorem breaksOff_bounded :
    ∃ g events, machine.run { leg := {}, reason := "gone" } breaksOff = some (g, events) ∧
      Frugal {} breaksOff g (reads { leg := {}, reason := "gone" } breaksOff) ∧
      taken (reads { leg := {}, reason := "gone" } breaksOff) = Http.asciiBytes "GET / HT" ∧
      ∃ n next more, machine.run g (List.replicate n .advance) = some (next, more) ∧
        next.stage ≠ .reading := by
  obtain ⟨⟨g, events⟩, h⟩ := Option.isSome_iff_exists.mp
    (show (machine.run { leg := {}, reason := "gone" } breaksOff).isSome = true by decide +kernel)
  have hfrugal := listening_bounded h
  have hended : Stops g.leg.closed (arrivedBy {} breaksOff) (sentBy {} breaksOff).length :=
    Or.inr (Or.inl ⟨.ended, List.mem_cons_of_mem _ List.mem_cons_self, rfl⟩)
  obtain ⟨n, next, more, hrun, hnext, -⟩ := hfrugal.ends hended
  exact ⟨g, events, h, hfrugal, by decide +kernel, n, next, more, hrun, hnext⟩

end Gateway

end TunnelRelay
