import TunnelRelay.Gateway
import TunnelRelay.Proofs.Runs
import TunnelRelay.Proofs.Streams
/-!
# The responder and its client

The responder takes one of a few passages at each step (`Gateway.Passage`): it
reads on, settles on an answer, gives up, or writes the answer; then it closes
its leg, and ends. So it writes at most once, and what it writes is the response
to a head with which the bytes of its client begin (`Answer`).

The second half is about the client. `Hears` says that the responder, reading
what has arrived chunk by chunk, comes to a request. A responder that hears one
answers it, once writes are not stalled (`answers_of_hears`).
-/

namespace TunnelRelay

namespace Http

variable {current head buffer more : Bytes} {lines : List Bytes} {request : Request} {ended : Bool}

/-! ## Heads -/

theorem linesFrom_append (h : linesFrom current buffer = some lines) :
    linesFrom current (buffer ++ more) = some lines := by
  induction buffer generalizing current lines with
  | nil => cases h
  | cons b rest ih =>
    rw [List.cons_append]
    by_cases hb : b = lf
    · cases hline : stripCr current.reverse with
      | nil =>
        simp only [linesFrom, hb, if_true, hline] at h ⊢
        exact h
      | cons first line =>
        simp only [linesFrom, hb, if_true, hline] at h ⊢
        obtain ⟨tail, htail, rfl⟩ := Option.map_eq_some_iff.mp h
        rw [ih htail, Option.map_some]
    · simp only [linesFrom, hb, if_false] at h ⊢
      exact ih h

/-- A complete head does not depend on what follows it. -/
theorem headLines?_append (h : headLines? buffer = some lines) :
    headLines? (buffer ++ more) = some lines :=
  linesFrom_append h

theorem examine_eq_request_iff :
    examine buffer ended = .request request ↔
      ∃ lines, headLines? buffer = some lines ∧ Request.ofLines? lines = some request := by
  unfold examine
  cases headLines? buffer with
  | none =>
    simp only [reduceCtorEq, false_and, exists_false, iff_false]
    split <;> split <;> exact nofun
  | some lines =>
    simp only [Option.some.injEq, exists_eq_left']
    cases Request.ofLines? lines with
    | none => simp
    | some other => simp

/-- A request that has been found is found in all that begins like it. -/
theorem examine_of_prefix (h : examine head ended = .request request) (hhead : head <+: buffer)
    (later : Bool) : examine buffer later = .request request := by
  obtain ⟨lines, hlines, hrequest⟩ := examine_eq_request_iff.mp h
  obtain ⟨more, rfl⟩ := hhead
  exact examine_eq_request_iff.mpr ⟨lines, headLines?_append hlines, hrequest⟩

theorem prefix_of_stripCr (line : Bytes) : stripCr line <+: line := by
  unfold stripCr
  split
  · exact List.dropLast_prefix line
  · exact List.prefix_rfl

theorem prefix_of_linesFrom {line : Bytes} (h : linesFrom current buffer = some (line :: lines)) :
    line <+: current.reverse ++ buffer := by
  induction buffer generalizing current with
  | nil => cases h
  | cons b rest ih =>
    by_cases hb : b = lf
    · cases hline : stripCr current.reverse with
      | nil =>
        simp only [linesFrom, hb, if_true, hline] at h
        cases h
      | cons first tail =>
        simp only [linesFrom, hb, if_true, hline] at h
        obtain ⟨_, _, heq⟩ := Option.map_eq_some_iff.mp h
        rw [← (List.cons.inj heq).1, ← hline]
        exact (prefix_of_stripCr _).trans (List.prefix_append _ _)
    · simp only [linesFrom, hb, if_false] at h
      simpa using ih h

/-- A token has no controls and no spaces. -/
theorem not_lt_of_isTokenByte {b : UInt8} (h : isTokenByte b = true) : ¬ b < 0x21 := by
  have hall : ∀ n : Fin 256, isTokenByte (.ofFin n) = true → ¬ UInt8.ofFin n < 0x21 := by
    decide +kernel
  exact hall b.toFin h

/-- The first byte of a request stands in the name of its method. -/
theorem first_of_request (h : examine head ended = .request request) :
    ∃ first rest, head = first :: rest ∧ ¬ first < 0x21 := by
  obtain ⟨lines, hlines, hrequest⟩ := examine_eq_request_iff.mp h
  cases lines with
  | nil => cases hrequest
  | cons line lines =>
    cases hline : requestLine? line with
    | none => simp [Request.ofLines?, hline] at hrequest
    | some parts =>
      cases line with
      | nil => cases hline
      | cons first line =>
        obtain ⟨rest, hhead⟩ := prefix_of_linesFrom hlines
        -- if the first byte is no token, the name of the method is empty
        refine ⟨first, line ++ rest, hhead.symm, fun hlow => ?_⟩
        have htoken : isTokenByte first = false := by
          by_contra h
          exact not_lt_of_isTokenByte (by simpa using h) hlow
        simp only [requestLine?, htoken, List.takeWhile_cons, List.dropWhile_cons] at hline
        split at hline
        · simp only [Bool.false_eq_true, if_false, ne_eq, not_true_eq_false, decide_false,
            Bool.false_and] at hline
          split at hline <;> cases hline
        · cases hline

end Http

namespace Gateway

variable {g next : Gateway} {act : Act} {acts : List Act} {events : List Event}
variable {result : Gateway × List Event} {sent buffer more : Bytes} {request : Http.Request}

/-- Whether the leg has been closed, so that nothing more is read or written. -/
def Stage.isOver : Stage → Bool
  | .reading | .writing _ => false
  | .closing _ | .ended _ => true

/-- Whether the responder has ended. -/
def Stage.isEnded : Stage → Bool
  | .ended _ => true
  | .reading | .writing _ | .closing _ => false

theorem Stage.isEnded_iff {stage : Stage} :
    stage.isEnded = true ↔ ∃ ending, stage = .ended ending := by
  cases stage <;> simp [isEnded]

/-- Whether the responder ends cancelled, as far as that is settled. -/
def Stage.isCancelled : Stage → Bool
  | .reading | .writing _ => false
  | .closing ending | .ended ending => ending.isCancelled

/-! ## Steps -/

/-- **What a step of a responder can do**, besides what happens to its leg from
outside. -/
inductive Passage (g : Gateway) : Act → Gateway × List Event → Prop
  /-- More is read, and the head is not complete. -/
  | listen {chunk : Bytes} {leg : Leg} : g.stage = .reading →
      g.leg.receive Http.headLimit = .data chunk leg →
      Http.examine (g.buffer ++ chunk) (chunk = []) = .incomplete →
      Passage g .advance ({ g with leg, buffer := g.buffer ++ chunk }, [])
  /-- The head of a request is complete. -/
  | settle {chunk : Bytes} {leg : Leg} {request : Http.Request} : g.stage = .reading →
      g.leg.receive Http.headLimit = .data chunk leg →
      Http.examine (g.buffer ++ chunk) (chunk = []) = .request request →
      Passage g .advance
        ({ g with
            leg, buffer := g.buffer ++ chunk
            stage := .writing (response (body g.reason) request) },
          [g.note "Serving bad gateway error"])
  /-- The client is gone, or what it sends is no request. -/
  | decline {chunk : Bytes} {leg : Leg} {message : String} : g.stage = .reading →
      g.leg.receive Http.headLimit = .data chunk leg →
      (∀ request, Http.examine (g.buffer ++ chunk) (chunk = []) ≠ .request request) →
      Http.examine (g.buffer ++ chunk) (chunk = []) ≠ .incomplete →
      Passage g .advance
        ({ g with leg, buffer := g.buffer ++ chunk }.finish (.returned false) [g.note message])
  /-- Reading fails. -/
  | unread {fault : Fault} : g.stage = .reading →
      g.leg.receive Http.headLimit = .fault fault → Passage g .advance (g.fail fault)
  /-- Writing fails. -/
  | unsent {data : Bytes} {fault : Fault} : g.stage = .writing data →
      g.leg.send = .fault fault → Passage g .advance (g.fail fault)
  /-- The answer is written. -/
  | answer {data : Bytes} : g.stage = .writing data → g.leg.send = .sent →
      Passage g .advance (g.finish (.returned true) [.leg (.wrote data)])
  /-- The close of the leg is over. -/
  | leave {ending : Ending Bool} : g.stage = .closing ending →
      Passage g .advance ({ g with stage := .ended ending }, [])
  /-- The responder is cancelled where it reads or writes. -/
  | stop : g.stage.isOver = false → Passage g .cancel g.stop
  /-- The responder is cancelled where it closes its leg. -/
  | interrupt {ending : Ending Bool} : g.stage = .closing ending →
      Passage g .cancel ({ g with stage := .ended .cancelled }, [])

theorem passage_of_advance (hstep : g.advance = some result) :
    Passage g .advance result := by
  unfold advance at hstep
  split at hstep
  · rename_i hstage
    split at hstep
    · cases hstep
    · rename_i chunk leg hread
      obtain rfl := Option.some.inj hstep
      unfold consider
      split
      · rename_i hverdict
        exact .listen hstage hread hverdict
      · rename_i hverdict
        exact .decline hstage hread (by rw [hverdict]; exact nofun) (by rw [hverdict]; exact nofun)
      · rename_i hverdict
        exact .decline hstage hread (by rw [hverdict]; exact nofun) (by rw [hverdict]; exact nofun)
      · rename_i request hverdict
        exact .settle hstage hread hverdict
    · rename_i fault hread
      obtain rfl := Option.some.inj hstep
      exact .unread hstage hread
  · rename_i data hstage
    split at hstep
    · cases hstep
    · rename_i hsend
      obtain rfl := Option.some.inj hstep
      exact .answer hstage hsend
    · rename_i fault hsend
      obtain rfl := Option.some.inj hstep
      exact .unsent hstage hsend
  · rename_i ending hstage
    obtain rfl := Option.some.inj hstep
    exact .leave hstage
  · cases hstep

/-- Every step of a responder is one of its passages. -/
theorem passage_of_step (hpeer : ∀ act', act ≠ .peer act')
    (hstep : g.step act = some result) : Passage g act result := by
  cases act with
  | peer act => exact absurd rfl (hpeer act)
  | advance => exact passage_of_advance hstep
  | cancel =>
    simp only [step] at hstep
    split at hstep
    · rename_i hstage
      obtain rfl := Option.some.inj hstep
      exact .stop (by rw [hstage]; rfl)
    · rename_i hstage
      obtain rfl := Option.some.inj hstep
      exact .stop (by rw [hstage]; rfl)
    · rename_i ending hstage
      obtain rfl := Option.some.inj hstep
      exact .interrupt hstage
    · cases hstep

/-! ## What is written -/

/-- The bytes that an event shows as written. -/
def Event.written : Event → Bytes
  | .leg event => event.written
  | .log _ => []

/-- The bytes written by a responder. -/
def written (events : List Event) : Bytes := events.flatMap Event.written

theorem written_append (events more : List Event) :
    written (events ++ more) = written events ++ written more :=
  List.flatMap_append

@[simp] theorem written_wrote (data : Bytes) : written [.leg (.wrote data)] = data :=
  List.append_nil data

/-- The bytes are the response to a head with which the client has begun. -/
def Answer (reason : String) (sent data : Bytes) : Prop :=
  ∃ head request, head <+: sent ∧ Http.examine head false = .request request ∧
    data = response (body reason) request

theorem Answer.mono {reason : String} {data : Bytes} (h : Answer reason sent data)
    (hsent : sent <+: more) : Answer reason more data := by
  obtain ⟨head, request, hhead, hrequest, rfl⟩ := h
  exact ⟨head, request, hhead.trans hsent, hrequest, rfl⟩

/-- Closing the leg leads to the ending, unless the close fails. -/
theorem stage_finish (g : Gateway) (ending : Ending Bool) (events : List Event) :
    (g.leg.closeFault? = none ∧ (g.finish ending events).1.stage = .closing ending) ∨
      ∃ fault, g.leg.closeFault? = some fault ∧
        (g.finish ending events).1.stage = .ended (.raised fault) := by
  cases hfault : g.leg.closeFault? with
  | none => exact Or.inl ⟨rfl, by rw [finish, hfault]; rfl⟩
  | some fault => exact Or.inr ⟨fault, rfl, by rw [finish, hfault]; rfl⟩

theorem finish_over (g : Gateway) (ending : Ending Bool) (events : List Event) :
    (g.finish ending events).1.stage.isOver = true := by
  rcases g.stage_finish ending events with ⟨-, hstage⟩ | ⟨fault, -, hstage⟩ <;>
  · rw [hstage]
    rfl

theorem isCancelled_finish {ending : Ending Bool} (h : ending.isCancelled = false)
    (events : List Event) : (g.finish ending events).1.stage.isCancelled = false := by
  rcases g.stage_finish ending events with ⟨-, hstage⟩ | ⟨fault, -, hstage⟩
  · rw [hstage]
    exact h
  · rw [hstage]
    rfl

@[simp] theorem written_finish (g : Gateway) (ending : Ending Bool) (events : List Event) :
    written (g.finish ending events).2 = written events := by
  rw [finish, written, List.flatMap_append, List.flatMap_map, written,
    List.append_right_eq_self, List.flatMap_eq_nil_iff]
  exact fun e he => Leg.written_closeEvents he

theorem written_stop (g : Gateway) : written g.stop.2 = [] := by
  rw [stop, written, List.flatMap_map, List.flatMap_eq_nil_iff]
  exact fun e he => Leg.written_closeEvents he

theorem fail_spec (g : Gateway) (fault : Fault) : ∃ ending message,
    g.fail fault = g.finish ending message ∧ written message = [] ∧
      ending.isCancelled = false := by
  unfold fail
  split
  · exact ⟨_, _, rfl, rfl, rfl⟩
  · exact ⟨_, _, rfl, rfl, rfl⟩

/-- No step changes how the leg closes. -/
theorem closesLike_of_passage (hp : Passage g act result) : result.1.leg.ClosesLike g.leg := by
  cases hp with
  | listen _ hread | settle _ hread => exact Leg.closesLike_receive hread
  | decline _ hread =>
    exact (Leg.closesLike_closeNow _).trans (Leg.closesLike_receive hread)
  | unread | unsent =>
    rename_i fault _ _
    obtain ⟨ending, message, heq, -⟩ := fail_spec g fault
    rw [heq]
    exact Leg.closesLike_closeNow _
  | answer | stop => exact Leg.closesLike_closeNow _
  | leave | interrupt => exact .refl _

/-- **A responder ends as cancelled only if it is cancelled.** -/
theorem isCancelled_of_passage (hp : Passage g act result) (hact : act ≠ .cancel)
    (h : g.stage.isCancelled = false) : result.1.stage.isCancelled = false := by
  cases hp with
  | listen => exact h
  | settle => rfl
  | decline | answer => exact isCancelled_finish rfl _
  | unread | unsent =>
    rename_i fault _ _
    obtain ⟨ending, message, heq, -, hending⟩ := fail_spec g fault
    rw [heq]
    exact isCancelled_finish hending _
  | leave hstage =>
    rw [hstage] at h
    exact h
  | stop | interrupt => exact absurd rfl hact

/-- The reason for which the destination was not reached stays the same. -/
theorem reason_of_passage (hp : Passage g act result) : result.1.reason = g.reason := by
  cases hp with
  | listen | settle | decline | answer | leave | stop | interrupt => rfl
  | unread | unsent =>
    rename_i fault _ _
    obtain ⟨ending, message, heq, -⟩ := fail_spec g fault
    rw [heq]
    rfl

/-- What a responder says is about its subject. -/
theorem records_of_passage (hp : Passage g act result) :
    result.1.subject = g.subject ∧
      ∀ record, .log record ∈ result.2 → record.semantics = g.subject.semantics := by
  have hfinish {other : Gateway} {ending : Ending Bool} {events : List Event}
      (hevents : ∀ record, .log record ∈ events → record.semantics = g.subject.semantics)
      (record : Log.Record) (h : .log record ∈ (other.finish ending events).2) :
      record.semantics = g.subject.semantics := by
    rcases List.mem_append.mp h with hsaid | hclosed
    · exact hevents record hsaid
    · obtain ⟨event, -, heq⟩ := List.mem_map.mp hclosed
      cases heq
  have hnote (message : String) (record : Log.Record)
      (h : .log record ∈ [g.note message]) : record.semantics = g.subject.semantics := by
    rw [Event.log.inj (List.mem_singleton.mp h)]
    rfl
  cases hp with
  | listen => exact ⟨rfl, nofun⟩
  | settle => exact ⟨rfl, hnote _⟩
  | decline => exact ⟨rfl, hfinish (hnote _)⟩
  | unread | unsent =>
    unfold fail
    split
    · exact ⟨rfl, hfinish (hnote _)⟩
    · exact ⟨rfl, hfinish nofun⟩
  | answer => exact ⟨rfl, hfinish fun record h => by simp at h⟩
  | stop =>
    refine ⟨rfl, fun record h => ?_⟩
    obtain ⟨event, -, heq⟩ := List.mem_map.mp h
    cases heq
  | leave | interrupt => exact ⟨rfl, nofun⟩

/-- A responder does not close its leg unseen. -/
theorem closed_of_passage (hp : Passage g act result) (hclosed : result.1.leg.closed = true) :
    g.leg.closed = true ∨ .leg .closed ∈ result.2 := by
  have hclose {other : Gateway} (events : List Event)
      (h : other.leg.closeNow.closed = true) :
      other.leg.closed = true ∨ .leg .closed ∈ events ++ other.leg.closeEvents.map .leg := by
    rcases Leg.closed_of_closeNow h with hbefore | hevent
    · exact Or.inl hbefore
    · exact Or.inr (List.mem_append_right _ (List.mem_map_of_mem hevent))
  cases hp with
  | listen _ hread | settle _ hread =>
    rw [Leg.closed_of_receive hread] at hclosed
    exact Or.inl hclosed
  | decline _ hread =>
    rcases hclose _ hclosed with hbefore | hevent
    · rw [Leg.closed_of_receive hread] at hbefore
      exact Or.inl hbefore
    · exact Or.inr hevent
  | unread | unsent =>
    rename_i fault _ _
    obtain ⟨ending, message, heq, -⟩ := fail_spec g fault
    rw [heq] at hclosed ⊢
    exact hclose _ hclosed
  | answer => exact hclose _ hclosed
  | stop => exact hclose [] hclosed
  | leave | interrupt => exact Or.inl hclosed

/-- What the responder has read of what its client has sent, and what it has
made of it. -/
def Follows (g : Gateway) (sent : Bytes) : Prop :=
  match g.stage with
  | .reading => sent = g.buffer ++ g.leg.queued
  | .writing data => Answer g.reason sent data
  | .closing _ | .ended _ => True

/-- The client sends more. -/
theorem Follows.arrive (h : Follows g sent) {leg : Leg}
    (hqueued : leg.queued = g.leg.queued ++ more) :
    Follows { g with leg } (sent ++ more) := by
  unfold Follows at h ⊢
  cases hstage : g.stage with
  | reading =>
    simp only [hstage] at h ⊢
    rw [h, hqueued, List.append_assoc]
  | writing data =>
    simp only [hstage] at h ⊢
    exact h.mono (List.prefix_append sent more)
  | closing ending | ended ending => simp only

theorem follows_of_over (hover : g.stage.isOver = true) (sent : Bytes) : Follows g sent := by
  unfold Follows
  cases hstage : g.stage with
  | closing ending | ended ending => trivial
  | reading | writing data =>
    rw [hstage] at hover
    cases hover

/-- **A responder writes nothing, or an answer as the last thing it does** before it
closes its leg. -/
theorem follows_step (h : Follows g sent) (hp : Passage g act result) :
    result.1.stage.isOver = false ∧ Follows result.1 sent ∧ written result.2 = [] ∨
      result.1.stage.isOver = true ∧
        (written result.2 = [] ∨ Answer g.reason sent (written result.2)) := by
  unfold Follows at h
  cases hp with
  | listen hstage hread hverdict =>
    simp only [hstage] at h
    refine Or.inl ⟨by rw [hstage]; rfl, ?_, rfl⟩
    simp only [Follows, hstage]
    rw [h, (Leg.queued_of_receive hread).1, List.append_assoc]
  | settle hstage hread hverdict =>
    simp only [hstage] at h
    refine Or.inl ⟨rfl, ⟨_, _, ?_, Http.examine_of_prefix hverdict List.prefix_rfl false, rfl⟩, rfl⟩
    rw [h, (Leg.queued_of_receive hread).1, ← List.append_assoc]
    exact List.prefix_append _ _
  | answer hstage hsend =>
    simp only [hstage] at h
    refine Or.inr ⟨finish_over _ _ _, Or.inr ?_⟩
    rwa [written_finish, written_wrote]
  | decline => exact Or.inr ⟨finish_over _ _ _, Or.inl (written_finish _ _ _)⟩
  | stop => exact Or.inr ⟨rfl, Or.inl (written_stop g)⟩
  | leave | interrupt => exact Or.inr ⟨rfl, Or.inl rfl⟩
  | unread | unsent =>
    rename_i fault _ _
    obtain ⟨ending, message, heq, hquiet, -⟩ := fail_spec g fault
    rw [heq]
    exact Or.inr ⟨finish_over _ _ _, Or.inl ((written_finish _ _ _).trans hquiet)⟩

/-- A responder that has closed its leg does no more than to end. -/
theorem over_of_passage (hp : Passage g act result) (hover : g.stage.isOver = true) :
    result.1.stage.isOver = true ∧ written result.2 = [] := by
  cases hp with
  | leave | interrupt => exact ⟨rfl, rfl⟩
  | listen hstage | settle hstage | decline hstage | unread hstage | unsent hstage
  | answer hstage =>
    rw [hstage] at hover
    cases hover
  | stop hopen =>
    rw [hopen] at hover
    cases hover

/-- **What the client is told.** The responder follows what its client sends; as long
as its leg is open it has written nothing, and after that an answer at most. -/
structure Responds (g : Gateway) (sent data : Bytes) : Prop where
  follows : Follows g sent
  answer : data = [] ∨ g.stage.isOver = true ∧ Answer g.reason sent data

namespace Responds

variable {data : Bytes}

/-- The client sends more. -/
theorem arrive (h : Responds g sent data) {leg : Leg}
    (hqueued : leg.queued = g.leg.queued ++ more) :
    Responds { g with leg } (sent ++ more) data :=
  ⟨h.follows.arrive hqueued, h.answer.imp_right fun ⟨hover, hanswer⟩ =>
    ⟨hover, hanswer.mono (List.prefix_append _ _)⟩⟩

/-- **Every step of a responder keeps to that.** -/
theorem step (h : Responds g sent data) (hp : Passage g act result) :
    Responds result.1 sent (data ++ written result.2) := by
  have hreason := reason_of_passage hp
  rcases h.answer with rfl | ⟨hover, hanswer⟩
  · rw [List.nil_append]
    rcases follows_step h.follows hp with ⟨-, hnext, hquiet⟩ | ⟨hover, hquiet | hanswer⟩
    · exact ⟨hnext, Or.inl hquiet⟩
    · exact ⟨follows_of_over hover sent, Or.inl hquiet⟩
    · exact ⟨follows_of_over hover sent, Or.inr ⟨hover, hreason ▸ hanswer⟩⟩
  · obtain ⟨hover, hquiet⟩ := over_of_passage hp hover
    rw [hquiet, List.append_nil]
    exact ⟨follows_of_over hover sent, Or.inr ⟨hover, hreason ▸ hanswer⟩⟩

end Responds

/-! ## A client that is heard -/

/-- **The responder hears a request**: reading on from what it has, chunk by
chunk of what arrives, it comes to the end of a well-formed head, and until
then to nothing that makes it give up. -/
inductive Hears : Bytes → List Leg.Arrival → Http.Request → Prop
  | now {buffer whole : Bytes} {rest : List Leg.Arrival} {request : Http.Request} :
      Http.examine (buffer ++ whole.take Http.headLimit) false = .request request →
      Hears buffer (.data whole :: rest) request
  | later {buffer whole : Bytes} {rest : List Leg.Arrival} {request : Http.Request} :
      whole ≠ [] →
      Http.examine (buffer ++ whole.take Http.headLimit) false = .incomplete →
      Hears (buffer ++ whole.take Http.headLimit) (Leg.unread Http.headLimit whole rest) request →
      Hears buffer (.data whole :: rest) request

theorem take_headLimit_ne_nil {whole : Bytes} (h : whole ≠ []) :
    whole.take Http.headLimit ≠ [] := by
  rw [Ne, List.take_eq_nil_iff]
  exact fun hnil => hnil.elim (by decide) h

/-- What is left of some chunks when the first has been read from. -/
theorem unread_chunks (max : Nat) (whole : Bytes) (chunks : List Bytes)
    (rest : List Leg.Arrival) (hchunks : ∀ chunk ∈ chunks, chunk ≠ []) :
    ∃ left : List Bytes, (∀ chunk ∈ left, chunk ≠ []) ∧
      left.flatten = whole.drop max ++ chunks.flatten ∧
      Leg.unread max whole (chunks.map .data ++ rest) = left.map .data ++ rest := by
  unfold Leg.unread
  split
  · rename_i hdone
    exact ⟨chunks, hchunks, by rw [hdone, List.nil_append], rfl⟩
  · rename_i hleft
    exact ⟨whole.drop max :: chunks, List.forall_mem_cons.mpr ⟨hleft, hchunks⟩, rfl, rfl⟩

/-- What is still to come of an answer to the request, if more arrives after
what waits on the leg. -/
def Expects (g : Gateway) (more : List Leg.Arrival) (request : Http.Request) : Prop :=
  match g.stage with
  | .reading => Hears g.buffer (g.leg.arrivals ++ more) request
  | .writing data => data = response (body g.reason) request
  | .closing _ | .ended _ => False

/-- More arrives, as was expected. -/
theorem Expects.arrive {leg : Leg} {arrived more : List Leg.Arrival}
    (h : g.Expects (arrived ++ more) request) (hleg : leg.arrivals = g.leg.arrivals ++ arrived) :
    Expects { g with leg } more request := by
  unfold Expects at h ⊢
  cases hstage : g.stage with
  | reading =>
    simp only [hstage] at h ⊢
    rwa [hleg, List.append_assoc]
  | writing data =>
    simp only [hstage] at h ⊢
    exact h
  | closing ending | ended ending => simp only [hstage] at h

/-- A chunk that is read from what is heard is the beginning of its first
chunk. -/
theorem Hears.of_receive {leg next : Leg} {chunk : Bytes} {more : List Leg.Arrival}
    (h : Hears buffer (leg.arrivals ++ more) request)
    (hread : leg.receive Http.headLimit = .data chunk next) :
    Http.examine (buffer ++ chunk) false = .request request ∨
      chunk ≠ [] ∧ Http.examine (buffer ++ chunk) false = .incomplete ∧
        Hears (buffer ++ chunk) (next.arrivals ++ more) request := by
  obtain ⟨-, ⟨whole, rest, harrivals, rfl, rfl⟩ | ⟨⟨rest, harrivals⟩, -, -⟩⟩ :=
    Leg.receive_data_cases hread
  · rw [harrivals, List.cons_append] at h
    cases h with
    | now hrequest => exact Or.inl hrequest
    | later hwhole hmore hrest =>
      rw [← Leg.unread_append] at hrest
      exact Or.inr ⟨take_headLimit_ne_nil hwhole, hmore, hrest⟩
  · rw [harrivals] at h
    cases h

/-- **An expected answer is not lost**: each step of the responder leaves it
expected, or writes it and closes the leg. -/
theorem expects_step {more : List Leg.Arrival} (h : g.Expects more request)
    (hleg : g.leg.Writable) (hp : Passage g .advance result) :
    result.1.Expects more request ∧ result.1.leg.Writable ∧ written result.2 = [] ∨
      result.1.stage.isOver = true ∧
        written result.2 = response (body g.reason) request := by
  unfold Expects at h
  cases hp with
  | listen hstage hread hverdict =>
    simp only [hstage] at h
    refine Or.inl ⟨?_, hleg.receive hread, rfl⟩
    simp only [Expects, hstage]
    rcases h.of_receive hread with hrequest | ⟨-, -, hrest⟩
    · rw [Http.examine_of_prefix hrequest List.prefix_rfl _] at hverdict
      cases hverdict
    · exact hrest
  | settle hstage hread hverdict =>
    simp only [hstage] at h
    refine Or.inl ⟨?_, hleg.receive hread, rfl⟩
    have hfound := Http.examine_of_prefix hverdict List.prefix_rfl false
    rcases h.of_receive hread with hrequest | ⟨-, hmore, -⟩
    · rw [hfound] at hrequest
      rw [Http.Verdict.request.inj hrequest]
      rfl
    · rw [hfound] at hmore
      cases hmore
  | decline hstage hread hrequest hincomplete =>
    simp only [hstage] at h
    -- neither a request nor one that is still to come is declined
    rcases h.of_receive hread with hfound | ⟨hchunk, hmore, -⟩
    · exact absurd (Http.examine_of_prefix hfound List.prefix_rfl _) (hrequest _)
    · rw [decide_eq_false hchunk] at hincomplete
      exact absurd hmore hincomplete
  | unread hstage hread =>
    simp only [hstage] at h
    rcases Leg.receive_fault_cases hread with hclosed | ⟨cause, rest, harrivals⟩
    · rw [hleg.isOpen] at hclosed
      cases hclosed
    · rw [harrivals] at h
      cases h
  | unsent hstage hsend => exact absurd hsend (hleg.send_ne_fault _)
  | answer hstage hsend =>
    simp only [hstage] at h
    refine Or.inr ⟨finish_over _ _ _, ?_⟩
    rw [written_finish, written_wrote, h]
  | leave hstage =>
    simp only [hstage] at h

/-- **An answer that comes, or has come**: nothing has been written and it is
expected on a leg that takes writes, or it has been written. -/
def Gives (g : Gateway) (more : List Leg.Arrival) (request : Http.Request) (data : Bytes) : Prop :=
  data = [] ∧ g.leg.Writable ∧ g.Expects more request ∨
    g.stage.isOver = true ∧ data = response (body g.reason) request

theorem Gives.step {more : List Leg.Arrival} {data : Bytes} (h : g.Gives more request data)
    (hp : Passage g .advance result) : result.1.Gives more request (data ++ written result.2) := by
  have hreason := reason_of_passage hp
  rcases h with ⟨rfl, hleg, hexpects⟩ | ⟨hover, rfl⟩
  · rcases expects_step hexpects hleg hp with ⟨hnext, hnextLeg, hquiet⟩ | ⟨hover, hdone⟩
    · exact Or.inl ⟨hquiet, hnextLeg, hnext⟩
    · exact Or.inr ⟨hover, hreason ▸ hdone⟩
  · obtain ⟨hover, hquiet⟩ := over_of_passage hp hover
    exact Or.inr ⟨hover, by rw [hquiet, List.append_nil, hreason]⟩

/-- A responder that has ended has given its answer. -/
theorem Gives.of_ended {more : List Leg.Arrival} {data : Bytes} {ending : Ending Bool}
    (h : g.Gives more request data) (hended : g.stage = .ended ending) :
    data = response (body g.reason) request := by
  rcases h with ⟨-, -, hexpects⟩ | ⟨-, hdata⟩
  · simp only [Expects, hended] at hexpects
  · exact hdata

/-- Going on by itself, the responder comes to its end with these bytes
written. -/
def Answers (g : Gateway) (data : Bytes) : Prop :=
  ∃ n next events, machine.run g (List.replicate n .advance) = some (next, events) ∧
    (∃ ending, next.stage = .ended ending) ∧ written events = data

/-- A step that writes nothing brings the answer nearer. -/
theorem Answers.of_advance {data : Bytes} (h : next.Answers data)
    (hstep : g.advance = some (next, events)) (hquiet : written events = []) :
    g.Answers data := by
  obtain ⟨n, last, more, hrun, hended, hwritten⟩ := h
  refine ⟨n + 1, last, events ++ more, ?_, hended, ?_⟩
  · exact Machine.run_cons_iff.mpr ⟨next, events, more, hstep, hrun, rfl⟩
  · rw [written_append, hquiet, hwritten, List.nil_append]

/-- A responder that has closed its leg ends. -/
theorem answers_of_over (hover : g.stage.isOver = true) : g.Answers [] := by
  cases hstage : g.stage with
  | reading | writing data =>
    rw [hstage] at hover
    cases hover
  | closing ending =>
    have hstep : g.advance = some ({ g with stage := .ended ending }, []) := by
      simp only [advance, hstage]
    exact ⟨1, _, _, Machine.run_singleton_iff.mpr hstep, ⟨ending, rfl⟩, rfl⟩
  | ended ending => exact ⟨0, g, [], rfl, ⟨ending, hstage⟩, rfl⟩

/-- A responder that is cancelled ends at once. -/
theorem ends_of_cancel (hopen : ∀ ending, g.stage ≠ .ended ending) :
    ∃ result ending, g.step .cancel = some result ∧ result.1.stage = .ended ending := by
  cases hstage : g.stage with
  | reading | writing data =>
    exact ⟨g.stop, _, by simp only [step, hstage], rfl⟩
  | closing ending =>
    exact ⟨({ g with stage := .ended .cancelled }, []), .cancelled,
      by simp only [step, hstage], rfl⟩
  | ended ending => exact absurd hstage (hopen ending)

/-- The last step of a responder before it ends. -/
theorem answers_of_finish {other : Gateway} {ending : Ending Bool}
    (hstep : g.advance = some (other.finish ending events)) : g.Answers (written events) := by
  obtain ⟨n, last, more, hrun, hended, hwritten⟩ :=
    answers_of_over (other.finish_over ending events)
  refine ⟨n + 1, last, _ ++ more, Machine.run_cons_iff.mpr ⟨_, _, more, hstep, hrun, rfl⟩,
    hended, ?_⟩
  rw [written_append, hwritten, List.append_nil]
  exact other.written_finish ending events

theorem answers_of_writing {data : Bytes} (hstage : g.stage = .writing data)
    (hleg : g.leg.Writable) (hflow : g.leg.stalled = false) : g.Answers data := by
  have hstep : g.advance = some (g.finish (.returned true) [.leg (.wrote data)]) := by
    simp [advance, hstage, hleg.send hflow]
  simpa using answers_of_finish hstep

theorem answers_of_hears {arrivals : List Leg.Arrival} (h : Hears buffer arrivals request)
    (hstage : g.stage = .reading) (hbuffer : g.buffer = buffer)
    (harrivals : g.leg.arrivals = arrivals) (hleg : g.leg.Writable)
    (hflow : g.leg.stalled = false) : g.Answers (response (body g.reason) request) := by
  induction h generalizing g with
  | @now buffer whole rest request hrequest =>
    have hread := Leg.receive_of_data Http.headLimit hleg.isOpen harrivals
    -- whether the chunk is the empty one does not matter to a complete head
    have hfound := Http.examine_of_prefix hrequest List.prefix_rfl
      (decide (whole.take Http.headLimit = []))
    have hstep : g.advance = some
        ({ g with
            leg := { g.leg with arrivals := Leg.unread Http.headLimit whole rest }
            buffer := buffer ++ whole.take Http.headLimit
            stage := .writing (response (body g.reason) request) },
          [g.note "Serving bad gateway error"]) := by
      simp only [advance, hstage, hread, consider, hbuffer, hfound]
      rfl
    refine Answers.of_advance ?_ hstep rfl
    exact answers_of_writing rfl ⟨hleg.isOpen, hleg.noFault⟩ hflow
  | @later buffer whole rest request hwhole hmore _ ih =>
    have hread := Leg.receive_of_data Http.headLimit hleg.isOpen harrivals
    have hstep : g.advance = some
        ({ g with
            leg := { g.leg with arrivals := Leg.unread Http.headLimit whole rest }
            buffer := buffer ++ whole.take Http.headLimit }, []) := by
      simp only [advance, hstage, hread, consider, hbuffer,
        decide_eq_false (take_headLimit_ne_nil hwhole), hmore]
    refine Answers.of_advance ?_ hstep rfl
    exact ih hstage rfl rfl ⟨hleg.isOpen, hleg.noFault⟩ hflow

/-- **What is expected is written.** -/
theorem answers_of_expects (h : g.Expects [] request) (hleg : g.leg.Writable)
    (hflow : g.leg.stalled = false) : g.Answers (response (body g.reason) request) := by
  unfold Expects at h
  cases hstage : g.stage with
  | reading =>
    simp only [hstage, List.append_nil] at h
    exact answers_of_hears h hstage rfl rfl hleg hflow
  | writing data =>
    simp only [hstage] at h
    rw [← h]
    exact answers_of_writing hstage hleg hflow
  | closing ending | ended ending => simp only [hstage] at h

/-- With all that it needs on a leg that takes writes, the responder only has to go
on for the answer to be given. -/
theorem Gives.answers {data : Bytes} (h : g.Gives [] request data)
    (hflow : g.leg.stalled = false) :
    ∃ rest, g.Answers rest ∧ data ++ rest = response (body g.reason) request := by
  rcases h with ⟨rfl, hleg, hexpects⟩ | ⟨hover, rfl⟩
  · exact ⟨_, answers_of_expects hexpects hleg hflow, rfl⟩
  · exact ⟨[], answers_of_over hover, List.append_nil _⟩

end Gateway

end TunnelRelay
