import TunnelRelay.Proofs.Handles
/-!
# Transfers that break

A pending transfer breaks because the server has closed its end of the pipe, or
because this side has given the handle back in the meantime. Its caller should
hear which of the two it was (`Direction.promised`): where this side has closed
the stream, that it is closed; only what breaks while the stream is open is the
doing of the server, which ends what there is to read and is a fault to whoever
writes.

A read keeps this promise whatever happens between its start and its end, and a
write keeps it on an open stream. But a write does not look whether the stream
has been closed since, so one that this side has broken blames the server for it
(`close_blamed_on_server`).
-/

namespace TunnelRelay.Pipe.Stream

variable {s : Stream} {acts : List Act} {events : List Event} {handle chunkSize : Int}
variable {fault : Fault} {place : Nat}

/-- The two directions of transfers. -/
inductive Direction where
  | reading
  | writing
  deriving DecidableEq, Repr

namespace Direction

/-- The call that starts a transfer in this direction. -/
def call : Direction → Call
  | .reading => .receive
  | .writing => .send

/-- A transfer in this direction breaks. -/
def breaks (fault : Fault) (place : Nat) : Direction → Act
  | .reading => .readDone (.error fault) place
  | .writing => .writeDone (.error fault)

/-- What the caller hears where the server has closed its end. -/
def ended (fault : Fault) : Direction → Answer
  | .reading => .bytes []
  | .writing => .failed (.mk .brokenResource [.string "pipe was closed by the server"] (some fault))

/-- **What the caller of a transfer should hear that breaks**, given whether this
side has closed the stream. -/
def promised (d : Direction) (closed : Bool) (fault : Fault) : Answer :=
  if closed then .failed .streamClosed else d.ended fault

/-- Its own close and that of the server are not the same to a caller. -/
theorem promised_ne (d : Direction) (fault : Fault) :
    d.promised true fault ≠ d.promised false fault := by
  cases d <;> exact nofun

end Direction

/-! ## Pending transfers -/

/-- Whether a transfer is pending; a read has its place among the others. -/
def Pending (s : Stream) (place : Nat) : Direction → Prop
  | .reading => place < s.reads.length
  | .writing => 0 < s.writes

instance (s : Stream) (place : Nat) : (d : Direction) → Decidable (s.Pending place d)
  | .reading => inferInstanceAs (Decidable (_ < _))
  | .writing => inferInstanceAs (Decidable (_ < _))

/-- The stream when a pending transfer has ended. -/
def without (s : Stream) (place : Nat) : Direction → Stream
  | .reading => { s with reads := s.reads.eraseIdx place }
  | .writing => { s with writes := s.writes - 1 }

/-- Whether a transfer that breaks now gives the answer to its caller, and does
nothing else. -/
def Gives (s : Stream) (d : Direction) (fault : Fault) (answer : Answer) : Prop :=
  ∀ place, s.Pending place d →
    machine.step s (d.breaks fault place) = some (s.without place d, [.answered d.call answer])

theorem gives_reading (hbroken : isBroken fault = true) :
    s.Gives .reading fault (Direction.reading.promised s.closed fault) := by
  intro place hpending
  have hanswer : s.readAnswer (.error fault) = Direction.reading.promised s.closed fault := by
    simp only [readAnswer, hbroken, if_true, Direction.promised, Direction.ended]
  have hstep := step_readDone (List.getElem?_eq_getElem hpending) (.error fault)
  rw [hanswer] at hstep
  exact hstep

/-- A write does not look whether the stream is closed. -/
theorem gives_writing (hbroken : isBroken fault = true) :
    s.Gives .writing fault (Direction.writing.ended fault) := by
  intro place hpending
  obtain ⟨writes, hwrites⟩ : ∃ writes, s.writes = writes + 1 :=
    Nat.exists_eq_add_one.mpr hpending
  have hanswer : writeAnswer (.error fault) = Direction.writing.ended fault := by
    rw [writeAnswer, if_pos hbroken]
    rfl
  simp only [Direction.breaks, Direction.call, machine, step, hwrites, hanswer, without,
    Nat.add_sub_cancel]

/-! ## The promise -/

/-- Whether transfers in this direction keep the promise, given all that was asked
of the stream. -/
def Direction.Keeps (d : Direction) (acts : List Act) (s : Stream) : Prop :=
  ∀ fault, isBroken fault = true → s.Gives d fault (d.promised (isClosedBy acts) fault)

/-- **What is told of the transfers that break** on a stream, given all that was
asked of it. -/
structure TellsBreaks (acts : List Act) (s : Stream) : Prop where
  reads : Direction.reading.Keeps acts s
  writes : isClosedBy acts = false → Direction.writing.Keeps acts s
  /-- A write that breaks on a closed stream is told that the server has closed
  it. -/
  blamed : isClosedBy acts = true → ∀ fault, isBroken fault = true →
    s.Gives .writing fault (Direction.writing.promised false fault)
  /-- So what a read is told depends on whether the stream was closed between its
  start and its end, and on nothing else that happened in that time. -/
  between : isClosedBy acts = false → ∀ (n : Nat) later t more place, 0 < n →
    machine.run s (.receive (some n) :: later) = some (t, more) →
    placeAfter s.reads.length later = some place → ∀ fault, isBroken fault = true →
      machine.step t (.readDone (.error fault) place) = some (t.without place .reading,
        [.answered .receive (Direction.reading.promised (isClosedBy later) fault)])

theorem reads_keep (hrun : machine.run (madeOver handle chunkSize) acts = some (s, events)) :
    Direction.reading.Keeps acts s := by
  intro fault hbroken
  rw [← (holds_run hrun).closed_eq]
  exact gives_reading hbroken

/-- **Reads tell the close of this side from that of the server**, however they
are interleaved with it, and writes do so as long as the stream is open. -/
theorem reads_keep_promise
    (hrun : machine.run (madeOver handle chunkSize) acts = some (s, events)) :
    TellsBreaks acts s := by
  refine ⟨reads_keep hrun, fun hopen fault hbroken => ?_, fun _ _ hbroken => gives_writing hbroken,
    fun hopen n later t more place hn hlater hplace fault hbroken => ?_⟩
  · rw [hopen]
    exact gives_writing hbroken
  · have hpending : t.Pending place .reading := by
      have hheld : s.handle = some handle := by
        rw [(holds_run hrun).handle_eq, hopen]
        rfl
      obtain ⟨u, first, rest, hstep, hrest, -⟩ := Machine.run_cons_iff.mp hlater
      rw [step_receive hheld hn] at hstep
      obtain ⟨rfl, -⟩ := Prod.mk.inj (Option.some.inj hstep)
      have hbuffer : t.reads[place]? = some n := pending_kept hrest (by simp) hplace
      exact (List.getElem?_eq_some_iff.mp hbuffer).1
    -- nobody had closed the stream before the read began
    have hsince : isClosedBy (acts ++ .receive (some n) :: later) = isClosedBy later := by
      have hbefore : acts.any Act.isClose = false := hopen
      rw [isClosedBy, List.any_append, hbefore, Bool.false_or, List.any_cons]
      rfl
    have hwhole := Machine.run_append_iff.mpr ⟨s, events, more, hrun, hlater, rfl⟩
    rw [← hsince]
    exact reads_keep hwhole fault hbroken place hpending

/-- The system's fault of a pipe that is broken. -/
def brokenPipe : Fault := .ofNumber 32 "Broken pipe"

/-- A write and a read are pending when this side closes the stream. -/
def closedAmid : List Act := [.send [97], .receive none, .close]

theorem closedAmid_told :
    ∃ s events, machine.run (madeOver 5 defaultChunkSize) closedAmid = some (s, events) ∧
      TellsBreaks closedAmid s ∧
      machine.step s (.readDone (.error brokenPipe)) =
        some (s.without 0 .reading, [.answered .receive (.failed .streamClosed)]) := by
  obtain ⟨⟨s, events⟩, h⟩ := Option.isSome_iff_exists.mp
    (show (machine.run (madeOver 5 defaultChunkSize) closedAmid).isSome = true by decide +kernel)
  have htells : TellsBreaks closedAmid s := reads_keep_promise h
  refine ⟨s, events, h, htells, htells.reads brokenPipe (by decide) 0 ?_⟩
  obtain ⟨rfl, -⟩ := Prod.mk.inj (Option.some.inj h)
  decide

/-- **A write that this side has broken blames the server.** -/
theorem close_blamed_on_server :
    ¬ ∀ (d : Direction) handle chunkSize acts s events,
      machine.run (madeOver handle chunkSize) acts = some (s, events) → d.Keeps acts s := by
  intro hall
  let s : Stream := { handle := none, writes := 1 }
  have hkeeps : Direction.writing.Keeps [.send [97], .close] s :=
    hall .writing 5 defaultChunkSize [.send [97], .close] s _ rfl
  have hpending : s.Pending 0 .writing := by decide
  have hpromised := hkeeps brokenPipe (by decide) 0 hpending
  rw [gives_writing (by decide) 0 hpending] at hpromised
  have hanswer := (List.cons.inj (Prod.mk.inj (Option.some.inj hpromised)).2).1
  exact Direction.promised_ne .writing brokenPipe (Event.answered.inj hanswer).2.symm

end TunnelRelay.Pipe.Stream
