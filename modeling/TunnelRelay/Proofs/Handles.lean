import Mathlib.Data.List.TakeWhile
import TunnelRelay.Pipe.Stream
import TunnelRelay.Proofs.Runs
/-!
# The handle of a pipe

A handle that has been given back may stand for something else by the next
moment, so it must be given back once, and nothing may be started on it after
that. The stream lets go of its handle at the first close, before anything else
can happen: it holds the handle exactly as long as nobody has closed it
(`Holds`), and every transfer is started by a stream that holds its handle.

A read that is pending keeps its buffer, whichever reads complete before it
(`pending_kept`). So what it gives in the end is no more than it was asked for.
-/

namespace TunnelRelay.Pipe.Stream

variable {s t : Stream} {act : Act} {acts later : List Act} {events more : List Event}
variable {handle : Int} {place size : Nat}

/-! ## What is done with the handle -/

/-- The handle that an event gives back. -/
def Event.givenBack? : Event → Option Int
  | .closeHandle handle => some handle
  | .register _ | .readInto _ _ | .write _ _ | .answered _ _ => none

/-- The write that an event starts, and on which handle. -/
def Event.write? : Event → Option (Int × Bytes)
  | .write handle data => some (handle, data)
  | .register _ | .readInto _ _ | .closeHandle _ | .answered _ _ => none

/-- Whether an event starts a transfer. -/
def Event.starts : Event → Bool
  | .readInto _ _ | .write _ _ => true
  | .register _ | .closeHandle _ | .answered _ _ => false

/-- The handles that events give back, in order. -/
def givenBack (events : List Event) : List Int := events.filterMap Event.givenBack?

/-- The writes that events start, in order. -/
def writesOf (events : List Event) : List (Int × Bytes) := events.filterMap Event.write?

theorem givenBack_append (events more : List Event) :
    givenBack (events ++ more) = givenBack events ++ givenBack more :=
  List.filterMap_append

theorem writesOf_append (events more : List Event) :
    writesOf (events ++ more) = writesOf events ++ writesOf more :=
  List.filterMap_append

/-- Where a handle has been given back, there is an event that did so. -/
theorem givenBack?_eq_none (h : givenBack events = []) {e : Event} (he : e ∈ events) :
    e.givenBack? = none :=
  List.filterMap_eq_nil_iff.mp h e he

/-- **No transfer is started once the handle has been given back.** -/
def Orderly (events : List Event) : Prop :=
  events.Pairwise fun earlier e => earlier.givenBack?.isSome = true → e.starts = false

theorem Orderly.append (h : Orderly events) (hmore : Orderly more)
    (hstarts : givenBack events = [] ∨ ∀ e ∈ more, e.starts = false) :
    Orderly (events ++ more) := by
  refine List.pairwise_append.mpr ⟨h, hmore, fun earlier hearlier e he hgiven => ?_⟩
  obtain hnone | hidle := hstarts
  · rw [givenBack?_eq_none hnone hearlier] at hgiven
    cases hgiven
  · exact hidle e he

/-! ## What is asked of the stream -/

/-- Whether the action closes the stream. -/
def Act.isClose : Act → Bool
  | .close => true
  | .receive _ | .send _ | .wait | .readDone .. | .writeDone _ => false

/-- The data that an action has to write; there is nothing to write of no
data. -/
def Act.data? : Act → Option Bytes
  | .send data => if data = [] then none else some data
  | .receive _ | .close | .wait | .readDone .. | .writeDone _ => none

/-- Whether somebody has closed the stream. -/
def isClosedBy (acts : List Act) : Bool := acts.any Act.isClose

/-- What was asked before the first close. -/
def untilClose (acts : List Act) : List Act := acts.takeWhile fun act => !act.isClose

theorem isClosedBy_concat (acts : List Act) (act : Act) :
    isClosedBy (acts ++ [act]) = (isClosedBy acts || act.isClose) := by
  simp [isClosedBy]

/-- What is asked after the first close does not count. -/
theorem untilClose_append_of_closed (h : isClosedBy acts = true) (later : List Act) :
    untilClose (acts ++ later) = untilClose acts := by
  induction acts with
  | nil => cases h
  | cons act acts ih =>
    simp only [untilClose, List.cons_append, List.takeWhile_cons]
    split
    · rename_i hact
      have hrest : isClosedBy acts = true := by
        rw [isClosedBy, List.any_cons, Bool.or_eq_true] at h
        exact h.resolve_left (by simpa using hact)
      exact congrArg (act :: ·) (ih hrest)
    · rfl

/-- What had to be written before the first close. -/
def asked (acts : List Act) : List Bytes := (untilClose acts).filterMap Act.data?

theorem asked_concat_of_closed (h : isClosedBy acts = true) (act : Act) :
    asked (acts ++ [act]) = asked acts :=
  congrArg (List.filterMap Act.data?) (untilClose_append_of_closed h [act])

theorem asked_concat_of_open (h : isClosedBy acts = false) (act : Act) :
    asked (acts ++ [act]) = asked acts ++ act.data?.toList := by
  have hall : ∀ other ∈ acts, (!other.isClose) = true := fun other hother => by
    simp [List.any_eq_false.mp h other hother]
  have hself : untilClose acts = acts := List.takeWhile_eq_self_iff.mpr hall
  rw [asked, asked, hself, untilClose, List.takeWhile_append_of_pos hall, List.filterMap_append]
  -- a close has nothing to write, and what has something to write is no close
  cases act with
  | send data => by_cases hdata : data = [] <;> simp [Act.isClose, Act.data?, hdata]
  | receive | close | wait | readDone | writeDone => rfl

/-! ## Passages -/

/-- The reads that are still pending when an action has completed its own. -/
def Act.left (reads : List Nat) : Act → List Nat
  | .readDone _ place => reads.eraseIdx place
  | .receive _ | .send _ | .close | .wait | .writeDone _ => reads

/-- **What an action can do to a stream**: start a read or a write on the handle
that it holds, give that handle back, or answer and leave the handle alone. The
last is all that a closed stream does. -/
inductive Passage (s : Stream) : Act → Stream → List Event → Prop
  | read {handle : Int} {max : Option Int} {size : Nat} : s.handle = some handle →
      s.bufferSize max = .ofNat size →
      Passage s (.receive max) { s with reads := s.reads ++ [size] } [.readInto handle size]
  | write {handle : Int} {data : Bytes} : s.handle = some handle → data ≠ [] →
      Passage s (.send data) { s with writes := s.writes + 1 } [.write handle data]
  | close {handle : Int} : s.handle = some handle →
      Passage s .close { s with handle := none } [.closeHandle handle, .answered .close .done]
  | answered {act : Act} {writes : Nat} {call : Call} {answer : Answer} :
      s.handle = none ∨ act.isClose = false ∧ act.data? = none →
      Passage s act { s with reads := act.left s.reads, writes } [.answered call answer]

theorem passage_of_step (hstep : machine.step s act = some (t, events)) :
    Passage s act t events := by
  cases act with
  | receive max =>
    simp only [machine, step] at hstep
    split at hstep
    · rename_i hhandle
      obtain ⟨rfl, rfl⟩ := Prod.mk.inj (Option.some.inj hstep)
      exact .answered (Or.inl hhandle)
    · rename_i hhandle
      split at hstep
      · rename_i hsize
        obtain ⟨rfl, rfl⟩ := Prod.mk.inj (Option.some.inj hstep)
        exact .read hhandle hsize
      · obtain ⟨rfl, rfl⟩ := Prod.mk.inj (Option.some.inj hstep)
        exact .answered (Or.inr ⟨rfl, rfl⟩)
  | send data =>
    simp only [machine, step] at hstep
    split at hstep
    · rename_i hhandle
      obtain ⟨rfl, rfl⟩ := Prod.mk.inj (Option.some.inj hstep)
      exact .answered (Or.inl hhandle)
    · rename_i hhandle
      split at hstep
      · rename_i hdata
        obtain ⟨rfl, rfl⟩ := Prod.mk.inj (Option.some.inj hstep)
        exact .answered (Or.inr ⟨rfl, if_pos hdata⟩)
      · rename_i hdata
        obtain ⟨rfl, rfl⟩ := Prod.mk.inj (Option.some.inj hstep)
        exact .write hhandle hdata
  | close =>
    simp only [machine, step] at hstep
    split at hstep
    · rename_i hhandle
      obtain ⟨rfl, rfl⟩ := Prod.mk.inj (Option.some.inj hstep)
      exact .answered (Or.inl hhandle)
    · rename_i hhandle
      obtain ⟨rfl, rfl⟩ := Prod.mk.inj (Option.some.inj hstep)
      exact .close hhandle
  | wait =>
    obtain ⟨rfl, rfl⟩ := Prod.mk.inj (Option.some.inj hstep)
    exact .answered (Or.inr ⟨rfl, rfl⟩)
  | readDone result place =>
    simp only [machine, step] at hstep
    split at hstep
    · obtain ⟨rfl, rfl⟩ := Prod.mk.inj (Option.some.inj hstep)
      exact .answered (Or.inr ⟨rfl, rfl⟩)
    · cases hstep
  | writeDone result =>
    simp only [machine, step] at hstep
    split at hstep
    · cases hstep
    · obtain ⟨rfl, rfl⟩ := Prod.mk.inj (Option.some.inj hstep)
      exact .answered (Or.inr ⟨rfl, rfl⟩)

/-! ## Holding the handle -/

/-- **A stream holds its handle until it is closed**, and does with it what it
is asked to until then. -/
structure Holds (handle : Int) (acts : List Act) (s : Stream) (events : List Event) : Prop where
  handle_eq : s.handle = if isClosedBy acts then none else some handle
  given_back : givenBack events = if isClosedBy acts then [handle] else []
  orderly : Orderly events
  writes : writesOf events = (asked acts).map (handle, ·)

/-- A stream that holds a handle holds its own, and nobody has closed it. -/
theorem Holds.of_handle (h : Holds handle acts s events) {held : Int}
    (hheld : s.handle = some held) : held = handle ∧ isClosedBy acts = false := by
  have heq := h.handle_eq
  rw [hheld] at heq
  cases hclosed : isClosedBy acts with
  | true =>
    rw [hclosed] at heq
    cases heq
  | false =>
    rw [hclosed] at heq
    exact ⟨Option.some.inj heq, rfl⟩

theorem Holds.closed_eq (h : Holds handle acts s events) : s.closed = isClosedBy acts := by
  rw [closed, h.handle_eq]
  cases isClosedBy acts <;> rfl

/-- An open stream that is not closed keeps its handle, and writes what it has to
write. -/
theorem Holds.go_on (h : Holds handle acts s events) (hopen : isClosedBy acts = false)
    (hact : act.isClose = false) (hsame : t.handle = s.handle) (hgiven : givenBack more = [])
    (horderly : Orderly more) (hwrites : writesOf more = act.data?.toList.map (handle, ·)) :
    Holds handle (acts ++ [act]) t (events ++ more) := by
  have hstill : isClosedBy (acts ++ [act]) = false := by
    rw [isClosedBy_concat, hopen, hact]
    rfl
  have hbefore : givenBack events = [] := by
    rw [h.given_back, hopen]
    rfl
  refine ⟨?_, ?_, h.orderly.append horderly (Or.inl hbefore), ?_⟩
  · rw [hsame, h.handle_eq, hopen, hstill]
  · rw [givenBack_append, hbefore, hgiven, hstill]
    rfl
  · rw [writesOf_append, h.writes, hwrites, asked_concat_of_open hopen, List.map_append]

/-- A closed stream starts nothing and has nothing to give back, whatever is asked
of it. -/
theorem Holds.stay_closed (h : Holds handle acts s events) (hclosed : isClosedBy acts = true)
    (hsame : t.handle = s.handle) (act : Act) (call : Call) (answer : Answer) :
    Holds handle (acts ++ [act]) t (events ++ [.answered call answer]) := by
  have hstill : isClosedBy (acts ++ [act]) = true := by
    rw [isClosedBy_concat, hclosed]
    rfl
  refine ⟨?_, ?_, h.orderly.append (List.pairwise_singleton _ _) (Or.inr ?_), ?_⟩
  · rw [hsame, h.handle_eq, hclosed, hstill]
  · rw [givenBack_append, h.given_back, hclosed, hstill]
    rfl
  · simp [Event.starts]
  · rw [writesOf_append, h.writes, asked_concat_of_closed hclosed]
    exact List.append_nil _

/-- The first close gives the handle back. -/
theorem Holds.close (h : Holds handle acts s events) (hopen : isClosedBy acts = false)
    (hnone : t.handle = none) :
    Holds handle (acts ++ [.close]) t
      (events ++ [.closeHandle handle, .answered .close .done]) := by
  have hnow : isClosedBy (acts ++ [.close]) = true := by
    rw [isClosedBy_concat, hopen]
    rfl
  have hbefore : givenBack events = [] := by
    rw [h.given_back, hopen]
    rfl
  refine ⟨?_, ?_, h.orderly.append ?_ (Or.inl hbefore), ?_⟩
  · rw [hnone, hnow]
    rfl
  · rw [givenBack_append, hbefore, hnow]
    rfl
  · simp [Orderly, Event.starts]
  · rw [writesOf_append, h.writes, asked_concat_of_open hopen, List.map_append]
    rfl

theorem holds_step (h : Holds handle acts s events) (hp : Passage s act t more) :
    Holds handle (acts ++ [act]) t (events ++ more) := by
  cases hp with
  | read hheld =>
    obtain ⟨-, hopen⟩ := h.of_handle hheld
    exact h.go_on hopen rfl rfl rfl (List.pairwise_singleton _ _) rfl
  | @write held data hheld hdata =>
    obtain ⟨rfl, hopen⟩ := h.of_handle hheld
    exact h.go_on hopen rfl rfl rfl (List.pairwise_singleton _ _)
      (by simp [Act.data?, hdata, writesOf, Event.write?])
  | close hheld =>
    obtain ⟨rfl, hopen⟩ := h.of_handle hheld
    exact h.close hopen rfl
  | @answered _ _ call answer hidle =>
    cases hshut : isClosedBy acts with
    | true => exact h.stay_closed hshut (by rfl) act call answer
    | false =>
      -- an open stream answers at once only what has nothing to write and is no close
      obtain hnone | ⟨hact, hdata⟩ := hidle
      · rw [h.handle_eq, hshut] at hnone
        cases hnone
      · exact h.go_on hshut hact rfl rfl (List.pairwise_singleton _ _) (by rw [hdata]; rfl)

/-- A stream that has just been made over a handle. -/
def madeOver (handle chunkSize : Int) : Stream := { handle := some handle, chunkSize }

theorem holds_run {chunkSize : Int}
    (h : machine.run (madeOver handle chunkSize) acts = some (s, events)) :
    Holds handle acts s (.register handle :: events) := by
  refine Machine.run_induction
    (P := fun s acts events => Holds handle acts s (.register handle :: events)) ?_ ?_ h
  · exact ⟨rfl, rfl, List.pairwise_singleton _ _, rfl⟩
  · intro u t act acts events more _ hu hstep
    exact holds_step hu (passage_of_step hstep)

/-! ## Pending reads -/

/-- The place of a pending read after other actions, unless they complete it:
the reads before it may complete. -/
def placeAfter (place : Nat) : List Act → Option Nat
  | [] => some place
  | .readDone _ done :: acts =>
    if done = place then none else placeAfter (if done < place then place - 1 else place) acts
  | _ :: acts => placeAfter place acts

/-- **A pending read keeps its buffer**, whatever happens until it completes. -/
theorem pending_kept (hrun : machine.run s acts = some (t, events))
    (hplace : s.reads[place]? = some size) {next : Nat}
    (hnext : placeAfter place acts = some next) : t.reads[next]? = some size := by
  -- from the front, as `placeAfter` follows the actions
  induction acts generalizing s place events with
  | nil =>
    obtain ⟨rfl, -⟩ : s = t ∧ [] = events := by simpa using hrun
    obtain rfl : place = next := Option.some.inj hnext
    exact hplace
  | cons act acts ih =>
    obtain ⟨u, first, rest, hstep, hlater, -⟩ := Machine.run_cons_iff.mp hrun
    have hlt : place < s.reads.length := (List.getElem?_eq_some_iff.mp hplace).1
    cases passage_of_step hstep with
    | read =>
      refine ih hlater ?_ hnext
      rw [List.getElem?_append_left hlt]
      exact hplace
    | write | close => exact ih hlater hplace hnext
    | answered =>
      cases act with
      | readDone result done =>
        simp only [placeAfter] at hnext
        split at hnext
        · cases hnext
        · rename_i hne
          refine ih hlater ?_ hnext
          rw [Act.left, List.getElem?_eraseIdx]
          obtain hbefore | hafter := Nat.lt_or_gt_of_ne hne
          · -- one of the reads before it is done
            have hmoved : place - 1 + 1 = place := by omega
            rw [if_pos hbefore, if_neg (by omega), hmoved]
            exact hplace
          · have hafter : ¬done < place := Nat.not_lt_of_gt hafter
            rw [if_neg hafter, if_pos (by omega)]
            exact hplace
      | receive | send | close | wait | writeDone => exact ih hlater hplace hnext

/-! ## Discipline -/

/-- Whether the system can deliver the data to a pending read: it delivers no
more than the buffer holds. -/
def Fits (s : Stream) (place : Nat) (data : Bytes) : Prop :=
  ∀ size, s.reads[place]? = some size → data.length ≤ size

/-- **What holds of a stream over a handle after any actions**, given all that
it has done. -/
structure Disciplined (handle : Int) (acts : List Act) (s : Stream) (events : List Event) :
    Prop where
  /-- The handle is given back once if the stream has been closed, and else not
  at all. -/
  given_once : givenBack events = if isClosedBy acts then [handle] else []
  orderly : Orderly events
  /-- It is closed from the first close on. -/
  closed_eq : s.closed = isClosedBy acts
  /-- A closed stream refuses to be read and written. -/
  refused : s.closed = true →
    (∀ max, machine.step s (.receive max) =
      some (s, [.answered .receive (.failed .streamClosed)])) ∧
    ∀ data, machine.step s (.send data) = some (s, [.answered .send (.failed .streamClosed)])
  /-- Until it is closed, what is sent is written, unchanged and once; nothing
  is written of no data, or of anything else. -/
  written : writesOf events = (asked acts).map (handle, ·)
  /-- Who asks for some bytes of an open stream has a buffer of that size read
  into. -/
  read_into : s.closed = false → ∀ n : Nat, 0 < n →
    machine.step s (.receive (some n)) =
      some ({ s with reads := s.reads ++ [n] }, [.readInto handle n])
  /-- And is given what the read delivers in the end, which is no more. -/
  received : s.closed = false → ∀ n : Nat, 0 < n → ∀ later t more place,
    machine.run s (.receive (some n) :: later) = some (t, more) →
    placeAfter s.reads.length later = some place → ∀ data, t.Fits place data →
      data.length ≤ n ∧ machine.step t (.readDone (.ok data) place) =
        some ({ t with reads := t.reads.eraseIdx place }, [.answered .receive (.bytes data)])

theorem step_receive (hheld : s.handle = some handle) {n : Nat} (hn : 0 < n) :
    machine.step s (.receive (some n)) =
      some ({ s with reads := s.reads ++ [n] }, [.readInto handle n]) := by
  have hsize : s.bufferSize (some n) = .ofNat n := by
    simp [bufferSize, Nat.ne_of_gt hn]
  simp only [machine, step, hheld, hsize]

theorem step_readDone (hplace : s.reads[place]? = some size) (result : Except Fault Bytes) :
    machine.step s (.readDone result place) =
      some ({ s with reads := s.reads.eraseIdx place },
        [.answered .receive (s.readAnswer result)]) :=
  if_pos (List.getElem?_eq_some_iff.mp hplace).1

theorem Holds.disciplined (h : Holds handle acts s events) : Disciplined handle acts s events := by
  have hheld (hopen : s.closed = false) : s.handle = some handle := by
    rw [h.handle_eq, ← h.closed_eq, hopen]
    rfl
  refine ⟨h.given_back, h.orderly, h.closed_eq, fun hclosed => ?_, h.writes,
    fun hopen n hn => step_receive (hheld hopen) hn, ?_⟩
  · have hnone : s.handle = none := Option.isNone_iff_eq_none.mp hclosed
    simp [machine, step, hnone]
  · intro hopen n hn later t more place hrun hplace data hfits
    obtain ⟨u, first, rest, hstep, hlater, -⟩ := Machine.run_cons_iff.mp hrun
    rw [step_receive (hheld hopen) hn] at hstep
    obtain ⟨rfl, -⟩ := Prod.mk.inj (Option.some.inj hstep)
    have hbuffer : t.reads[place]? = some n := pending_kept hlater (by simp) hplace
    exact ⟨hfits n hbuffer, step_readDone hbuffer (.ok data)⟩

/-- **A handle is given back once and not used after that.** Where it cannot be
registered no stream comes of it, and it is given back at once. -/
theorem handle_disciplined (handle chunkSize : Int) (registration : Option Fault) :
    match make handle chunkSize registration with
    | (.error _, made) =>
      registration.isSome = true ∧ givenBack made = [handle] ∧ ∀ e ∈ made, e.starts = false
    | (.ok start, made) =>
      registration = none ∧ ∀ acts s events, machine.run start acts = some (s, events) →
        Disciplined handle acts s (made ++ events) := by
  cases registration with
  | some fault => exact ⟨rfl, rfl, by simp [Event.starts]⟩
  | none => exact ⟨rfl, fun acts s events hrun => (holds_run hrun).disciplined⟩

/-- Two reads are pending when the stream is closed; the second is done before
that, and the first is broken by it. -/
def crossing : List Act :=
  [.receive (some 3), .receive (some 2), .send [7, 8], .send [], .readDone (.ok [1, 2]) 1, .close,
    .close, .receive none, .readDone (.error (.ofText (.system .brokenPipe) "broken"))]

theorem crossing_disciplined :
    ∃ s events, machine.run (madeOver 5 defaultChunkSize) crossing = some (s, events) ∧
      Disciplined 5 crossing s (.register 5 :: events) ∧
      givenBack events = [5] ∧ writesOf events = [(5, [7, 8])] ∧ s.closed = true := by
  obtain ⟨⟨s, events⟩, h⟩ := Option.isSome_iff_exists.mp
    (show (machine.run (madeOver 5 defaultChunkSize) crossing).isSome = true by decide +kernel)
  refine ⟨s, events, h, (handle_disciplined 5 defaultChunkSize none).2 crossing s events h, ?_⟩
  obtain ⟨rfl, rfl⟩ := Prod.mk.inj (Option.some.inj h)
  exact ⟨rfl, rfl, rfl⟩

end TunnelRelay.Pipe.Stream
