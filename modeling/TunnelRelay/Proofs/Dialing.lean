import TunnelRelay.Proofs.Stretches
/-!
# At most one dial at a time

A connection that is being opened says so by its state, and refuses to be
opened again; one that is being closed says so too. The state tells the truth
as long as nobody takes the stream out in the middle of that: a stream taken
out makes the connection disconnected, while the task that opens or closes it
is still at work. Where this does not happen (`undisturbed`) the tasks at work
are as many as the state says (`Single`), so one dial is in progress at most;
and the stream that an opening replaces is one whose close has begun, so no
stream is lost.

Where it does happen both fail. A close that goes through late makes the
connection disconnected for a second time, during the next dial, and a third
opening may dial beside it.
-/

namespace TunnelRelay

namespace Lifecycle

variable {l next : Lifecycle} {act : Act} {acts : List Act} {task n : Nat}
variable {streams : List Leg} {events : List Event} {result : Lifecycle × List Event}
variable {place other : Task} {tasks : List Task} {p : Task → Bool}

/-- **What is promised of a connection**: it is dialed at most once at a time,
and every stream that it was given is held, handed out or shut. -/
structure DialedOnce (l : Lifecycle) : Prop where
  single : l.tasks.countP Task.isOpening ≤ 1
  kept : ∀ n ∈ l.opened, l.connection.stream = some n ∨ n ∈ l.handedOut ∨ n ∈ l.shut

/-! ## Where the promise is broken -/

/-- A stream is taken out while its close is held up. The close goes through
during the next dial, and another dial is begun beside that one. -/
def lateClose : List Act :=
  [.start (.ok .client), .delivered 0 (.ok { leg := { closeHeld := true } }), .shut, .detach,
    .start (.ok .client), .release, .closed 1, .start (.ok .client)]

/-- Both dials deliver a stream. -/
def bothDelivered : List Act := [.delivered 2 (.ok { leg := {} }), .delivered 3 (.ok { leg := {} })]

/-- **A late close breaks the promise**: two dials are in progress at a time,
and the stream of the one is lost to that of the other. -/
theorem late_close_breaks_promise :
    (∃ l events, machine.run (start (.new .custom)) lateClose = some (l, events) ∧
      l.tasks.countP Task.isOpening = 2) ∧
    ∃ l events, machine.run (start (.new .custom)) (lateClose ++ bothDelivered) =
      some (l, events) ∧
      1 ∈ l.opened ∧ l.connection.stream = some 2 ∧ 1 ∉ l.handedOut ∧ 1 ∉ l.shut := by
  constructor
  · obtain ⟨⟨l, events⟩, h⟩ := Option.isSome_iff_exists.mp
      (show (machine.run (start (.new .custom)) lateClose).isSome = true by decide +kernel)
    refine ⟨l, events, h, ?_⟩
    obtain ⟨rfl, -⟩ := Prod.mk.inj (Option.some.inj h)
    rfl
  · obtain ⟨⟨l, events⟩, h⟩ := Option.isSome_iff_exists.mp
      (show (machine.run (start (.new .custom)) (lateClose ++ bothDelivered)).isSome = true by
        decide +kernel)
    refine ⟨l, events, h, ?_⟩
    obtain ⟨rfl, -⟩ := Prod.mk.inj (Option.some.inj h)
    exact ⟨by decide, rfl, by decide, by decide⟩

/-! ## Where it is kept -/

/-- Whether the stream can be taken out without disturbing a task: there is
none, or the connection is neither being opened nor being closed. -/
def quiet (l : Lifecycle) : Bool :=
  l.connection.stream.isNone || l.connection.state = .connected ||
    l.connection.state = .disconnected

/-- Whether the action takes the stream out. -/
def Act.takesOut : Act → Bool
  | .detach => true
  | .start _ | .shut | .delivered _ _ | .handshaken _ _ | .closed _ | .cancel _ | .release => false

/-- Whether the stream is only ever taken out where that disturbs no task. -/
def undisturbed (l : Lifecycle) : List Act → Bool
  | [] => true
  | act :: acts =>
    (!act.takesOut || l.quiet) &&
      match machine.step l act with
      | some (next, _) => next.undisturbed acts
      | none => true

/-- **The tasks at work are as many as the state says**, and a stream that is
still held where the connection is not connected is shut. -/
structure Single (l : Lifecycle) : Prop where
  openings : l.tasks.countP Task.isOpening = if l.connection.state = .connecting then 1 else 0
  closings : l.tasks.countP Task.isClosing = if l.connection.state = .disconnecting then 1 else 0
  stale : ∀ n, l.connection.stream = some n → l.connection.state ≠ .connected → n ∈ l.shut
  kept : ∀ n ∈ l.opened, l.connection.stream = some n ∨ n ∈ l.handedOut ∨ n ∈ l.shut

/-- A task that goes on in the same kind of place is counted as before. -/
theorem countP_moved (htask : tasks[task]? = some other) (hp : p place = p other) :
    (tasks.set task place).countP p = tasks.countP p := by
  obtain ⟨hlt, hother⟩ := List.getElem?_eq_some_iff.mp htask
  have hle : (if p other = true then 1 else 0) ≤ tasks.countP p := by
    split
    · rename_i hcounted
      exact List.countP_pos_iff.mpr ⟨other, List.mem_of_getElem? htask, hcounted⟩
    · exact Nat.zero_le _
  rw [List.countP_set hlt, hother, hp, Nat.sub_add_cancel hle]

/-- A task that finishes is one less of those that were counted. -/
theorem countP_finished (htask : tasks[task]? = some other) (hother : p other = true)
    (hfinished : p .finished = false) :
    (tasks.set task .finished).countP p = tasks.countP p - 1 := by
  obtain ⟨hlt, heq⟩ := List.getElem?_eq_some_iff.mp htask
  rw [List.countP_set hlt, heq, hother, hfinished]
  rfl

theorem countP_pos_of_place (h : tasks[task]? = some place) (hp : p place = true) :
    0 < tasks.countP p :=
  List.countP_pos_iff.mpr ⟨place, List.mem_of_getElem? h, hp⟩

/-- While a task opens the connection, the state says so. -/
theorem Single.connecting (h : Single l) (htask : l.tasks[task]? = some place)
    (hplace : place.isOpening = true) : l.connection.state = .connecting := by
  have hpos := countP_pos_of_place htask hplace
  rw [h.openings] at hpos
  split at hpos
  · assumption
  · cases hpos

/-- While a task closes the connection, the state says so. -/
theorem Single.disconnecting (h : Single l) (htask : l.tasks[task]? = some (.closing n)) :
    l.connection.state = .disconnecting := by
  have hpos := countP_pos_of_place (p := Task.isClosing) htask rfl
  rw [h.closings] at hpos
  split at hpos
  · assumption
  · cases hpos

theorem single_start (transport : Transport) : Single (start (.new transport)) :=
  ⟨rfl, rfl, nofun, nofun⟩

/-- When an opening is over no task is at work, and what is held is shut. -/
theorem Single.opening_over (h : Single l) (htask : l.tasks[task]? = some place)
    (hplace : place.isOpening = true) :
    (l.tasks.set task .finished).countP Task.isOpening = 0 ∧
      (l.tasks.set task .finished).countP Task.isClosing = 0 ∧
      ∀ n, l.connection.stream = some n → n ∈ l.shut := by
  have hstate := h.connecting htask hplace
  have hnotClosing : Task.isClosing .finished = place.isClosing := by
    cases place with
    | dialing | handshaking => rfl
    | closing | finished => cases hplace
  refine ⟨?_, ?_, fun n hn => h.stale n hn (by rw [hstate]; exact nofun)⟩
  · rw [countP_finished htask hplace rfl, h.openings, hstate]
    rfl
  · rw [countP_moved htask hnotClosing, h.closings, hstate]
    rfl

/-- So it is when a close is over. -/
theorem Single.closing_over (h : Single l) (htask : l.tasks[task]? = some (.closing n)) :
    (l.tasks.set task .finished).countP Task.isOpening = 0 ∧
      (l.tasks.set task .finished).countP Task.isClosing = 0 ∧
      ∀ n, l.connection.stream = some n → n ∈ l.shut := by
  have hstate := h.disconnecting htask
  have hnotOpening : Task.isOpening .finished = Task.isOpening (.closing n) := rfl
  refine ⟨?_, ?_, fun n hn => h.stale n hn (by rw [hstate]; exact nofun)⟩
  · rw [countP_moved htask hnotOpening, h.openings, hstate]
    rfl
  · rw [countP_finished htask rfl rfl, h.closings, hstate]
    rfl

/-- Where no task is at work, and a stream that the connection keeps is shut,
the connection may be disconnected. -/
theorem Single.rest {u : Lifecycle} (hopenings : u.tasks.countP Task.isOpening = 0)
    (hclosings : u.tasks.countP Task.isClosing = 0)
    (hstate : u.connection.state = .disconnected)
    (hstale : ∀ n, u.connection.stream = some n → n ∈ u.shut)
    (hkept : ∀ n ∈ u.opened, u.connection.stream = some n ∨ n ∈ u.handedOut ∨ n ∈ u.shut) :
    Single u := by
  refine ⟨?_, ?_, fun n hn _ => hstale n hn, hkept⟩
  · rw [hopenings, hstate]
    rfl
  · rw [hclosings, hstate]
    rfl

/-- **Every stretch of work that disturbs no task keeps the tasks single.** -/
theorem single_step (h : Single l) (hp : Passage l act result)
    (hquiet : act = .detach → l.quiet = true) : Single result.1 := by
  cases hp with
  | idle => exact h
  | untrusted => exact ⟨h.openings, h.closings, h.stale, h.kept⟩
  | dial hstate =>
    refine ⟨?_, ?_, fun n hn _ => h.stale n hn (by rw [hstate]; exact nofun), h.kept⟩
    · rw [List.countP_append, h.openings, hstate]
      rfl
    · rw [List.countP_append, h.closings, hstate]
      rfl
  | refused htask | unnamed htask =>
    obtain ⟨hopenings, hclosings, hstale⟩ := h.opening_over htask rfl
    exact .rest hopenings hclosings rfl hstale h.kept
  | covered _ htask =>
    refine ⟨?_, ?_, h.stale, h.kept⟩
    · exact Eq.trans (countP_moved htask (by rfl)) h.openings
    · exact Eq.trans (countP_moved htask (by rfl)) h.closings
  | opened hs =>
    obtain ⟨place, htask, hplace⟩ := hs.isOpening
    obtain ⟨hopenings, hclosings, hstale⟩ := h.opening_over htask hplace
    refine ⟨hopenings, hclosings, fun _ _ hne => absurd rfl hne, ?_⟩
    refine List.forall_mem_cons.mpr ⟨Or.inl rfl, fun m hm => Or.inr ?_⟩
    -- a stream that was held before is one that is shut
    obtain hheld | hgone := h.kept m hm
    · exact Or.inr (hstale m hheld)
    · exact hgone
  | spoiled hs =>
    obtain ⟨place, htask, hplace⟩ := hs.isOpening
    obtain ⟨hopenings, hclosings, hstale⟩ := h.opening_over htask hplace
    exact .rest hopenings hclosings rfl (fun m hm => List.mem_cons_of_mem _ (hstale m hm))
      fun m hm => (h.kept m hm).imp_right (Or.imp_right (List.mem_cons_of_mem _))
  | @shut n hstate hstream =>
    refine ⟨?_, ?_, fun m hm _ => ?_,
      fun m hm => (h.kept m hm).imp_right (Or.imp_right (List.mem_cons_of_mem _))⟩
    · rw [List.countP_append, h.openings, hstate]
      rfl
    · rw [List.countP_append, h.closings, hstate]
      rfl
    · obtain rfl : n = m := Option.some.inj (hstream.symm.trans hm)
      exact List.mem_cons_self
  | shutBare hstate hstream =>
    have hopenings := h.openings
    have hclosings := h.closings
    rw [hstate] at hopenings hclosings
    refine .rest hopenings hclosings rfl (fun m hm => ?_) h.kept
    rw [hstream] at hm
    cases hm
  | closed htask _ hheld =>
    obtain ⟨hopenings, hclosings, hstale⟩ := h.closing_over htask
    obtain rfl | rfl := hheld
    · -- what the connection lets go of is shut, whichever stream it holds by now
      refine .rest hopenings hclosings rfl nofun fun m hm => Or.inr ?_
      obtain hheld | hgone := h.kept m hm
      · exact Or.inr (hstale m hheld)
      · exact hgone
    · exact .rest hopenings hclosings rfl hstale h.kept
  | @detach n _ hstream =>
    have hstate : l.connection.state = .connected ∨ l.connection.state = .disconnected := by
      have hq := hquiet rfl
      simpa [quiet, hstream] using hq
    have hopenings : l.tasks.countP Task.isOpening = 0 := by
      rw [h.openings]
      obtain hs | hs := hstate <;> rw [hs] <;> rfl
    have hclosings : l.tasks.countP Task.isClosing = 0 := by
      rw [h.closings]
      obtain hs | hs := hstate <;> rw [hs] <;> rfl
    refine .rest hopenings hclosings rfl nofun fun m hm => Or.inr ?_
    obtain hheld | hhanded | hshut := h.kept m hm
    · obtain rfl : n = m := Option.some.inj (hstream.symm.trans hheld)
      exact Or.inl List.mem_cons_self
    · exact Or.inl (List.mem_cons_of_mem _ hhanded)
    · exact Or.inr hshut
  | release => exact ⟨h.openings, h.closings, h.stale, h.kept⟩

theorem single_run (h : Single l) (hacts : l.undisturbed acts = true)
    (hrun : machine.run l acts = some (next, events)) : Single next := by
  -- from the front, as `undisturbed` follows the run
  induction acts generalizing l events with
  | nil =>
    obtain ⟨rfl, -⟩ : l = next ∧ [] = events := by simpa using hrun
    exact h
  | cons act acts ih =>
    obtain ⟨u, first, rest, hstep, hlater, -⟩ := Machine.run_cons_iff.mp hrun
    rw [undisturbed, hstep, Bool.and_eq_true] at hacts
    obtain ⟨hnow, hrest⟩ := hacts
    refine ih (single_step h (passage_of_step hstep) ?_) hrest hlater
    rintro rfl
    exact hnow

theorem Single.dialedOnce (h : Single l) : DialedOnce l := by
  refine ⟨?_, h.kept⟩
  rw [h.openings]
  split
  · exact Nat.le_refl 1
  · exact Nat.zero_le 1

/-- **A connection is dialed at most once at a time, and no stream is lost**, as
long as its stream is never taken out while a task opens or closes it. -/
theorem dialed_once_undisturbed {transport : Transport}
    (h : machine.run (start (.new transport)) acts = some (l, events))
    (hacts : (start (.new transport)).undisturbed acts = true) : DialedOnce l :=
  (single_run (single_start transport) hacts h).dialedOnce

/-- A stream is handed out while connected. The next one is still held when its
close is cancelled, and the one after that takes its place. -/
def inTurn : List Act :=
  [.start (.ok .client), .delivered 0 (.ok { leg := {} }), .detach, .start (.ok .client),
    .delivered 1 (.ok { leg := { closeHeld := true } }), .shut, .start (.ok .client), .cancel 2,
    .start (.ok .client), .start (.ok .client), .delivered 3 (.ok { leg := {} })]

theorem inTurn_dialed_once :
    ∃ l events, machine.run (start (.new .custom)) inTurn = some (l, events) ∧
      (start (.new .custom)).undisturbed inTurn = true ∧ DialedOnce l ∧
      l.opened = [2, 1, 0] ∧ l.connection.stream = some 2 ∧ l.shut = [1] ∧ l.handedOut = [0] := by
  obtain ⟨⟨l, events⟩, h⟩ := Option.isSome_iff_exists.mp
    (show (machine.run (start (.new .custom)) inTurn).isSome = true by decide +kernel)
  have hacts : (start (.new .custom)).undisturbed inTurn = true := by decide +kernel
  refine ⟨l, events, h, hacts, dialed_once_undisturbed h hacts, ?_⟩
  obtain ⟨rfl, -⟩ := Prod.mk.inj (Option.some.inj h)
  exact ⟨rfl, rfl, rfl, rfl⟩

end Lifecycle

end TunnelRelay
