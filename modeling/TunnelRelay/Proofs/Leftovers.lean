import TunnelRelay.Proofs.Dialing
/-!
# What a failed close leaves behind

A connection that is disconnected should hold no stream. A close that goes
through sees to that, but one that fails or is cancelled makes the connection
disconnected and leaves the stream in it, where it stays until it is taken out
or another opening succeeds (`leftOver`). Nothing else leaves a stream behind:
as long as the calls on a connection are made one after the other
(`Successive`), a disconnected connection holds a stream exactly if one is left
over, and can be detached exactly then.
-/

namespace TunnelRelay

namespace Lifecycle

variable {l next : Lifecycle} {act : Act} {acts : List Act} {task n : Nat} {left : Bool}
variable {events more : List Event} {result : Lifecycle × List Event}
variable {state : Connection.State} {stream : Option Nat}

/-! ## One call after the other -/

/-- Whether the action makes a call on the connection. -/
def Act.isCall : Act → Bool
  | .start _ | .shut | .detach => true
  | .delivered _ _ | .handshaken _ _ | .closed _ | .cancel _ | .release => false

/-- Whether no task is at work. -/
def atRest (l : Lifecycle) : Bool := l.tasks.all (· = .finished)

/-- **Calls that are made one after the other**: each when the one before has
ended. -/
def Successive (l : Lifecycle) (acts : List Act) : Prop :=
  machine.allows (fun l act => !act.isCall || l.atRest) l acts = true

instance (l : Lifecycle) (acts : List Act) : Decidable (l.Successive acts) :=
  inferInstanceAs (Decidable (_ = true))

theorem atRest_countP (h : l.atRest = true) {p : Task → Bool} (hp : p .finished = false) :
    l.tasks.countP p = 0 := by
  refine List.countP_eq_zero.mpr fun place hplace => ?_
  obtain rfl : place = .finished := of_decide_eq_true (List.all_eq_true.mp h place hplace)
  rw [hp]
  exact Bool.false_ne_true

/-- A connection at rest is not in the middle of an opening or a close. -/
theorem Single.quiet_of_atRest (h : Single l) (hrest : l.atRest = true) : l.quiet = true := by
  have hopenings := h.openings
  have hclosings := h.closings
  rw [atRest_countP hrest rfl] at hopenings hclosings
  cases hstate : l.connection.state with
  | connected | disconnected => simp [quiet, hstate]
  | connecting =>
    rw [hstate] at hopenings
    cases hopenings
  | disconnecting =>
    rw [hstate] at hclosings
    cases hclosings

/-! ## What is left over -/

/-- Whether a stream is left over after the end of a call, given whether one was
before. -/
def leftBy (left : Bool) : Call × Result → Bool
  | (.closing, .failed _) | (.closing, .cancelled) => true
  | (.opening, .done) | (.detaching, .done) => false
  | (.opening, .failed _) | (.opening, .cancelled) | (.closing, .done)
  | (.detaching, .failed _) | (.detaching, .cancelled) => left

/-- **Whether a close that failed or was cancelled has left its stream over**,
given the ends of all calls. -/
def leftOver (ends : List (Call × Result)) : Bool := ends.foldl leftBy false

/-- Where every close goes through nothing is left over. -/
theorem leftOver_of_closes {ends : List (Call × Result)}
    (h : ∀ result, (.closing, result) ∈ ends → result = .done) : leftOver ends = false := by
  suffices hfold : ∀ left, left = false → ends.foldl leftBy left = false from hfold false rfl
  induction ends with
  | nil => exact fun _ hleft => hleft
  | cons ending ends ih =>
    intro left hleft
    refine ih (fun result hresult => h result (List.mem_cons_of_mem _ hresult)) _ ?_
    subst hleft
    obtain ⟨_ | _ | _, result⟩ := ending
    · cases result <;> rfl
    · rw [h result List.mem_cons_self]
      rfl
    · cases result <;> rfl

/-- What a connection holds in each of its states, given whether a stream is
left over. -/
def Accounts (connection : Connection) (left : Bool) : Prop :=
  match connection.state with
  | .connected | .disconnecting => left = false ∧ connection.stream.isSome = true
  | .disconnected | .connecting => connection.stream.isSome = left

/-- The end of a call that makes the connection disconnected. -/
theorem accounts_disconnected (l : Lifecycle) (call : Call) (ending : Result)
    (h : l.connection.stream.isSome = leftBy left (call, ending)) :
    Accounts (l.endCall .disconnected call ending).1.connection
      ((endings (l.endCall .disconnected call ending).2).foldl leftBy left) := by
  rw [endings_endCall]
  exact h

theorem accounts_beginOpening (h : Accounts l.connection left)
    (load : Trust.Outcome Trust.Context) :
    Accounts (l.beginOpening load).1.connection
      ((endings (l.beginOpening load).2).foldl leftBy left) := by
  cases hstate : l.connection.state with
  | connected =>
    simp only [Accounts, hstate] at h
    simp only [beginOpening, hstate, Accounts]
    exact ⟨rfl, h.2⟩
  | disconnected =>
    rcases htrust : Opening.askTrust l.connection.transport l.cache load with ⟨fault | guard, cache⟩
    · rw [beginOpening_untrusted hstate htrust]
      exact h
    · rw [beginOpening_dial hstate htrust]
      simp only [Accounts, hstate] at h
      exact h
  | connecting | disconnecting =>
    simp only [beginOpening, hstate]
    exact h

theorem accounts_afterStage (hstate : l.connection.state = .connecting)
    (h : l.connection.stream.isSome = left) (task n : Nat)
    (stage : Opening.Result × List Opening.Event) :
    Accounts (l.afterStage task n stage).1.connection
      ((endings (l.afterStage task n stage).2).foldl leftBy left) := by
  obtain ⟨_ | _ | ⟨fault, _ | leg⟩, events⟩ := stage
  · simp only [afterStage]
    rw [endings_ending]
    exact ⟨rfl, rfl⟩
  · simp only [afterStage]
    rw [endings_map_opening]
    simp only [Accounts, moveTask, hstate]
    exact h
  · simp only [afterStage, failOpening]
    rw [endings_ending]
    exact h
  · simp only [afterStage, failOpening]
    rw [endings_ending]
    exact h

theorem accounts_deliver {guard : Option Opening.Guard}
    (hstate : l.connection.state = .connecting) (h : l.connection.stream.isSome = left)
    (result : Except Fault Delivery) :
    Accounts (l.deliver task guard result).1.connection
      ((endings (l.deliver task guard result).2).foldl leftBy left) := by
  cases result with
  | error fault => exact accounts_disconnected _ _ _ h
  | ok delivery =>
    simp only [deliver]
    split
    · refine accounts_afterStage ?_ ?_ _ _ _
      · exact hstate
      · exact h
    · refine accounts_afterStage ?_ ?_ _ _ _
      · exact hstate
      · exact h

theorem accounts_closeStream (h : left = false ∧ l.connection.stream.isSome = true)
    (hclose : l.closeStream task n = some result) :
    Accounts result.1.connection ((endings result.2).foldl leftBy left) := by
  unfold closeStream at hclose
  split at hclose
  · cases hclose
  · split at hclose
    · cases hclose
    · obtain rfl := Option.some.inj hclose
      split
      · simp only
        rw [endings_closeEvents]
        exact h.2
      · simp only
        rw [endings_closeEvents]
        exact h.1.symm

theorem accounts_beginClosing (h : Accounts l.connection left) :
    Accounts l.beginClosing.1.connection ((endings l.beginClosing.2).foldl leftBy left) := by
  unfold beginClosing
  split
  · rename_i hstate hstream
    simp only [Accounts, hstate] at h
    rw [endings_setState]
    exact h
  · rename_i hstate hstream
    simp only [Accounts, hstate, hstream] at h
    cases h.2
  · exact h

theorem accounts_step (hsingle : Single l) (h : Accounts l.connection left)
    (hstep : machine.step l act = some result) :
    Accounts result.1.connection ((endings result.2).foldl leftBy left) := by
  have hopening {task : Nat} {place : Task} (htask : l.tasks[task]? = some place)
      (hplace : place.isOpening = true) : l.connection.stream.isSome = left := by
    simpa only [Accounts, hsingle.connecting htask hplace] using h
  have hclosing {task n : Nat} (htask : l.tasks[task]? = some (.closing n)) :
      left = false ∧ l.connection.stream.isSome = true := by
    simpa only [Accounts, hsingle.disconnecting htask] using h
  simp only [machine] at hstep
  cases act with
  | start load =>
    obtain rfl := Option.some.inj hstep
    exact accounts_beginOpening h load
  | shut =>
    obtain rfl := Option.some.inj hstep
    exact accounts_beginClosing h
  | detach =>
    obtain rfl := Option.some.inj hstep
    unfold detach
    split
    · exact h
    · exact accounts_disconnected _ _ _ rfl
  | delivered task result =>
    simp only [step] at hstep
    split at hstep
    · rename_i guard htask
      obtain rfl := Option.some.inj hstep
      exact accounts_deliver (hsingle.connecting htask rfl) (hopening htask rfl) result
    · cases hstep
  | handshaken task fault =>
    simp only [step] at hstep
    split at hstep
    · rename_i n guard htask
      obtain rfl := Option.some.inj hstep
      unfold handshake
      split
      · exact accounts_afterStage (hsingle.connecting htask rfl) (hopening htask rfl) _ _ _
      · exact h
    · cases hstep
  | closed task =>
    simp only [step] at hstep
    split at hstep
    · rename_i n htask
      exact accounts_closeStream (hclosing htask) hstep
    · cases hstep
  | cancel task =>
    simp only [step, cancel] at hstep
    split at hstep
    · rename_i htask
      obtain rfl := Option.some.inj hstep
      exact accounts_disconnected _ _ _ (hopening htask rfl)
    · rename_i htask
      obtain ⟨leg, -, rfl⟩ := Option.map_eq_some_iff.mp hstep
      have hheld := hopening htask rfl
      simp only [Opening.cancelHandshake, failOpening]
      split
      · rw [endings_ending]
        exact hheld
      · rw [endings_ending]
        exact hheld
    · rename_i htask
      obtain ⟨leg, -, rfl⟩ := Option.map_eq_some_iff.mp hstep
      simp only
      rw [endings_closeEvents]
      exact (hclosing htask).2
    · cases hstep
  | release =>
    obtain rfl := Option.some.inj hstep
    exact h

/-! ## Disconnected connections -/

/-- **What a disconnected connection holds**, given the ends of all calls. -/
structure Emptied (l : Lifecycle) (ends : List (Call × Result)) : Prop where
  /-- It holds a stream exactly if one is left over. -/
  holds_iff : l.connection.stream.isSome = true ↔ leftOver ends = true
  /-- Where every close went through it holds none. -/
  empty : (∀ result, (.closing, result) ∈ ends → result = .done) → l.connection.stream = none
  /-- If it holds none it refuses to be detached. -/
  refused : l.connection.stream = none →
    machine.step l .detach = some (l, [.ended .detaching (.failed Connection.notOpenFault)])
  /-- What is left over is a stream whose close has begun, and is handed out to
  whoever asks for it. -/
  left_over : ∀ n, l.connection.stream = some n → n ∈ l.shut ∧
    machine.step l .detach = some ({ l with
        connection := { l.connection with stream := none }
        handedOut := n :: l.handedOut }, [.ended .detaching .done])

theorem detach_none (hstream : l.connection.stream = none) :
    machine.step l .detach = some (l, [.ended .detaching (.failed Connection.notOpenFault)]) := by
  simp [machine, step, detach, hstream]

theorem detach_disconnected (hstate : l.connection.state = .disconnected)
    (hstream : l.connection.stream = some n) :
    machine.step l .detach = some ({ l with
        connection := { l.connection with stream := none }
        handedOut := n :: l.handedOut }, [.ended .detaching .done]) := by
  simp [machine, step, detach, endCall, setState, hstate, hstream]

theorem accounts_run {transport : Transport}
    (h : machine.run (start (.new transport)) acts = some (l, events))
    (hacts : (start (.new transport)).Successive acts) :
    Single l ∧ Accounts l.connection (leftOver (endings events)) := by
  refine Machine.run_induction_along
    (P := fun l _ events => Single l ∧ Accounts l.connection (leftOver (endings events)))
    ⟨single_start transport, rfl⟩ ?_ h hacts
  rintro u v act acts events more - ⟨hsingle, hu⟩ hstep hallowed
  refine ⟨single_step hsingle (passage_of_step hstep) ?_, ?_⟩
  · rintro rfl
    exact hsingle.quiet_of_atRest hallowed
  · rw [endings_append, leftOver, List.foldl_append]
    exact accounts_step hsingle hu hstep

/-- **A disconnected connection holds no stream unless a close has failed or
was cancelled**, as long as its calls are made one after the other. -/
theorem empty_unless_close_failed {transport : Transport}
    (h : machine.run (start (.new transport)) acts = some (l, events))
    (hacts : (start (.new transport)).Successive acts)
    (hstate : l.connection.state = .disconnected) : Emptied l (endings events) := by
  obtain ⟨hsingle, hheld⟩ := accounts_run h hacts
  simp only [Accounts, hstate] at hheld
  refine ⟨by rw [hheld], fun hcloses => ?_, detach_none, fun n hn => ?_⟩
  · rw [leftOver_of_closes hcloses] at hheld
    exact Option.not_isSome_iff_eq_none.mp (by rw [hheld]; exact Bool.false_ne_true)
  · have hshut := hsingle.stale n hn (by rw [hstate]; exact nofun)
    exact ⟨hshut, detach_disconnected hstate hn⟩

/-- The close of a stream fails. After that there is nothing to close, and the
next opening fails too. -/
def failedClose : List Act :=
  [.start (.ok .client),
    .delivered 0 (.ok { leg := { closeFault := some (.ofText (.system .general) "gone") } }),
    .shut, .closed 1, .shut, .start (.ok .client),
    .delivered 2 (.error (.ofNumber 111 "Connection refused"))]

theorem failedClose_emptied :
    ∃ l events, machine.run (start (.new .custom)) failedClose = some (l, events) ∧
      (start (.new .custom)).Successive failedClose ∧ l.connection.state = .disconnected ∧
      Emptied l (endings events) ∧ l.connection.stream = some 0 := by
  obtain ⟨⟨l, events⟩, h⟩ := Option.isSome_iff_exists.mp
    (show (machine.run (start (.new .custom)) failedClose).isSome = true by decide +kernel)
  have hacts : (start (.new .custom)).Successive failedClose := by decide +kernel
  have hstate : l.connection.state = .disconnected := by
    obtain ⟨rfl, -⟩ := Prod.mk.inj (Option.some.inj h)
    rfl
  refine ⟨l, events, h, hacts, hstate, empty_unless_close_failed h hacts hstate, ?_⟩
  obtain ⟨rfl, -⟩ := Prod.mk.inj (Option.some.inj h)
  rfl

/-- The close of a stream is cancelled while it is held up. -/
def cancelledClose : List Act :=
  [.start (.ok .client), .delivered 0 (.ok { leg := { closeHeld := true } }), .shut, .cancel 1]

/-- Whether calls made one after the other leave a stream in a disconnected
connection, which can then be detached. -/
def LeavesStream (acts : List Act) : Prop :=
  ∃ l events, machine.run (start (.new .custom)) acts = some (l, events) ∧
    (start (.new .custom)).Successive acts ∧ l.connection.state = .disconnected ∧
    l.connection.stream = some 0 ∧ ∃ u, machine.step l .detach = some (u, [.ended .detaching .done])

/-- **A failed close leaves its stream in a disconnected connection**, and so does
a cancelled one. -/
theorem failed_close_leaves_stream : LeavesStream failedClose ∧ LeavesStream cancelledClose :=
  ⟨⟨_, _, rfl, by decide +kernel, rfl, rfl, _, rfl⟩,
    ⟨_, _, rfl, by decide +kernel, rfl, rfl, _, rfl⟩⟩

end Lifecycle

end TunnelRelay
