import TunnelRelay.Proofs.Reopening
/-!
# Trying a busy pipe again

A pipe whose instances are all busy is tried again until it opens or fails for
another reason, with the same pause between any two tries (`dialFrom_retries`).
A fault of making a stream of the handle is no reason to try again, whatever it
says. A delay that is negative or no number is refused: it ends the opening where
the pause should begin (`dial_refused`). One without end lets the opening wait there
for ever (`dial_endless`).

Every handle that a pipe has given is passed on once. With the usual maker it
is given back once, or belongs to a stream that the connection holds or has
handed out (`Retrying`).
-/

namespace TunnelRelay.Pipe

variable {address : Option String} {pause : Delay} {units : Int} {attempts : Nat}
variable {busy : List Fault} {fault reason : Fault} {last : Except Fault Int}
variable {later results : List (Except Fault Int)}

/-! ## Tries and pauses -/

/-- Whether an event is a try or a pause; what is logged is neither. -/
def Event.isTry : Event → Bool
  | .request _ | .pause _ | .pauseForEver => true
  | .log _ => false

/-- The tries and the pauses among events, in order. -/
def tries (events : List Event) : List Event := events.filter Event.isTry

/-- Whether no more tries follow a result. -/
def settles : Except Fault Int → Bool
  | .ok _ => true
  | .error fault => !isBusy fault

theorem dialFrom_settled (h : settles last = true) (later : List (Except Fault Int)) :
    dialFrom address pause attempts (last :: later) =
      { attempts := attempts + 1, result := some last, unused := later
        events := [.request { address }] } := by
  cases last with
  | ok handle => rfl
  | error fault =>
    have hother : isBusy fault = false := by simpa [settles] using h
    simp [dialFrom, hother]

theorem dialFrom_busy (hbusy : isBusy fault = true) (hpause : pause.wait = .lasts units)
    (results : List (Except Fault Int)) :
    dialFrom address pause attempts (.error fault :: results) =
      let rest := dialFrom address pause (attempts + 1) results
      { rest with
        events := .request { address } :: .log (busyRecord address) :: .pause units ::
          rest.events } := by
  simp [dialFrom, hbusy, hpause]

/-- **The tries of a dial** that is given some busy results and then one that is
not. -/
structure Retried (address : Option String) (units : Int) (attempts k : Nat)
    (last : Except Fault Int) (later : List (Except Fault Int)) (dialed : Dialed) : Prop where
  attempts_eq : dialed.attempts = attempts + (k + 1)
  result_eq : dialed.result = some last
  unused_eq : dialed.unused = later
  /-- Between any two tries there is a pause, and none before the first or after
  the last. -/
  tries_eq : tries dialed.events =
    (List.replicate (k + 1) (.request { address })).intersperse (.pause units)

theorem dialFrom_retries (hbusy : ∀ fault ∈ busy, isBusy fault = true)
    (hlast : settles last = true) (hpause : pause.wait = .lasts units ∨ busy = []) :
    Retried address units attempts busy.length last later
      (dialFrom address pause attempts (busy.map .error ++ last :: later)) := by
  -- on the busy results, each of which is a try more
  induction busy generalizing attempts with
  | nil =>
    rw [List.map_nil, List.nil_append, dialFrom_settled hlast]
    exact ⟨rfl, rfl, rfl, rfl⟩
  | cons fault busy ih =>
    obtain ⟨hfault, hrest⟩ := List.forall_mem_cons.mp hbusy
    have hlasts : pause.wait = .lasts units := hpause.resolve_right (List.cons_ne_nil _ _)
    rw [List.map_cons, List.cons_append, dialFrom_busy hfault hlasts]
    have hih := @ih (attempts + 1) hrest (Or.inl hlasts)
    refine ⟨?_, hih.result_eq, hih.unused_eq, ?_⟩
    · rw [hih.attempts_eq, List.length_cons]
      omega
    · -- one try more, with the pause after it
      exact congrArg ([.request { address }, .pause units] ++ ·) hih.tries_eq

/-- **A delay that is no time to wait ends the dial.** -/
theorem dial_refused (hbusy : isBusy fault = true) (hpause : pause.wait = .refused reason)
    (later : List (Except Fault Int)) :
    dial address pause (.error fault :: later) =
      { attempts := 1, result := some (.error reason), unused := later
        events := [.request { address }, .log (busyRecord address)] } := by
  simp [dial, dialFrom, hbusy, hpause]

/-- **A delay without end leaves the dial without one.** -/
theorem dial_endless (hbusy : isBusy fault = true) (hpause : pause.wait = .never)
    (later : List (Except Fault Int)) :
    dial address pause (.error fault :: later) =
      { attempts := 1, result := none, unused := later
        events := [.request { address }, .log (busyRecord address), .pauseForEver] } := by
  simp [dial, dialFrom, hbusy, hpause]

/-- The handles among results. -/
def handlesOf (results : List (Except Fault Int)) : List Int := results.filterMap Except.toOption

/-- **A dial uses the results in turn**, and the handle that it gives is the only
one among those that it has used. -/
theorem handles_dialFrom (address : Option String) (pause : Delay) (attempts : Nat)
    (results : List (Except Fault Int)) :
    handlesOf results =
      ((dialFrom address pause attempts results).result.bind Except.toOption).toList ++
        handlesOf (dialFrom address pause attempts results).unused := by
  induction results generalizing attempts with
  | nil => rfl
  | cons result results ih =>
    cases result with
    | ok handle => rfl
    | error fault =>
      have hskip : handlesOf (.error fault :: results) = handlesOf results := rfl
      rw [hskip]
      simp only [dialFrom]
      split
      · split
        · exact ih (attempts + 1)
        · rfl
        · rfl
      · rfl

namespace Connection

variable {c : Connection} {maker : Maker} {stream : Stream} {s t : Supplied} {call : Call}
variable {calls : List Call} {events more : List Event} {plan : List (Except Fault Int)}

/-! ## Handles -/

/-- The handles of the streams that are open. -/
def openHandles (streams : List Stream) : List Int := streams.filterMap Stream.handle

/-- A stream that is closed gives up its handle, and the others keep theirs. -/
theorem openHandles_set {streams : List Stream} {n : Nat} (hstream : streams[n]? = some stream) :
    (openHandles streams).Perm
      (stream.handle.toList ++ openHandles (streams.set n { stream with handle := none })) := by
  obtain ⟨others, hbefore, hafter⟩ := perm_set hstream { stream with handle := none } Stream.handle
  exact hbefore.trans (hafter.symm.append_left _)

/-- The usual maker gives the handle back if it cannot be registered. -/
theorem givenBack_overlapped (registration : Option Fault) (handle : Int) :
    Stream.givenBack (overlapped registration handle).2 =
      if registration.isSome then [handle] else [] := by
  cases registration <;> rfl

/-- What it gives is balanced: the handle is given back or that of the stream. -/
theorem balanced_overlapped (registration : Option Fault) (handle : Int) :
    match overlapped registration handle with
    | (.error _, made) => Stream.givenBack made = [handle]
    | (.ok stream, made) => Stream.givenBack made = [] ∧ stream.handle = some handle := by
  cases registration with
  | none => exact ⟨rfl, rfl⟩
  | some fault => rfl

/-- Whether the call uses the usual maker, if any. -/
def Call.IsUsual : Call → Prop
  | .connect maker => ∃ registration, maker = overlapped registration
  | .close | .detach => True

/-- **No call loses a handle**: one that is passed on is given back or belongs to
an open stream. -/
theorem accounted_step (hp : Passage address s call t more) (hcall : call.IsUsual) :
    (passed more ++ openHandles s.connection.streams).Perm
      (givenBack more ++ openHandles t.connection.streams) := by
  cases hp with
  | idle => exact .refl _
  | endless | refused =>
    rw [passed_told, givenBack, uses_told]
    exact .refl _
  | @spoiled _ handle _ _ _ _ _ _ hmade =>
    obtain ⟨registration, rfl⟩ := hcall
    have hgiven := balanced_overlapped registration handle
    rw [hmade] at hgiven
    rw [passed_told, givenBack, uses_told, hgiven]
    exact .refl _
  | @opened _ handle stream _ _ _ _ _ hmade =>
    obtain ⟨registration, rfl⟩ := hcall
    have hgiven := balanced_overlapped registration handle
    rw [hmade] at hgiven
    have hmore : openHandles (s.connection.streams ++ [stream]) =
        openHandles s.connection.streams ++ [handle] := by
      simp [openHandles, hgiven.2]
    rw [passed_told, givenBack, uses_told, hgiven.1]
    exact List.perm_append_comm.trans (.of_eq hmore.symm)
  | shut _ hstream _ hgiven =>
    rw [passed_told, givenBack, uses_told, hgiven]
    exact openHandles_set hstream
  | detached =>
    rw [passed_told, givenBack, uses_told]
    exact .refl _

theorem accounted_run
    (h : Supplied.machine.run ⟨new address pause, plan⟩ calls = some (s, events))
    (hcalls : ∀ call ∈ calls, call.IsUsual) :
    (passed events).Perm (givenBack events ++ openHandles s.connection.streams) := by
  refine Machine.run_induction_of (P := fun s _ events =>
    (passed events).Perm (givenBack events ++ openHandles s.connection.streams))
    (.refl _) ?_ h hcalls
  intro u v call calls events more hrun hu hstep hcall
  have hp := passage_of_step (steady_run hrun) hstep
  rw [passed_append, givenBack_append, List.append_assoc]
  -- what is passed now is set against the handles of before
  refine (hu.append_right _).trans ?_
  rw [List.append_assoc]
  exact (List.perm_append_comm.trans (accounted_step hp hcall)).append_left _

/-- **Every handle that the pipe gives is passed on.** -/
theorem returned_step (hp : Passage address s call t more) :
    handlesOf s.results = passed more ++ handlesOf t.results := by
  have hdial := handles_dialFrom address s.connection.pause 0 s.results
  cases hp with
  | idle => rfl
  | endless _ hdialed hresult | refused _ hdialed hresult | spoiled _ hdialed hresult
  | opened _ hdialed hresult =>
    subst hdialed
    rw [← dial, hresult] at hdial
    rw [passed_told]
    exact hdial
  | shut | detached =>
    rw [passed_told]
    rfl

theorem returned_run
    (h : Supplied.machine.run ⟨new address pause, plan⟩ calls = some (s, events)) :
    handlesOf plan = passed events ++ handlesOf s.results := by
  refine Machine.run_induction
    (P := fun s _ events => handlesOf plan = passed events ++ handlesOf s.results) rfl ?_ h
  intro u v call calls events more hrun hu hstep
  have hp := passage_of_step (steady_run hrun) hstep
  rw [hu, returned_step hp, passed_append, List.append_assoc]

/-! ## Openings and handles -/

/-- **An opening that fails** with the given fault: the connection is
disconnected and holds no stream, and a fault of the system is raised as the
cause of a failure to dial. -/
structure Failed (c : Connection) (events : List Event) (fault : Fault) : Prop where
  disconnected : c.state = .disconnected
  empty : c.held = none
  raised : endings events = [(.opening, .failed (Opening.report fault))]
  caused : fault.kind.isSystem = true → (Opening.report fault).kind = .dialFailure ∧
    (Opening.report fault).cause = some fault

/-- **An opening that succeeds** with the given stream. -/
structure Succeeded (c : Connection) (events : List Event) (stream : Stream) : Prop where
  connected : c.state = .connected
  held : ∃ n, c.held = some n ∧ c.streams[n]? = some stream
  returned : endings events = [(.opening, .done)]

/-- **How often an opening tries** that is given `k` busy results and then one
that is not. -/
structure Tried (address : Option String) (units : Int) (k : Nat) (last : Except Fault Int)
    (later : List (Except Fault Int)) (t : Supplied) (events : List Event) : Prop where
  attempts_eq : t.connection.lifecycle.connection.attempts = k + 1
  tries_eq : tries (events.filterMap Event.dial?) =
    (List.replicate (k + 1) (.request { address })).intersperse (.pause units)
  unused_eq : t.results = later
  /-- A handle is passed to the maker once, and nothing else is. -/
  passed_eq : passed events = last.toOption.toList

/-- **What an opening comes to** whose last result is the given one. -/
structure Opens (maker : Maker) (last : Except Fault Int) (c : Connection) (events : List Event) :
    Prop where
  refused : ∀ fault, last = .error fault → Failed c events fault
  /-- A fault of the maker ends the opening, whichever it is. -/
  spoiled : ∀ handle fault made, last = .ok handle → maker handle = (.error fault, made) →
    Failed c events fault
  opened : ∀ handle stream made, last = .ok handle → maker handle = (.ok stream, made) →
    Succeeded c events stream
  /-- The usual maker gives back the handle of which it cannot make a stream. -/
  given_back : ∀ registration, maker = overlapped registration →
    givenBack events = if registration.isSome then last.toOption.toList else []

/-- **An opening that is left at its first try.** -/
structure Abandoned (address : Option String) (pauses : List Pipe.Event)
    (later : List (Except Fault Int)) (t : Supplied) (events : List Event) : Prop where
  attempts_eq : t.connection.lifecycle.connection.attempts = 1
  tries_eq : tries (events.filterMap Event.dial?) = .request { address } :: pauses
  unused_eq : t.results = later
  passed_eq : passed events = []

/-- **What holds of a connection to a pipe after any calls**, given all results of
trying to open the pipe. -/
structure Retrying (address : Option String) (pause : Delay) (plan : List (Except Fault Int))
    (calls : List Call) (s : Supplied) (events : List Event) : Prop where
  settled : s.connection.state = .disconnected ∨ s.connection.state = .connected ∨
    s.connection.state = .connecting ∧ pause.wait = .never
  /-- Whenever it is disconnected and opened, it is tried until it is no longer
  busy. -/
  opens : s.connection.state = .disconnected →
    ∀ (maker : Maker) (units : Int) (busy : List Fault) (last : Except Fault Int)
      (later : List (Except Fault Int)), s.results = busy.map .error ++ last :: later →
      (∀ fault ∈ busy, isBusy fault = true) → settles last = true →
      pause.wait = .lasts units ∨ busy = [] →
      ∃ t more, Supplied.machine.step s (.connect maker) = some (t, more) ∧
        Tried address units busy.length last later t more ∧ Opens maker last t.connection more
  /-- But a delay that is refused ends the opening after the first try, -/
  gives_up : s.connection.state = .disconnected → ∀ reason, pause.wait = .refused reason →
    ∀ (maker : Maker) (fault : Fault) (later : List (Except Fault Int)),
      s.results = .error fault :: later → isBusy fault = true →
      ∃ t more, Supplied.machine.step s (.connect maker) = some (t, more) ∧
        Abandoned address [] later t more ∧ Failed t.connection more reason
  /-- and with one that has no end it is never tried again, and nobody is answered. -/
  hangs : s.connection.state = .disconnected → pause.wait = .never →
    ∀ (maker : Maker) (fault : Fault) (later : List (Except Fault Int)),
      s.results = .error fault :: later → isBusy fault = true →
      ∃ t more, Supplied.machine.step s (.connect maker) = some (t, more) ∧
        Abandoned address [.pauseForEver] later t more ∧
        t.connection.state = .connecting ∧ endings more = []
  /-- From then on it stays as it is, and is opened by nobody else. -/
  waits : s.connection.state = .connecting → ∀ call, ∃ event,
    Supplied.machine.step s call = some (s, [.lifecycle event]) ∧
      ∀ maker, call = .connect maker →
        event = .ended .opening (.failed (Connection.busyFault .connecting))
  /-- While it is connected there is nothing to open. -/
  stays : s.connection.state = .connected → ∀ maker,
    Supplied.machine.step s (.connect maker) = some (s, [.lifecycle (.ended .opening .done)])
  /-- Every handle that the pipe has given has been passed to a maker, in turn. -/
  returned : handlesOf plan = passed events ++ handlesOf s.results
  /-- With the usual maker each of these is given back once, or is that of a
  stream that is open. -/
  accounted : (∀ call ∈ calls, call.IsUsual) →
    (passed events).Perm (givenBack events ++ openHandles s.connection.streams)
  /-- A stream that is open is held, or was handed out. -/
  owned : ∀ (n : Nat) (stream : Stream), s.connection.streams[n]? = some stream →
    stream.closed = false → s.connection.held = some n ∨ n ∈ s.connection.lifecycle.handedOut

theorem failed_of_told (address : Option String) (dialed : List Pipe.Event) (given : List Int)
    (made : List Stream.Event) (fault : Fault) (hstate : c.state = .disconnected)
    (hheld : c.held = none) :
    Failed c (told (beginning address) dialed given made (failing fault)) fault := by
  refine ⟨hstate, hheld, ?_, fun hsystem => ?_⟩
  · rw [endings, lifecycle_told]
    rfl
  · rw [Opening.report_dial (Or.inl hsystem)]
    exact ⟨rfl, rfl⟩

theorem succeeded_of_told (h : Steady address pause c) (attempts : Nat) (stream : Stream)
    (dialed : List Pipe.Event) (given : List Int) (made : List Stream.Event) :
    Succeeded (c.opened attempts stream) (told (beginning address) dialed given made succeeding)
      stream := by
  refine ⟨rfl, ⟨_, rfl, ?_⟩, ?_⟩
  · rw [Connection.opened, ← h.numbered]
    exact List.getElem?_concat_length
  · rw [endings, lifecycle_told]
    rfl

theorem tried_of_told {k : Nat} {dialed : Dialed} (h : Retried address units 0 k last later dialed)
    (hattempts : t.connection.lifecycle.connection.attempts = dialed.attempts)
    (hresults : t.results = dialed.unused) {given : List Int}
    (hgiven : given = last.toOption.toList) (made : List Stream.Event)
    (ending : List Lifecycle.Event) :
    Tried address units k last later t
      (told (beginning address) dialed.events given made ending) := by
  refine ⟨?_, ?_, hresults.trans h.unused_eq, ?_⟩
  · rw [hattempts, h.attempts_eq, Nat.zero_add]
  · rw [dial_told]
    exact h.tries_eq
  · rw [passed_told, hgiven]

theorem givenBack_of_usual {registration : Option Fault} (husual : maker = overlapped registration)
    {handle : Int} {result : Except Fault Stream} {made : List Stream.Event}
    (hmade : maker handle = (result, made)) (first : List Lifecycle.Event)
    (dialed : List Pipe.Event) (ending : List Lifecycle.Event) :
    givenBack (told first dialed [handle] made ending) =
      if registration.isSome then [handle] else [] := by
  have hgiven := givenBack_overlapped registration handle
  rw [← husual, hmade] at hgiven
  rw [givenBack, uses_told]
  exact hgiven

/-- An opening that gets no handle fails, -/
theorem opens_of_refused {events : List Event} (hfailed : Failed c events fault)
    (hkept : givenBack events = []) : Opens maker (.error fault) c events where
  refused other hother := by
    obtain rfl := Except.error.inj hother
    exact hfailed
  spoiled _ _ _ hother := by cases hother
  opened _ _ _ hother := by cases hother
  given_back registration _ := by
    rw [hkept]
    split <;> rfl

/-- and so does one whose maker fails, -/
theorem opens_of_spoiled {handle : Int} {made : List Stream.Event} {events : List Event}
    (hmade : maker handle = (.error fault, made)) (hfailed : Failed c events fault)
    (hgiven : ∀ registration, maker = overlapped registration →
      givenBack events = if registration.isSome then [handle] else []) :
    Opens maker (.ok handle) c events where
  refused _ hother := by cases hother
  spoiled other cause made' hother hcause := by
    -- the dial is over, and nobody asks whether this fault says busy
    obtain rfl := Except.ok.inj hother
    obtain ⟨rfl, -⟩ : fault = cause ∧ made = made' := by simpa [hmade] using hcause
    exact hfailed
  opened other stream made' hother hstream := by
    obtain rfl := Except.ok.inj hother
    rw [hmade] at hstream
    cases hstream
  given_back := hgiven

/-- while one whose maker makes a stream succeeds. -/
theorem opens_of_made {handle : Int} {stream : Stream} {made : List Stream.Event}
    {events : List Event} (hmade : maker handle = (.ok stream, made))
    (hsucceeded : Succeeded c events stream)
    (hgiven : ∀ registration, maker = overlapped registration →
      givenBack events = if registration.isSome then [handle] else []) :
    Opens maker (.ok handle) c events where
  refused _ hother := by cases hother
  spoiled other cause made' hother hcause := by
    obtain rfl := Except.ok.inj hother
    rw [hmade] at hcause
    cases hcause
  opened other stream' made' hother hstream := by
    obtain rfl := Except.ok.inj hother
    obtain ⟨rfl, -⟩ : stream = stream' ∧ made = made' := by simpa [hmade] using hstream
    exact hsucceeded
  given_back := hgiven

/-- **An opening tries until the pipe is no longer busy**, and then has a stream
made of the handle, if there is one. -/
theorem opens_of_busy (h : Steady address pause s.connection)
    (hstate : s.connection.state = .disconnected) {maker : Maker}
    (hresults : s.results = busy.map .error ++ last :: later)
    (hbusy : ∀ fault ∈ busy, isBusy fault = true) (hlast : settles last = true)
    (hpause : pause.wait = .lasts units ∨ busy = [])
    (hp : Passage address s (.connect maker) t more) :
    Tried address units busy.length last later t more ∧ Opens maker last t.connection more := by
  have hretried : Retried address units 0 busy.length last later
      (dial address s.connection.pause s.results) := by
    rw [h.pause_eq, hresults]
    exact dialFrom_retries hbusy hlast hpause
  have hnone := h.held_eq_none (by simp [hstate])
  cases hp with
  | idle hother => exact absurd hstate (hother maker rfl)
  | endless _ hdialed hresult =>
    rw [hdialed, hretried.result_eq] at hresult
    cases hresult
  | @refused _ fault _ _ hdialed hresult =>
    subst hdialed
    obtain rfl : last = .error fault := Option.some.inj (hretried.result_eq.symm.trans hresult)
    refine ⟨tried_of_told hretried rfl rfl rfl _ _,
      opens_of_refused (failed_of_told _ _ _ _ _ rfl hnone) ?_⟩
    rw [givenBack, uses_told]
    rfl
  | @spoiled _ handle _ _ _ _ hdialed hresult hmade =>
    subst hdialed
    obtain rfl : last = .ok handle := Option.some.inj (hretried.result_eq.symm.trans hresult)
    exact ⟨tried_of_told hretried rfl rfl rfl _ _,
      opens_of_spoiled hmade (failed_of_told _ _ _ _ _ rfl hnone)
        fun _ husual => givenBack_of_usual husual hmade _ _ _⟩
  | @opened _ handle _ _ _ _ hdialed hresult hmade =>
    subst hdialed
    obtain rfl : last = .ok handle := Option.some.inj (hretried.result_eq.symm.trans hresult)
    exact ⟨tried_of_told hretried rfl rfl rfl _ _,
      opens_of_made hmade (succeeded_of_told h _ _ _ _ _)
        fun _ husual => givenBack_of_usual husual hmade _ _ _⟩

/-- **Where it cannot pause, an opening tries once**, -/
theorem gives_up_of_busy (h : Steady address pause s.connection)
    (hstate : s.connection.state = .disconnected) (hpause : pause.wait = .refused reason)
    {maker : Maker} (hresults : s.results = .error fault :: later) (hbusy : isBusy fault = true)
    (hp : Passage address s (.connect maker) t more) :
    Abandoned address [] later t more ∧ Failed t.connection more reason := by
  have hdial : dial address pause (.error fault :: later) = _ := dial_refused hbusy hpause later
  rw [← hresults, ← h.pause_eq] at hdial
  cases hp with
  | idle hother => exact absurd hstate (hother maker rfl)
  | refused _ hdialed hresult =>
    rw [hdial] at hdialed
    subst hdialed
    obtain rfl := Except.error.inj (Option.some.inj hresult)
    refine ⟨⟨rfl, ?_, rfl, passed_told _ _ _ _ _⟩,
      failed_of_told _ _ _ _ _ rfl (h.held_eq_none (by simp [hstate]))⟩
    rw [dial_told]
    rfl
  | endless _ hdialed hresult | spoiled _ hdialed hresult | opened _ hdialed hresult =>
    rw [hdialed, hdial] at hresult
    cases hresult

/-- and so it does where the pause has no end. -/
theorem hangs_of_busy (h : Steady address pause s.connection)
    (hstate : s.connection.state = .disconnected) (hpause : pause.wait = .never) {maker : Maker}
    (hresults : s.results = .error fault :: later) (hbusy : isBusy fault = true)
    (hp : Passage address s (.connect maker) t more) :
    Abandoned address [.pauseForEver] later t more ∧ t.connection.state = .connecting ∧
      endings more = [] := by
  have hdial : dial address pause (.error fault :: later) = _ := dial_endless hbusy hpause later
  rw [← hresults, ← h.pause_eq] at hdial
  cases hp with
  | idle hother => exact absurd hstate (hother maker rfl)
  | endless _ hdialed =>
    rw [hdial] at hdialed
    subst hdialed
    refine ⟨⟨rfl, ?_, rfl, passed_told _ _ _ _ _⟩, rfl, ?_⟩
    · rw [dial_told]
      rfl
    · rw [endings, lifecycle_told]
      rfl
  | refused _ hdialed hresult | spoiled _ hdialed hresult | opened _ hdialed hresult =>
    rw [hdialed, hdial] at hresult
    cases hresult

/-- **What waits for ever goes on doing so**, whoever calls. -/
theorem waits_of_connecting (h : Steady address pause s.connection)
    (hstate : s.connection.state = .connecting) (call : Call) : ∃ event,
    Supplied.machine.step s call = some (s, [.lifecycle event]) ∧
      ∀ maker, call = .connect maker →
        event = .ended .opening (.failed (Connection.busyFault .connecting)) := by
  cases call with
  | connect maker =>
    refine ⟨_, ?_, fun _ _ => rfl⟩
    rw [step_connect, connectBy_connecting hstate]
  | close =>
    have hclose := close_idle (c := s.connection) (by simp [hstate])
    refine ⟨.ended .closing .done, ?_, nofun⟩
    show some ({ s with connection := s.connection.close.1 }, s.connection.close.2) = _
    rw [hclose]
  | detach =>
    have hdetach := detach_empty (h.held_eq_none (by simp [hstate]))
    refine ⟨.ended .detaching (.failed Connection.notOpenFault), ?_, nofun⟩
    show some ({ s with connection := s.connection.detach.1 }, s.connection.detach.2) = _
    rw [hdetach]

/-- **A busy pipe is tried again until it opens or fails for another reason**, as
long as there is a pause to make, and no handle that it gives is lost. -/
theorem retries_while_busy
    (h : Supplied.machine.run ⟨new address pause, plan⟩ calls = some (s, events)) :
    Retrying address pause plan calls s events := by
  have hsteady := steady_run h
  have hconnect (maker : Maker) := passage_of_step hsteady (step_connect s maker)
  exact
    { settled := by
        obtain ⟨hstate, -⟩ | ⟨n, hstate, -⟩ | ⟨hstate, -, hnever⟩ := hsteady.settled
        · exact Or.inl hstate
        · exact Or.inr (Or.inl hstate)
        · exact Or.inr (Or.inr ⟨hstate, hnever⟩)
      opens := fun hstate maker units busy last later hresults hbusy hlast hpause =>
        ⟨_, _, step_connect s maker,
          opens_of_busy hsteady hstate hresults hbusy hlast hpause (hconnect maker)⟩
      gives_up := fun hstate reason hpause maker fault later hresults hbusy =>
        ⟨_, _, step_connect s maker,
          gives_up_of_busy hsteady hstate hpause hresults hbusy (hconnect maker)⟩
      hangs := fun hstate hpause maker fault later hresults hbusy =>
        ⟨_, _, step_connect s maker,
          hangs_of_busy hsteady hstate hpause hresults hbusy (hconnect maker)⟩
      waits := fun hstate => waits_of_connecting hsteady hstate
      stays := fun hstate maker => by rw [step_connect, connectBy_connected hstate]
      returned := returned_run h
      accounted := accounted_run h
      owned := hsteady.owned }

/-- What a pipe gives whose instances are all busy. -/
def allBusy : Fault :=
  .mk (.system (.windows (some busyCode))) [.string "All pipe instances are busy"] none

/-- One opening after two busy results, one whose handle cannot be registered
because something is busy, and one that fails. -/
def reopened : List Call :=
  [.connect (overlapped none), .close, .connect (overlapped (some allBusy)),
    .connect (overlapped none)]

/-- What trying to open the pipe gives meanwhile, and one handle more. -/
def givenResults : List (Except Fault Int) :=
  [.error allBusy, .error allBusy, .ok 5, .ok 6, .error allBusy,
    .error (.ofNumber 2 "The system cannot find the file"), .error allBusy, .ok 7]

theorem reopened_retries :
    ∃ s events,
      Supplied.machine.run ⟨new (some "a"), givenResults⟩ reopened = some (s, events) ∧
      Retrying (some "a") defaultPause givenResults reopened s events ∧
      s.connection.state = .disconnected ∧ s.results = [.error allBusy, .ok 7] ∧
      passed events = [5, 6] ∧ givenBack events = [5, 6] := by
  obtain ⟨⟨s, events⟩, h⟩ := Option.isSome_iff_exists.mp
    (show (Supplied.machine.run ⟨new (some "a"), givenResults⟩ reopened).isSome = true by
      decide +kernel)
  refine ⟨s, events, h, retries_while_busy h, ?_⟩
  obtain ⟨rfl, rfl⟩ := Prod.mk.inj (Option.some.inj h)
  exact ⟨rfl, rfl, rfl, rfl⟩

/-- **A pause of negative length is no pause**: the pipe is busy once and would
open then, but is not tried again. -/
theorem negative_pause_gives_up :
    isBusy allBusy = true ∧
      ∃ t more, Supplied.machine.step ⟨new (some "") (-50 : Int), [.error allBusy, .ok 1002]⟩
          (.connect (overlapped none)) = some (t, more) ∧
        ¬Tried (some "") (-50) 1 (.ok 1002) [] t more ∧
        t.connection.lifecycle.connection.attempts = 1 ∧ passed more = [] ∧
        t.connection.state = .disconnected ∧
        endings more = [(.opening, .failed negativePause)] := by
  refine ⟨by decide, _, _, rfl, fun h => ?_, rfl, rfl, rfl, rfl⟩
  have hattempts := h.attempts_eq
  revert hattempts
  decide

end Connection

end TunnelRelay.Pipe
