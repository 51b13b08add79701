import TunnelRelay.Proofs.Stretches
/-!
# Who owns a stream

A stream that an opening has delivered belongs to the connection until it is
handed out or its close begins. The state of the connection does not tell
which: a close may go through long after others have moved on, a failed close
leaves its stream where it is, and two openings can overlap. What is true all
the same (`Owned`) speaks of each stream: one in its handshake is known to
nobody else, one that is held was opened and is not handed out, and one that
is held while the connection is connected is the last that was opened, with no
close begun. The last clause is what makes it safe to hand a stream out.
-/

namespace TunnelRelay

namespace Lifecycle

variable {l next : Lifecycle} {act : Act} {acts later : List Act} {task n i : Nat}
variable {streams : List Leg} {events more : List Event} {result : Lifecycle × List Event}
variable {tasks : List Task} {place other : Task}

/-! ## Places of tasks -/

theorem task_of_set (h : (tasks.set task place)[i]? = some other) :
    i = task ∧ other = place ∨ i ≠ task ∧ tasks[i]? = some other := by
  rw [List.getElem?_set] at h
  split at h
  · rename_i heq
    split at h
    · exact Or.inl ⟨heq.symm, (Option.some.inj h).symm⟩
    · cases h
  · rename_i hne
    exact Or.inr ⟨Ne.symm hne, h⟩

/-- Where a task has finished, all who are elsewhere are others, and are where
they were. -/
theorem task_of_finished (h : (tasks.set task .finished)[i]? = some other)
    (hother : other ≠ .finished) : i ≠ task ∧ tasks[i]? = some other := by
  obtain ⟨-, heq⟩ | hothers := task_of_set h
  · exact absurd heq hother
  · exact hothers

theorem task_of_append (h : (tasks ++ [place])[i]? = some other) :
    other = place ∨ tasks[i]? = some other := by
  rw [List.getElem?_append] at h
  split at h
  · exact Or.inr h
  · rw [List.getElem?_singleton] at h
    split at h
    · exact Or.inl (Option.some.inj h).symm
    · cases h

/-! ## The invariant -/

/-- **Who owns the streams of a connection.** -/
structure Owned (l : Lifecycle) : Prop where
  /-- What was opened or shut has been delivered. -/
  opened_lt : ∀ n ∈ l.opened, n < l.streams.length
  shut_lt : ∀ n ∈ l.shut, n < l.streams.length
  /-- The stream of a handshake is the task's own. -/
  handshake : ∀ (i n : Nat) (guard : Opening.Guard),
    l.tasks[i]? = some (.handshaking n guard) →
      n < l.streams.length ∧ n ∉ l.opened ∧ n ∉ l.shut
  /-- No two handshakes are made on one stream. -/
  apart : ∀ (i j n : Nat) (guard guard' : Opening.Guard),
    l.tasks[i]? = some (.handshaking n guard) → l.tasks[j]? = some (.handshaking n guard') → i = j
  /-- A task closes what was shut. -/
  closing : ∀ i n : Nat, l.tasks[i]? = some (.closing n) → n ∈ l.shut
  /-- What is held was opened, and is not handed out. -/
  held : ∀ n, l.connection.stream = some n → n ∈ l.opened ∧ n ∉ l.handedOut
  /-- What is held while connected was opened last, and is not shut. -/
  connected : l.connection.state = .connected →
    ∃ n, l.connection.stream = some n ∧ l.opened.head? = some n ∧ n ∉ l.shut
  shut_once : l.shut.Nodup
  handed_opened : ∀ n ∈ l.handedOut, n ∈ l.opened
  handed_once : l.handedOut.Nodup

theorem owned_start (transport : Transport) : Owned (start (.new transport)) where
  opened_lt := nofun
  shut_lt := nofun
  handshake := nofun
  apart := nofun
  closing := nofun
  held := nofun
  connected := nofun
  shut_once := List.nodup_nil
  handed_opened := nofun
  handed_once := List.nodup_nil

/-- The stream of a stage is new to the connection. -/
theorem Owned.fresh (h : Owned l) (hs : Stage l task n act streams) :
    n ∉ l.opened ∧ n ∉ l.shut := by
  cases hs with
  | dialed _ hn =>
    subst hn
    exact ⟨fun hmem => Nat.lt_irrefl _ (h.opened_lt _ hmem),
      fun hmem => Nat.lt_irrefl _ (h.shut_lt _ hmem)⟩
  | shaken htask | stopped htask => exact (h.handshake _ _ _ htask).2

/-- No other task has the stream of a stage. -/
theorem Owned.other_stream (h : Owned l) (hs : Stage l task n act streams) {m : Nat}
    {guard : Opening.Guard} (hi : i ≠ task)
    (hplace : l.tasks[i]? = some (.handshaking m guard)) : m ≠ n := by
  cases hs with
  | dialed _ hn => exact Nat.ne_of_lt (hn ▸ (h.handshake _ _ _ hplace).1)
  | shaken htask | stopped htask =>
    rintro rfl
    exact hi (h.apart _ _ _ _ _ hplace htask)

/-- What is true of the tasks stays so when one of them finishes. -/
theorem Owned.finish_task (h : Owned l) (task : Nat) : Owned (l.moveTask task .finished) :=
  { h with
    handshake := fun i n guard hi => h.handshake i n guard (task_of_finished hi nofun).2
    apart := fun i j n guard guard' hi hj =>
      h.apart i j n guard guard' (task_of_finished hi nofun).2 (task_of_finished hj nofun).2
    closing := fun i n hi => h.closing i n (task_of_finished hi nofun).2 }

/-- A dial or a close can be begun, the close of a stream that is shut. -/
theorem Owned.begin_task (h : Owned l) (place : Task)
    (hplace : place.isOpening = true → place.isDialing = true)
    (hclosing : ∀ n, place = .closing n → n ∈ l.shut) :
    Owned { l with tasks := l.tasks ++ [place] } := by
  have hbefore {i n : Nat} {guard : Opening.Guard}
      (hi : (l.tasks ++ [place])[i]? = some (.handshaking n guard)) :
      l.tasks[i]? = some (.handshaking n guard) := by
    obtain rfl | hi := task_of_append hi
    · cases hplace rfl
    · exact hi
  exact { h with
    handshake := fun i n guard hi => h.handshake i n guard (hbefore hi)
    apart := fun i j n guard guard' hi hj => h.apart i j n guard guard' (hbefore hi) (hbefore hj)
    closing := fun i n hi => by
      obtain rfl | hi := task_of_append hi
      · exact hclosing n rfl
      · exact h.closing i n hi }

/-- Streams may be changed, and more may come. -/
theorem Owned.with_streams (h : Owned l) (streams : List Leg)
    (hle : l.streams.length ≤ streams.length) :
    Owned { l with streams } :=
  { h with
    opened_lt := fun n hn => Nat.lt_of_lt_of_le (h.opened_lt n hn) hle
    shut_lt := fun n hn => Nat.lt_of_lt_of_le (h.shut_lt n hn) hle
    handshake := fun i n guard hi =>
      ⟨Nat.lt_of_lt_of_le (h.handshake i n guard hi).1 hle, (h.handshake i n guard hi).2⟩ }

/-- The task of a stage goes on to the handshake of its stream. -/
theorem Owned.begin_handshake (h : Owned l) (hs : Stage l task n act streams)
    (guard : Opening.Guard) :
    Owned { l with streams, tasks := l.tasks.set task (.handshaking n guard) } := by
  obtain ⟨hopened, hshut⟩ := h.fresh hs
  have hmore := h.with_streams streams hs.length_le
  exact { hmore with
    handshake := fun i m guard' hi => by
      obtain ⟨-, heq⟩ | ⟨-, hi⟩ := task_of_set hi
      · obtain ⟨rfl, -⟩ := Task.handshaking.inj heq
        exact ⟨hs.lt, hopened, hshut⟩
      · exact hmore.handshake i m guard' hi
    apart := fun i j m guard' guard'' hi hj => by
      -- two tasks with one stream: the task itself twice, or two that had it before
      obtain ⟨htaskI, hown⟩ | ⟨hneI, hotherI⟩ := task_of_set hi
      · obtain ⟨htaskJ, -⟩ | ⟨hneJ, hotherJ⟩ := task_of_set hj
        · exact htaskI.trans htaskJ.symm
        · exact absurd (Task.handshaking.inj hown).1 (h.other_stream hs hneJ hotherJ)
      · obtain ⟨-, hown⟩ | ⟨-, hotherJ⟩ := task_of_set hj
        · exact absurd (Task.handshaking.inj hown).1 (h.other_stream hs hneI hotherI)
        · exact h.apart i j m guard' guard'' hotherI hotherJ
    closing := fun i m hi => by
      obtain ⟨-, heq⟩ | ⟨-, hi⟩ := task_of_set hi
      · cases heq
      · exact h.closing i m hi }

/-- A stream is shut that is in no handshake, and that is not held unless the
connection is no longer connected. -/
theorem Owned.shut_stream (h : Owned l) (hstate : l.connection.state ≠ .connected)
    (hlt : n < l.streams.length) (hnew : n ∉ l.shut)
    (hshaking : ∀ (i m : Nat) (guard : Opening.Guard),
      l.tasks[i]? = some (.handshaking m guard) → m ≠ n) :
    Owned { l with shut := n :: l.shut } :=
  { h with
    shut_lt := List.forall_mem_cons.mpr ⟨hlt, h.shut_lt⟩
    handshake := fun i m guard hi => by
      obtain ⟨hm, hopened, hshut⟩ := h.handshake i m guard hi
      exact ⟨hm, hopened, List.not_mem_cons_of_ne_of_not_mem (hshaking i m guard hi) hshut⟩
    closing := fun i m hi => List.mem_cons_of_mem _ (h.closing i m hi)
    connected := fun hc => absurd hc hstate
    shut_once := List.nodup_cons.mpr ⟨hnew, h.shut_once⟩ }

/-- **Every stretch of work keeps the owners apart.** -/
theorem owned_step (h : Owned l) (hp : Passage l act result) : Owned result.1 := by
  cases hp with
  | idle => exact h
  | untrusted => exact { h with }
  | @dial _ _ guard =>
    have hbegun := h.begin_task (.dialing guard) (fun _ => rfl) nofun
    exact { hbegun with connected := nofun }
  | @refused _ task =>
    have hdone := h.finish_task task
    exact { hdone with connected := nofun }
  | @unnamed task _ delivery =>
    have hdone := h.finish_task task
    have hmore := hdone.with_streams (l.streams ++ [delivery.leg]) (by simp [moveTask])
    exact { hmore with connected := nofun }
  | @covered _ _ _ _ guard _ _ hs =>
    have hbegun := h.begin_handshake hs guard
    exact { hbegun with }
  | @opened _ task n streams peer events hs =>
    obtain ⟨hopened, hshut⟩ := h.fresh hs
    have hdone := (h.with_streams streams hs.length_le).finish_task task
    exact { hdone with
      opened_lt := List.forall_mem_cons.mpr ⟨hs.lt, hdone.opened_lt⟩
      handshake := fun i m guard hi => by
        obtain ⟨hne, hi⟩ := task_of_finished hi nofun
        obtain ⟨hm, hmo, hms⟩ := h.handshake i m guard hi
        exact ⟨Nat.lt_of_lt_of_le hm hs.length_le,
          List.not_mem_cons_of_ne_of_not_mem (h.other_stream hs hne hi) hmo, hms⟩
      held := fun m hm => by
        obtain rfl : n = m := Option.some.inj hm
        -- only what was opened is handed out, and this stream was not
        exact ⟨List.mem_cons_self, fun hmem => hopened (h.handed_opened n hmem)⟩
      connected := fun _ => ⟨n, rfl, rfl, hshut⟩
      handed_opened := fun m hm => List.mem_cons_of_mem _ (h.handed_opened m hm) }
  | @spoiled _ task n streams peer events hs =>
    obtain ⟨hopened, hshut⟩ := h.fresh hs
    have hdone := (h.with_streams streams hs.length_le).finish_task task
    have hout : Owned { l with
        connection := { l.connection with state := .disconnected, peer }, streams
        tasks := l.tasks.set task .finished } := { hdone with connected := nofun }
    refine hout.shut_stream nofun hs.lt hshut fun i m guard hi => ?_
    obtain ⟨hne, hi⟩ := task_of_finished hi nofun
    exact h.other_stream hs hne hi
  | @shut n hstate hstream =>
    -- what is held while connected has no close begun, so this is its first
    obtain ⟨m, hm, -, hnew⟩ := h.connected hstate
    obtain rfl : n = m := Option.some.inj (hstream.symm.trans hm)
    have hopened := (h.held n hstream).1
    have hout : Owned { l with connection := { l.connection with state := .disconnecting } } :=
      { h with connected := nofun }
    have hshut := hout.shut_stream nofun (h.opened_lt n hopened) hnew
      fun i m guard hi heq => (h.handshake i m guard hi).2.1 (heq ▸ hopened)
    refine hshut.begin_task (.closing n) nofun fun m heq => ?_
    obtain rfl := Task.closing.inj heq
    exact List.mem_cons_self
  | shutBare => exact { h with connected := nofun }
  | @closed _ task n leg held events htask hleg hheld =>
    have hdone := (h.with_streams (l.streams.set n leg.closeNow)
      (Nat.le_of_eq List.length_set.symm)).finish_task task
    exact { hdone with
      held := fun m hm => by
        obtain rfl | rfl := hheld
        · cases hm
        · exact h.held m hm
      connected := nofun }
  | @detach n _ hstream =>
    obtain ⟨hopened, hhanded⟩ := h.held n hstream
    exact { h with
      held := nofun
      connected := nofun
      handed_opened := List.forall_mem_cons.mpr ⟨hopened, h.handed_opened⟩
      handed_once := List.nodup_cons.mpr ⟨hhanded, h.handed_once⟩ }
  | release =>
    have hmore := h.with_streams
      (l.streams.map fun leg => { leg with closeHeld := false })
      (Nat.le_of_eq (List.length_map _).symm)
    exact hmore

theorem owned_run {transport : Transport}
    (h : machine.run (start (.new transport)) acts = some (l, events)) : Owned l :=
  Machine.run_induction (P := fun l _ _ => Owned l) (owned_start transport)
    (fun _ hl hstep => owned_step hl (passage_of_step hstep)) h

/-! ## A stream that was handed out -/

/-- Whether a stream is closed, if there is one of that number. -/
def isClosed? (l : Lifecycle) (n : Nat) : Option Bool := l.streams[n]?.map (·.closed)

/-- **A stream handed out before any close of it is left alone**: no close of
it begins, and it is neither closed nor reopened. -/
theorem left_alone_step (h : Owned l) (hp : Passage l act result) (hn : n ∈ l.handedOut)
    (hopen : n ∉ l.shut) :
    n ∈ result.1.handedOut ∧ n ∉ result.1.shut ∧ result.1.isClosed? n = l.isClosed? n := by
  have hopened := h.handed_opened n hn
  have hlt := h.opened_lt n hopened
  -- the stream of a stage is another one, and so its streams agree on this one
  have hstage {task m : Nat} {streams : List Leg} (hs : Stage l task m act streams) :
      m ≠ n ∧ streams[n]? = l.streams[n]? := by
    have hne : m ≠ n := fun heq => (h.fresh hs).1 (heq ▸ hopened)
    exact ⟨hne, hs.elsewhere hlt hne.symm⟩
  cases hp with
  | idle | untrusted | dial | refused | shutBare => exact ⟨hn, hopen, rfl⟩
  | unnamed =>
    refine ⟨hn, hopen, ?_⟩
    simp only [isClosed?]
    rw [List.getElem?_append_left hlt]
  | covered hs => exact ⟨hn, hopen, congrArg _ (hstage hs).2⟩
  | opened hs => exact ⟨hn, hopen, congrArg _ (hstage hs).2⟩
  | spoiled hs =>
    obtain ⟨hne, hsame⟩ := hstage hs
    exact ⟨hn, List.not_mem_cons_of_ne_of_not_mem hne.symm hopen, congrArg _ hsame⟩
  | @shut m hstate hstream =>
    have hne : n ≠ m := by
      rintro rfl
      exact (h.held n hstream).2 hn
    exact ⟨hn, List.not_mem_cons_of_ne_of_not_mem hne hopen, rfl⟩
  | @closed _ task m leg held events htask =>
    have hne : m ≠ n := by
      rintro rfl
      exact hopen (h.closing task m htask)
    exact ⟨hn, hopen, congrArg _ (List.getElem?_set_ne hne)⟩
  | detach => exact ⟨List.mem_cons_of_mem _ hn, hopen, rfl⟩
  | release =>
    refine ⟨hn, hopen, ?_⟩
    simp [isClosed?, List.getElem?_map, Function.comp_def]

theorem left_alone_run (h : Owned l) (hn : n ∈ l.handedOut) (hopen : n ∉ l.shut)
    (hrun : machine.run l later = some (next, more)) :
    n ∈ next.handedOut ∧ n ∉ next.shut ∧ next.isClosed? n = l.isClosed? n := by
  suffices hall : Owned next ∧ n ∈ next.handedOut ∧ n ∉ next.shut ∧
      next.isClosed? n = l.isClosed? n from hall.2
  refine Machine.run_induction (P := fun u _ _ => Owned u ∧ n ∈ u.handedOut ∧ n ∉ u.shut ∧
    u.isClosed? n = l.isClosed? n) ⟨h, hn, hopen, rfl⟩ ?_ hrun
  rintro u v act acts events more - ⟨hu, hhanded, hshut, hsame⟩ hstep
  have hp := passage_of_step hstep
  obtain ⟨hhanded', hshut', hsame'⟩ := left_alone_step hu hp hhanded hshut
  exact ⟨owned_step hu hp, hhanded', hshut', hsame'.trans hsame⟩

/-! ## The chain of states -/

/-- **The changes lead from one state to another**: each begins where the one
before has ended, and ends elsewhere. -/
def Leads (old new : Connection.State) : List (Connection.State × Connection.State) → Prop
  | [] => old = new
  | (first, second) :: rest => first = old ∧ first ≠ second ∧ Leads second new rest

theorem Leads.append {first second third : Connection.State}
    {changes more : List (Connection.State × Connection.State)} (h : Leads first second changes)
    (hmore : Leads second third more) : Leads first third (changes ++ more) := by
  induction changes generalizing first with
  | nil =>
    obtain rfl : first = second := h
    exact hmore
  | cons change changes ih =>
    obtain ⟨hfrom, hne, hrest⟩ := h
    exact ⟨hfrom, hne, ih hrest⟩

theorem leads_turned (old new : Connection.State) : Leads old new (turned old new) := by
  unfold turned
  split
  · assumption
  · rename_i hne
    exact ⟨rfl, hne, rfl⟩

theorem leads_step (hp : Passage l act result) :
    Leads l.connection.state result.1.connection.state (changes result.2) := by
  cases hp with
  | idle hnone | covered _ _ hnone =>
    rw [hnone]
    exact rfl
  | untrusted hstate hchanges =>
    rw [hchanges, hstate]
    exact ⟨rfl, nofun, rfl, nofun, rfl⟩
  | dial hstate hchanges =>
    rw [hchanges, hstate]
    exact ⟨rfl, nofun, rfl⟩
  | shut hstate =>
    rw [hstate]
    exact ⟨rfl, nofun, rfl⟩
  | shutBare hstate _ hchanges =>
    rw [hchanges, hstate]
    exact ⟨rfl, nofun, rfl, nofun, rfl⟩
  | refused _ hchanges | unnamed _ _ hchanges | opened _ hchanges | spoiled _ hchanges
  | closed _ _ _ hchanges | detach _ hchanges =>
    rw [hchanges]
    exact leads_turned _ _
  | release => exact rfl

theorem leads_run {transport : Transport}
    (h : machine.run (start (.new transport)) acts = some (l, events)) :
    Leads .disconnected l.connection.state (changes events) := by
  refine Machine.run_induction
    (P := fun l _ events => Leads .disconnected l.connection.state (changes events)) ?_ ?_ h
  · exact rfl
  · intro u v act acts events more _ hu hstep
    rw [changes_append]
    exact hu.append (leads_step (passage_of_step hstep))

/-! ## Ownership -/

/-- **What holds of a connection that has told the given events**, whatever has
been done to it. -/
structure Ownership (l : Lifecycle) (events : List Event) : Prop where
  /-- While it is connected it holds the stream that was opened last, and hands
  it out to whoever asks for it. -/
  holds_latest : l.connection.state = .connected → ∃ n, l.connection.stream = some n ∧
    l.opened.head? = some n ∧ ∃ u, machine.step l .detach =
      some (u, [.state .connected .disconnected, .ended .detaching .done]) ∧
      u.handedOut = n :: l.handedOut
  /-- No stream is closed twice. -/
  closed_once : l.shut.Nodup
  /-- No stream is handed out twice. -/
  handed_once : l.handedOut.Nodup
  /-- A stream that is handed out now, while connected, is never closed
  afterwards. -/
  left_alone : l.connection.state = .connected → ∀ later u more,
    machine.run l (.detach :: later) = some (u, more) → ∃ n, l.connection.stream = some n ∧
      n ∈ u.handedOut ∧ n ∉ u.shut ∧ u.isClosed? n = l.isClosed? n
  /-- The changes of the state lead from the first one to the present one. -/
  chained : Leads .disconnected l.connection.state (changes events)

theorem detach_connected (h : l.connection.state = .connected)
    (hstream : l.connection.stream = some n) :
    machine.step l .detach =
      some ({ l with
        connection := { l.connection with state := .disconnected, stream := none }
        handedOut := n :: l.handedOut },
        [.state .connected .disconnected, .ended .detaching .done]) := by
  simp [machine, step, detach, endCall, setState, h, hstream]

/-- **Every stream has one owner**, whichever tasks open, close and take from
the connection, in whatever order they go on, whatever dials, handshakes and
closes give, and wherever the tasks are cancelled. -/
theorem streams_owned {transport : Transport}
    (h : machine.run (start (.new transport)) acts = some (l, events)) : Ownership l events := by
  have howned := owned_run h
  refine ⟨fun hstate => ?_, howned.shut_once, howned.handed_once, fun hstate => ?_, leads_run h⟩
  · obtain ⟨n, hstream, hlatest, -⟩ := howned.connected hstate
    exact ⟨n, hstream, hlatest, _, detach_connected hstate hstream, rfl⟩
  · intro later u more hrun
    obtain ⟨n, hstream, -, hopen⟩ := howned.connected hstate
    have hdetach := detach_connected hstate hstream
    obtain ⟨v, first, rest, hstep, hlater, -⟩ := Machine.run_cons_iff.mp hrun
    obtain ⟨rfl, -⟩ := Prod.mk.inj (Option.some.inj (hdetach.symm.trans hstep))
    have hafter := owned_step howned (passage_of_step hdetach)
    have halone := left_alone_run hafter List.mem_cons_self hopen hlater
    exact ⟨n, hstream, halone⟩

/-- A stream is taken out while its close is held up. The close goes through
during the next dial, another dial is begun beside that one, and its stream is
opened. -/
def crossed : List Act :=
  [.start (.ok .client), .delivered 0 (.ok { leg := { closeHeld := true } }), .shut, .detach,
    .start (.ok .client), .release, .closed 1, .start (.ok .client),
    .delivered 3 (.ok { leg := {} })]

theorem crossed_streams_owned :
    ∃ l events, machine.run (start (.new .custom)) crossed = some (l, events) ∧
      Ownership l events ∧ l.connection.state = .connected ∧ l.connection.stream = some 1 ∧
      l.shut = [0] ∧ l.handedOut = [0] := by
  obtain ⟨⟨l, events⟩, h⟩ := Option.isSome_iff_exists.mp
    (show (machine.run (start (.new .custom)) crossed).isSome = true by decide +kernel)
  refine ⟨l, events, h, streams_owned h, ?_⟩
  obtain ⟨rfl, -⟩ := Prod.mk.inj (Option.some.inj h)
  exact ⟨rfl, rfl, rfl, rfl⟩

end Lifecycle

end TunnelRelay
