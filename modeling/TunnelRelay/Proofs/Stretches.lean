import TunnelRelay.Connection.Lifecycle
import TunnelRelay.Proofs.Runs
/-!
# The stretches of work on a connection

Between two waits a task works on a connection undisturbed. Each such stretch
is one of a few passages, which say all that it can do: where the task waits
next, what becomes of the state and the stream that the connection holds, and
which changes of the state are told. The stage that an opening leaves is the
same to most of them (`Stage`): a dial has delivered a stream of its own
number, or the handshake of such a stream is over.
-/

namespace TunnelRelay

namespace Lifecycle

variable {l : Lifecycle} {act : Act} {task n : Nat} {streams : List Leg}
variable {events more : List Event} {result : Lifecycle × List Event}

/-! ## What is not told of an opening -/

section Untold

variable {β : Type} {p : Event → Option β}

/-- Whoever does not look at the events of openings finds none there. -/
theorem filterMap_map_opening (hp : ∀ own, p (.opening own) = none)
    (events : List Opening.Event) : (events.map Event.opening).filterMap p = [] :=
  List.filterMap_eq_nil_iff.mpr fun e he => by
    obtain ⟨own, -, rfl⟩ := List.mem_map.mp he
    exact hp own

theorem filterMap_opening_append (hp : ∀ own, p (.opening own) = none)
    (own : List Opening.Event) (rest : List Event) :
    (own.map Event.opening ++ rest).filterMap p = rest.filterMap p := by
  rw [List.filterMap_append, filterMap_map_opening hp, List.nil_append]

theorem filterMap_closeEvents_append (hp : ∀ own, p (.opening own) = none) (leg : Leg)
    (rest : List Event) :
    (leg.closeEvents.map (fun e => Event.opening (.leg leg.cover e)) ++ rest).filterMap p =
      rest.filterMap p := by
  have hsame := filterMap_opening_append hp (leg.closeEvents.map (.leg leg.cover)) rest
  rw [List.map_map] at hsame
  exact hsame

end Untold

/-! ## Changes of the state -/

/-- The change of the state that an event tells. -/
def Event.change? : Event → Option (Connection.State × Connection.State)
  | .state old new => some (old, new)
  | .ended _ _ | .opening _ => none

/-- The changes of the state that events tell, in order. -/
def changes (events : List Event) : List (Connection.State × Connection.State) :=
  events.filterMap Event.change?

/-- The change from one state to another; to stay in a state is none. -/
def turned (old new : Connection.State) : List (Connection.State × Connection.State) :=
  if old = new then [] else [(old, new)]

theorem changes_append (events more : List Event) :
    changes (events ++ more) = changes events ++ changes more :=
  List.filterMap_append

theorem changes_map_opening (events : List Opening.Event) :
    changes (events.map .opening) = [] :=
  filterMap_map_opening (fun _ => rfl) events

theorem changes_endCall (l : Lifecycle) (state : Connection.State) (call : Call)
    (ending : Result) :
    changes (l.endCall state call ending).2 = turned l.connection.state state := by
  simp only [endCall, setState, turned]
  split <;> rfl

/-- Of what an opening or a close tells, only the end of the call changes the
state. -/
theorem changes_ending (own : List Opening.Event) (l : Lifecycle) (state : Connection.State)
    (call : Call) (ending : Result) :
    changes (own.map .opening ++ (l.endCall state call ending).2) =
      turned l.connection.state state :=
  (filterMap_opening_append (fun _ => rfl) own _).trans (changes_endCall l state call ending)

theorem changes_closeEvents (leg : Leg) (l : Lifecycle) (state : Connection.State)
    (call : Call) (ending : Result) :
    changes (leg.closeEvents.map (fun e => Event.opening (.leg leg.cover e)) ++
      (l.endCall state call ending).2) = turned l.connection.state state :=
  (filterMap_closeEvents_append (fun _ => rfl) leg _).trans (changes_endCall l state call ending)

/-! ## Ends of calls -/

/-- The end of a call that an event tells. -/
def Event.ending? : Event → Option (Call × Result)
  | .ended call result => some (call, result)
  | .state _ _ | .opening _ => none

/-- The ends of calls that events tell, in order. -/
def endings (events : List Event) : List (Call × Result) := events.filterMap Event.ending?

theorem endings_append (events more : List Event) :
    endings (events ++ more) = endings events ++ endings more :=
  List.filterMap_append

theorem endings_map_opening (events : List Opening.Event) :
    endings (events.map .opening) = [] :=
  filterMap_map_opening (fun _ => rfl) events

theorem endings_setState (l : Lifecycle) (state : Connection.State) :
    endings (l.setState state).2 = [] := by
  simp only [setState]
  split <;> rfl

theorem endings_endCall (l : Lifecycle) (state : Connection.State) (call : Call)
    (ending : Result) : endings (l.endCall state call ending).2 = [(call, ending)] :=
  (endings_append _ _).trans (congrArg (· ++ _) (endings_setState l state))

/-- Of what an opening or a close tells, only the last is the end of the
call. -/
theorem endings_ending (own : List Opening.Event) (l : Lifecycle) (state : Connection.State)
    (call : Call) (ending : Result) :
    endings (own.map .opening ++ (l.endCall state call ending).2) = [(call, ending)] :=
  (filterMap_opening_append (fun _ => rfl) own _).trans (endings_endCall l state call ending)

theorem endings_closeEvents (leg : Leg) (l : Lifecycle) (state : Connection.State)
    (call : Call) (ending : Result) :
    endings (leg.closeEvents.map (fun e => Event.opening (.leg leg.cover e)) ++
      (l.endCall state call ending).2) = [(call, ending)] :=
  (filterMap_closeEvents_append (fun _ => rfl) leg _).trans (endings_endCall l state call ending)

/-! ## Passages -/

/-- Whether the task opens the connection. -/
def Task.isOpening : Task → Bool
  | .dialing _ | .handshaking _ _ => true
  | .closing _ | .finished => false

/-- Whether the task closes the connection. -/
def Task.isClosing : Task → Bool
  | .closing _ => true
  | .dialing _ | .handshaking _ _ | .finished => false

/-- **The end of a stage of an opening**, given the number of its stream and the
streams there are then: its dial has delivered a stream, its handshake is over,
or it is cancelled in the handshake. -/
inductive Stage (l : Lifecycle) (task n : Nat) : Act → List Leg → Prop
  | dialed {guard : Option Opening.Guard} {delivery : Delivery} {leg : Leg} :
      l.tasks[task]? = some (.dialing guard) → n = l.streams.length →
      Stage l task n (.delivered task (.ok delivery)) ((l.streams ++ [delivery.leg]).set n leg)
  | shaken {guard : Opening.Guard} {fault : Option Fault} {leg : Leg} :
      l.tasks[task]? = some (.handshaking n guard) → n < l.streams.length →
      Stage l task n (.handshaken task fault) (l.streams.set n leg)
  | stopped {guard : Opening.Guard} {leg : Leg} :
      l.tasks[task]? = some (.handshaking n guard) → n < l.streams.length →
      Stage l task n (.cancel task) (l.streams.set n leg)

theorem Stage.length_le (h : Stage l task n act streams) : l.streams.length ≤ streams.length := by
  cases h with
  | dialed => simp
  | shaken | stopped => simp

theorem Stage.lt (h : Stage l task n act streams) : n < streams.length := by
  cases h with
  | dialed _ hn => simp [hn]
  | shaken _ hlt | stopped _ hlt => simpa using hlt

/-- A stage leaves the streams of all others as they are. -/
theorem Stage.elsewhere (h : Stage l task n act streams) {m : Nat} (hm : m < l.streams.length)
    (hne : m ≠ n) : streams[m]? = l.streams[m]? := by
  cases h with
  | dialed => rw [List.getElem?_set_ne hne.symm, List.getElem?_append_left hm]
  | shaken | stopped => exact List.getElem?_set_ne hne.symm

theorem Stage.isOpening (h : Stage l task n act streams) :
    ∃ place, l.tasks[task]? = some place ∧ place.isOpening = true := by
  cases h with
  | dialed htask => exact ⟨_, htask, rfl⟩
  | shaken htask | stopped htask => exact ⟨_, htask, rfl⟩

/-- **What a stretch of work on a connection can do.** -/
inductive Passage (l : Lifecycle) : Act → Lifecycle × List Event → Prop
  /-- A call that has nothing to do, or that is refused. -/
  | idle {act : Act} {events : List Event} : changes events = [] → Passage l act (l, events)
  /-- An opening meets a fault of the certificates. -/
  | untrusted {load : Trust.Outcome Trust.Context} {cache : Trust.Cache Trust.Context}
      {events : List Event} : l.connection.state = .disconnected →
      changes events = [(.disconnected, .connecting), (.connecting, .disconnected)] →
      Passage l (.start load) ({ l with cache }, events)
  /-- An opening dials. -/
  | dial {load : Trust.Outcome Trust.Context} {cache : Trust.Cache Trust.Context}
      {guard : Option Opening.Guard} {events : List Event} :
      l.connection.state = .disconnected →
      changes events = [(.disconnected, .connecting)] →
      Passage l (.start load)
        ({ l with
            connection := { l.connection with state := .connecting }
            tasks := l.tasks ++ [.dialing guard], cache }, events)
  /-- A dial gives a fault, or is cancelled. -/
  | refused {act : Act} {task : Nat} {guard : Option Opening.Guard} {events : List Event} :
      l.tasks[task]? = some (.dialing guard) →
      changes events = turned l.connection.state .disconnected →
      Passage l act
        ({ l with
            connection := { l.connection with state := .disconnected }
            tasks := l.tasks.set task .finished }, events)
  /-- A dial delivers a stream whose socket cannot be asked for its peer. -/
  | unnamed {task : Nat} {guard : Option Opening.Guard} {delivery : Delivery}
      {fault : Fault} {events : List Event} :
      l.tasks[task]? = some (.dialing guard) →
      Opening.peerAfter l.connection.transport l.connection.peer delivery = .error fault →
      changes events = turned l.connection.state .disconnected →
      Passage l (.delivered task (.ok delivery))
        ({ l with
            connection := { l.connection with state := .disconnected }
            streams := l.streams ++ [delivery.leg]
            tasks := l.tasks.set task .finished }, events)
  /-- TLS is put on the stream that a dial delivers. -/
  | covered {act : Act} {task n : Nat} {streams : List Leg} {guard : Opening.Guard}
      {peer : Option String} {events : List Event} : Stage l task n act streams →
      l.tasks[task]? = some (.dialing (some guard)) → changes events = [] →
      Passage l act
        ({ l with
            connection := { l.connection with peer }, streams
            tasks := l.tasks.set task (.handshaking n guard) }, events)
  /-- An opening succeeds. -/
  | opened {act : Act} {task n : Nat} {streams : List Leg} {peer : Option String}
      {events : List Event} : Stage l task n act streams →
      changes events = turned l.connection.state .connected →
      Passage l act
        ({ l with
            connection :=
              { l.connection with state := .connected, stream := some n, peer }
            streams, tasks := l.tasks.set task .finished, opened := n :: l.opened }, events)
  /-- An opening fails after its dial, or is cancelled there; its stream is
  closed. -/
  | spoiled {act : Act} {task n : Nat} {streams : List Leg} {peer : Option String}
      {events : List Event} : Stage l task n act streams →
      changes events = turned l.connection.state .disconnected →
      Passage l act
        ({ l with
            connection := { l.connection with state := .disconnected, peer }
            streams, tasks := l.tasks.set task .finished, shut := n :: l.shut }, events)
  /-- The close of the stream begins. -/
  | shut {n : Nat} : l.connection.state = .connected → l.connection.stream = some n →
      Passage l .shut
        ({ l with
            connection := { l.connection with state := .disconnecting }
            tasks := l.tasks ++ [.closing n], shut := n :: l.shut },
          [.state .connected .disconnecting])
  /-- There is no stream to close. -/
  | shutBare {events : List Event} : l.connection.state = .connected →
      l.connection.stream = none →
      changes events = [(.connected, .disconnecting), (.disconnecting, .disconnected)] →
      Passage l .shut
        ({ l with connection := { l.connection with state := .disconnected } }, events)
  /-- The close of a stream goes through, fails or is cancelled. The connection
  lets go of the stream it holds by then, or keeps it. -/
  | closed {act : Act} {task n : Nat} {leg : Leg} {held : Option Nat} {events : List Event} :
      l.tasks[task]? = some (.closing n) → l.streams[n]? = some leg →
      held = none ∨ held = l.connection.stream →
      changes events = turned l.connection.state .disconnected →
      Passage l act
        ({ l with
            connection := { l.connection with state := .disconnected, stream := held }
            streams := l.streams.set n leg.closeNow
            tasks := l.tasks.set task .finished }, events)
  /-- The stream is handed out. -/
  | detach {n : Nat} {events : List Event} : l.connection.stream = some n →
      changes events = turned l.connection.state .disconnected →
      Passage l .detach
        ({ l with
            connection := { l.connection with state := .disconnected, stream := none }
            handedOut := n :: l.handedOut }, events)
  /-- Closes are no longer held up. -/
  | release :
      Passage l .release
        ({ l with streams := l.streams.map fun leg => { leg with closeHeld := false } }, [])

/-- An opening that gets no certificates leaves the connection as it was. -/
theorem beginOpening_untrusted {load : Trust.Outcome Trust.Context} {fault : Fault}
    {cache : Trust.Cache Trust.Context} (hstate : l.connection.state = .disconnected)
    (htrust : Opening.askTrust l.connection.transport l.cache load = (.error fault, cache)) :
    l.beginOpening load = ({ l with cache },
      [.state .disconnected .connecting, .state .connecting .disconnected,
        .ended .opening (.failed (Opening.report fault))]) := by
  have hback : ({ l.connection with state := .disconnected } : Connection) = l.connection := by
    rw [← hstate]
  simp only [beginOpening, hstate, setState, htrust, failOpening, endCall]
  rw [hback]
  rfl

/-- Any other opening dials. -/
theorem beginOpening_dial {load : Trust.Outcome Trust.Context} {guard : Option Opening.Guard}
    {cache : Trust.Cache Trust.Context} (hstate : l.connection.state = .disconnected)
    (htrust : Opening.askTrust l.connection.transport l.cache load = (.ok guard, cache)) :
    l.beginOpening load =
      ({ l with
          connection := { l.connection with state := .connecting }
          tasks := l.tasks ++ [.dialing guard], cache },
        [.state .disconnected .connecting, .opening (.dial l.connection.transport.target)]) := by
  simp only [beginOpening, hstate, setState, htrust]
  rfl

theorem passage_of_beginOpening (load : Trust.Outcome Trust.Context) :
    Passage l (.start load) (l.beginOpening load) := by
  cases hstate : l.connection.state with
  | connected =>
    simp only [beginOpening, hstate]
    exact .idle rfl
  | disconnected =>
    rcases htrust : Opening.askTrust l.connection.transport l.cache load with ⟨fault | guard, cache⟩
    · rw [beginOpening_untrusted hstate htrust]
      exact .untrusted hstate rfl
    · rw [beginOpening_dial hstate htrust]
      exact .dial hstate rfl
  | connecting | disconnecting =>
    simp only [beginOpening, hstate]
    exact .idle rfl

theorem passage_of_deliver {guard : Option Opening.Guard}
    (htask : l.tasks[task]? = some (.dialing guard)) (result : Except Fault Delivery) :
    Passage l (.delivered task result) (l.deliver task guard result) := by
  cases result with
  | error fault => exact .refused htask (changes_endCall _ _ _ _)
  | ok delivery =>
    simp only [deliver]
    split
    · rename_i fault hpeer
      exact .unnamed htask hpeer (changes_endCall _ _ _ _)
    · unfold Opening.afterDelivery
      split
      · exact .opened (.dialed htask rfl) (changes_ending [] _ _ _ _)
      · exact .covered (.dialed htask rfl) htask (changes_map_opening _)
      · exact .spoiled (.dialed htask rfl) (changes_ending _ _ _ _ _)

theorem passage_of_handshake {guard : Opening.Guard} {leg : Leg}
    (htask : l.tasks[task]? = some (.handshaking n guard)) (hleg : l.streams[n]? = some leg)
    (fault : Option Fault) :
    Passage l (.handshaken task fault)
      (l.afterStage task n (Opening.afterHandshake guard leg fault)) := by
  have hlt : n < l.streams.length := (List.getElem?_eq_some_iff.mp hleg).1
  cases fault with
  | none => exact .opened (.shaken htask hlt) (changes_ending _ _ _ _ _)
  | some fault => exact .spoiled (.shaken htask hlt) (changes_ending _ _ _ _ _)

theorem passage_of_beginClosing : Passage l .shut l.beginClosing := by
  unfold beginClosing
  split
  · rename_i n hstate hstream
    simp only [setState, hstate]
    exact .shut hstate hstream
  · rename_i hstate hstream
    simp only [setState, endCall, hstate]
    exact .shutBare hstate hstream rfl
  · exact .idle rfl

theorem passage_of_closeStream (htask : l.tasks[task]? = some (.closing n))
    (hclose : l.closeStream task n = some result) : Passage l (.closed task) result := by
  unfold closeStream at hclose
  split at hclose
  · cases hclose
  · rename_i leg hleg
    split at hclose
    · cases hclose
    · obtain rfl := Option.some.inj hclose
      split
      · exact .closed htask hleg (Or.inr rfl) (changes_closeEvents leg _ _ _ _)
      · exact .closed htask hleg (Or.inl rfl) (changes_closeEvents leg _ _ _ _)

theorem passage_of_cancel (hcancel : l.cancel task = some result) :
    Passage l (.cancel task) result := by
  unfold cancel at hcancel
  split at hcancel
  · rename_i htask
    obtain rfl := Option.some.inj hcancel
    exact .refused htask (changes_endCall _ _ _ _)
  · rename_i n guard htask
    obtain ⟨leg, hleg, rfl⟩ := Option.map_eq_some_iff.mp hcancel
    have hlt : n < l.streams.length := (List.getElem?_eq_some_iff.mp hleg).1
    simp only [Opening.cancelHandshake]
    split
    · exact .spoiled (.stopped htask hlt) (changes_ending _ _ _ _ _)
    · exact .spoiled (.stopped htask hlt) (changes_ending _ _ _ _ _)
  · rename_i n htask
    obtain ⟨leg, hleg, rfl⟩ := Option.map_eq_some_iff.mp hcancel
    exact .closed htask hleg (Or.inr rfl) (changes_closeEvents leg _ _ _ _)
  · cases hcancel

/-- **Every stretch of work is one of the passages.** -/
theorem passage_of_step (hstep : machine.step l act = some result) : Passage l act result := by
  simp only [machine] at hstep
  cases act with
  | start load =>
    obtain rfl := Option.some.inj hstep
    exact passage_of_beginOpening load
  | shut =>
    obtain rfl := Option.some.inj hstep
    exact passage_of_beginClosing
  | detach =>
    obtain rfl := Option.some.inj hstep
    unfold detach
    split
    · exact .idle rfl
    · rename_i hstream
      exact .detach hstream (changes_endCall _ _ _ _)
  | delivered task result =>
    simp only [step] at hstep
    split at hstep
    · rename_i htask
      obtain rfl := Option.some.inj hstep
      exact passage_of_deliver htask result
    · cases hstep
  | handshaken task fault =>
    simp only [step] at hstep
    split at hstep
    · rename_i n guard htask
      obtain rfl := Option.some.inj hstep
      unfold handshake
      split
      · rename_i hleg
        exact passage_of_handshake htask hleg fault
      · exact .idle rfl
    · cases hstep
  | closed task =>
    simp only [step] at hstep
    split at hstep
    · rename_i htask
      exact passage_of_closeStream htask hstep
    · cases hstep
  | cancel task => exact passage_of_cancel hstep
  | release =>
    obtain rfl := Option.some.inj hstep
    exact .release

end Lifecycle

end TunnelRelay
