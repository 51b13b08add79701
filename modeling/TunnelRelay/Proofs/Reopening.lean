import Mathlib.Data.List.Basic
import TunnelRelay.Pipe.Connection
import TunnelRelay.Proofs.Handles
import TunnelRelay.Proofs.Outcomes
/-!
# Opening a pipe again and again

A connection to a pipe is called by one caller at a time: each call is over
before the next is made. So between two calls it is either disconnected or holds a stream, unless
it was opened with a delay without end, and each stream that is open is held or
was handed out (`Steady`). What a call can do is one of a few passages, told in a
few parts (`told`): an opening begins, dials, has a stream made of the handle, and
ends.
-/

namespace TunnelRelay.Pipe

/-- **A dial has no end only if there is none to the delay.** -/
theorem never_of_dialFrom {address : Option String} {pause : Delay} {attempts : Nat}
    {results : List (Except Fault Int)}
    (h : (dialFrom address pause attempts results).result = none) : pause.wait = .never := by
  induction results generalizing attempts with
  | nil => cases h
  | cons result results ih =>
    cases result with
    | ok handle => cases h
    | error fault =>
      simp only [dialFrom] at h
      split at h
      · split at h
        · exact ih h
        · assumption
        · cases h
      · cases h

namespace Connection

variable {address : Option String} {pause : Delay} {results plan : List (Except Fault Int)}
variable {c : Connection} {maker : Maker} {stream : Stream} {s t : Supplied} {call : Call}
variable {calls : List Call} {events more : List Event}

/-! ## What is told of a connection -/

/-- What an event tells of the life of the connection. -/
def Event.lifecycle? : Event → Option Lifecycle.Event
  | .lifecycle event => some event
  | .dial _ | .passed _ | .stream _ => none

/-- What an event tells of a dial. -/
def Event.dial? : Event → Option Pipe.Event
  | .dial event => some event
  | .lifecycle _ | .passed _ | .stream _ => none

/-- The handle that an event passes to the maker of streams. -/
def Event.passed? : Event → Option Int
  | .passed handle => some handle
  | .lifecycle _ | .dial _ | .stream _ => none

/-- What an event tells of what is done with a handle. -/
def Event.stream? : Event → Option Stream.Event
  | .stream event => some event
  | .lifecycle _ | .dial _ | .passed _ => none

/-- What events tell of the ends of calls, in order. -/
def endings (events : List Event) : List (Lifecycle.Call × Lifecycle.Result) :=
  Lifecycle.endings (events.filterMap Event.lifecycle?)

/-- The handles that are passed to the makers of streams, in order. -/
def passed (events : List Event) : List Int := events.filterMap Event.passed?

/-- What is done with handles, in order. -/
def uses (events : List Event) : List Stream.Event := events.filterMap Event.stream?

/-- The handles that are given back, in order. -/
def givenBack (events : List Event) : List Int := Stream.givenBack (uses events)

theorem passed_append (events more : List Event) :
    passed (events ++ more) = passed events ++ passed more :=
  List.filterMap_append

theorem givenBack_append (events more : List Event) :
    givenBack (events ++ more) = givenBack events ++ givenBack more := by
  rw [givenBack, uses, List.filterMap_append, Stream.givenBack_append]
  rfl

/-- What the parts of an opening tell: its beginning, its dial, what is done with
the handle, and its end. -/
def told (first : List Lifecycle.Event) (dialed : List Pipe.Event) (given : List Int)
    (made : List Stream.Event) (last : List Lifecycle.Event) : List Event :=
  first.map .lifecycle ++ dialed.map .dial ++
    (given.map .passed ++ made.map .stream ++ last.map .lifecycle)

section Told

variable (first last : List Lifecycle.Event) (dialed : List Pipe.Event) (given : List Int)
  (made : List Stream.Event)

theorem lifecycle_told : (told first dialed given made last).filterMap Event.lifecycle? =
    first ++ last := by
  simp [told, List.filterMap_append, List.filterMap_map, Function.comp_def, Event.lifecycle?]

theorem dial_told : (told first dialed given made last).filterMap Event.dial? = dialed := by
  simp [told, List.filterMap_append, List.filterMap_map, Function.comp_def, Event.dial?]

theorem passed_told : passed (told first dialed given made last) = given := by
  simp [passed, told, List.filterMap_append, List.filterMap_map, Function.comp_def, Event.passed?]

theorem uses_told : uses (told first dialed given made last) = made := by
  simp [uses, told, List.filterMap_append, List.filterMap_map, Function.comp_def, Event.stream?]

end Told

/-! ## One opening -/

/-- The connection while its pipe is tried, given the number of tries. -/
def trying (c : Connection) (attempts : Nat) : Connection :=
  { c with
    lifecycle :=
      { c.lifecycle with
        connection := { c.lifecycle.connection with state := .connecting, attempts }
        tasks := c.lifecycle.tasks ++ [.dialing none] } }

/-- The connection after an opening that has failed. -/
def refused (c : Connection) (attempts : Nat) : Connection :=
  { c with
    lifecycle :=
      { c.lifecycle with
        connection := { c.lifecycle.connection with state := .disconnected, attempts }
        tasks := c.lifecycle.tasks ++ [.finished] } }

/-- The connection after an opening that has given it a stream. -/
def opened (c : Connection) (attempts : Nat) (stream : Stream) : Connection :=
  { c with
    lifecycle :=
      { c.lifecycle with
        connection :=
          { c.lifecycle.connection with
            state := .connected, stream := some c.lifecycle.streams.length, attempts }
        streams := c.lifecycle.streams ++ [{}]
        tasks := c.lifecycle.tasks ++ [.finished]
        opened := c.lifecycle.streams.length :: c.lifecycle.opened }
    streams := c.streams ++ [stream] }

/-- What is told when an opening begins. -/
def beginning (address : Option String) : List Lifecycle.Event :=
  [.state .disconnected .connecting, .opening (.dial (.pipe address))]

/-- What is told when an opening fails. -/
def failing (fault : Fault) : List Lifecycle.Event :=
  [.state .connecting .disconnected, .ended .opening (.failed (Opening.report fault))]

/-- What is told when an opening succeeds. -/
def succeeding : List Lifecycle.Event := [.state .connecting .connected, .ended .opening .done]

theorem deliver_fault (c : Connection) (attempts : Nat) (fault : Fault) :
    (c.trying attempts).deliver c.lifecycle.tasks.length (.error fault) =
      (c.refused attempts, (failing fault).map .lifecycle) := by
  simp [deliver, Except.map, Lifecycle.deliver, Lifecycle.failOpening, Lifecycle.endCall,
    Lifecycle.setState, Lifecycle.moveTask, trying, refused, failing, Except.toOption]

theorem deliver_stream (htransport : c.lifecycle.connection.transport = .pipe address)
    (attempts : Nat) (stream : Stream) :
    (c.trying attempts).deliver c.lifecycle.tasks.length (.ok stream) =
      (c.opened attempts stream, succeeding.map .lifecycle) := by
  simp [deliver, Except.map, Lifecycle.deliver, Opening.peerAfter, Opening.afterDelivery,
    Lifecycle.afterStage, Lifecycle.endCall, Lifecycle.setState, Lifecycle.moveTask, trying, opened,
    succeeding, Except.toOption, htransport]

/-- An opening dials and has a stream made of the handle. -/
theorem connectBy_dial (hstate : c.lifecycle.connection.state = .disconnected)
    (htransport : c.lifecycle.connection.transport = .pipe address)
    (maker : Maker) (results : List (Except Fault Int)) :
    let dialed := dial address c.pause results
    c.connectBy maker results =
      let (after, rest) :=
        (dialed.result.map
          ((c.trying dialed.attempts).receiveHandle c.lifecycle.tasks.length maker)).getD
          (c.trying dialed.attempts, [])
      (after, (beginning address).map .lifecycle ++ dialed.events.map .dial ++ rest,
        dialed.unused) := by
  have htrust : Opening.askTrust c.lifecycle.connection.transport c.lifecycle.cache (.ok .client) =
      (.ok none, c.lifecycle.cache) := by
    rw [htransport]
    rfl
  have haddress : c.address = address := by rw [Connection.address, htransport]; rfl
  have hbegin := Lifecycle.beginOpening_dial hstate htrust
  rw [htransport] at hbegin
  simp only [connectBy, hbegin, List.getElem?_concat_length, haddress]
  rfl

/-! ## Passages -/

/-- The state of the connection. -/
def state (c : Connection) : TunnelRelay.Connection.State := c.lifecycle.connection.state

/-- The number of the stream that the connection holds. -/
def held (c : Connection) : Option Nat := c.lifecycle.connection.stream

/-- The connection after it has closed the stream of the given number. -/
def shut (c : Connection) (n : Nat) (leg : Leg) (closed : Stream) : Connection :=
  { c with
    lifecycle :=
      { c.lifecycle with
        connection := { c.lifecycle.connection with state := .disconnected, stream := none }
        streams := c.lifecycle.streams.set n leg.closeNow
        tasks := c.lifecycle.tasks ++ [.finished]
        shut := n :: c.lifecycle.shut }
    streams := c.streams.set n closed }

/-- The connection after it has handed out the stream of the given number. -/
def detached (c : Connection) (n : Nat) : Connection :=
  { c with
    lifecycle :=
      { c.lifecycle with
        connection := { c.lifecycle.connection with state := .disconnected, stream := none }
        handedOut := n :: c.lifecycle.handedOut } }

/-- **What a call can do** to a connection to the pipe of the given address. -/
inductive Passage (address : Option String) (s : Supplied) : Call → Supplied → List Event → Prop
  /-- There is nothing to do, or the call is refused. -/
  | idle {call : Call} {event : Lifecycle.Event} :
      (∀ maker, call = .connect maker → s.connection.state ≠ .disconnected) →
      Passage address s call s [.lifecycle event]
  /-- An opening waits for ever after a try. -/
  | endless {maker : Maker} {dialed : Dialed} : s.connection.state = .disconnected →
      dialed = dial address s.connection.pause s.results → dialed.result = none →
      Passage address s (.connect maker) ⟨s.connection.trying dialed.attempts, dialed.unused⟩
        (told (beginning address) dialed.events [] [] [])
  /-- An opening gets no handle. -/
  | refused {maker : Maker} {fault : Fault} {dialed : Dialed} :
      s.connection.state = .disconnected →
      dialed = dial address s.connection.pause s.results → dialed.result = some (.error fault) →
      Passage address s (.connect maker) ⟨s.connection.refused dialed.attempts, dialed.unused⟩
        (told (beginning address) dialed.events [] [] (failing fault))
  /-- No stream can be made of the handle. -/
  | spoiled {maker : Maker} {handle : Int} {fault : Fault} {made : List Stream.Event}
      {dialed : Dialed} : s.connection.state = .disconnected →
      dialed = dial address s.connection.pause s.results → dialed.result = some (.ok handle) →
      maker handle = (.error fault, made) →
      Passage address s (.connect maker) ⟨s.connection.refused dialed.attempts, dialed.unused⟩
        (told (beginning address) dialed.events [handle] made (failing fault))
  /-- The connection gets the stream made of the handle. -/
  | opened {maker : Maker} {handle : Int} {stream : Stream} {made : List Stream.Event}
      {dialed : Dialed} : s.connection.state = .disconnected →
      dialed = dial address s.connection.pause s.results → dialed.result = some (.ok handle) →
      maker handle = (.ok stream, made) →
      Passage address s (.connect maker)
        ⟨s.connection.opened dialed.attempts stream, dialed.unused⟩
        (told (beginning address) dialed.events [handle] made succeeding)
  /-- The connection closes the stream that it holds. -/
  | shut {n : Nat} {leg : Leg} {stream : Stream} {given : List Stream.Event}
      {first last : List Lifecycle.Event} : s.connection.held = some n →
      s.connection.streams[n]? = some stream → leg.Closable →
      Stream.givenBack given = stream.handle.toList →
      Passage address s .close
        { s with connection := s.connection.shut n leg { stream with handle := none } }
        (told first [] [] given last)
  /-- The stream is handed out. -/
  | detached {n : Nat} {last : List Lifecycle.Event} : s.connection.held = some n →
      Passage address s .detach { s with connection := s.connection.detached n }
        (told [] [] [] [] last)

/-- **What stays true of a connection to the pipe of the given address**: it is
disconnected, holds a stream, or waits for ever to be opened, and it holds or has
handed out all streams that are open. -/
structure Steady (address : Option String) (pause : Delay) (c : Connection) : Prop where
  transport_eq : c.lifecycle.connection.transport = .pipe address
  pause_eq : c.pause = pause
  numbered : c.streams.length = c.lifecycle.streams.length
  closable : ∀ leg ∈ c.lifecycle.streams, leg.Closable
  settled : c.state = .disconnected ∧ c.held = none ∨
    (∃ n, c.state = .connected ∧ c.held = some n ∧ n < c.streams.length) ∨
      c.state = .connecting ∧ c.held = none ∧ pause.wait = .never
  owned : ∀ (n : Nat) (stream : Stream), c.streams[n]? = some stream → stream.closed = false →
    c.held = some n ∨ n ∈ c.lifecycle.handedOut

theorem Steady.held_eq_none (h : Steady address pause c) (hstate : c.state ≠ .connected) :
    c.held = none := by
  obtain ⟨-, hnone⟩ | ⟨n, hconnected, -⟩ | ⟨-, hnone, -⟩ := h.settled
  · exact hnone
  · exact absurd hconnected hstate
  · exact hnone

theorem Steady.held_of_connected (h : Steady address pause c) (hstate : c.state = .connected) :
    ∃ n, c.held = some n ∧ n < c.streams.length := by
  obtain ⟨hother, -⟩ | ⟨n, -, hheld⟩ | ⟨hother, -⟩ := h.settled
  · rw [hstate] at hother
    cases hother
  · exact ⟨n, hheld⟩
  · rw [hstate] at hother
    cases hother

theorem connectBy_connected (hstate : c.state = .connected) (maker : Maker)
    (results : List (Except Fault Int)) :
    c.connectBy maker results = (c, [.lifecycle (.ended .opening .done)], results) := by
  have hbegin : c.lifecycle.beginOpening (.ok .client) =
      (c.lifecycle, [.ended .opening .done]) := by
    have hconnected : c.lifecycle.connection.state = .connected := hstate
    simp only [Lifecycle.beginOpening, hconnected]
  have hnone : c.lifecycle.tasks[c.lifecycle.tasks.length]? = none :=
    List.getElem?_eq_none (Nat.le_refl _)
  simp only [connectBy, hbegin, hnone]
  rfl

theorem connectBy_connecting (hstate : c.state = .connecting) (maker : Maker)
    (results : List (Except Fault Int)) :
    c.connectBy maker results =
      (c, [.lifecycle (.ended .opening (.failed (Connection.busyFault .connecting)))],
        results) := by
  have hbegin : c.lifecycle.beginOpening (.ok .client) =
      (c.lifecycle, [.ended .opening (.failed (Connection.busyFault .connecting))]) := by
    have hconnecting : c.lifecycle.connection.state = .connecting := hstate
    simp only [Lifecycle.beginOpening, hconnecting]
  have hnone : c.lifecycle.tasks[c.lifecycle.tasks.length]? = none :=
    List.getElem?_eq_none (Nat.le_refl _)
  simp only [connectBy, hbegin, hnone]
  rfl

theorem passage_of_connect (htransport : c.lifecycle.connection.transport = .pipe address)
    (hstate : c.state = .disconnected) (maker : Maker) (results : List (Except Fault Int)) :
    Passage address ⟨c, results⟩ (.connect maker)
      ⟨(c.connectBy maker results).1, (c.connectBy maker results).2.2⟩
      (c.connectBy maker results).2.1 := by
  rw [connectBy_dial hstate htransport]
  cases hresult : (dial address c.pause results).result with
  | none =>
    have htold : Passage address ⟨c, results⟩ (.connect maker) _ _ :=
      .endless hstate rfl hresult
    simpa [told] using htold
  | some result =>
    cases result with
    | error fault =>
      simp only [Option.map_some, Option.getD_some, receiveHandle, deliver_fault]
      exact .refused hstate rfl hresult
    | ok handle =>
      rcases hmade : maker handle with ⟨fault | stream, made⟩
      · simp only [Option.map_some, Option.getD_some, receiveHandle, hmade, deliver_fault]
        exact .spoiled hstate rfl hresult hmade
      · simp only [Option.map_some, Option.getD_some, receiveHandle, hmade,
          deliver_stream htransport]
        exact .opened hstate rfl hresult hmade

/-- Every stream can be closed. -/
theorem step_close (stream : Stream) :
    ∃ given, stream.step .close = some ({ stream with handle := none }, given) ∧
      Stream.givenBack given = stream.handle.toList := by
  cases hhandle : stream.handle with
  | none =>
    refine ⟨[.answered .close .done], ?_, rfl⟩
    simp only [Stream.step, hhandle]
    rw [← hhandle]
  | some handle =>
    refine ⟨[.closeHandle handle, .answered .close .done], ?_, rfl⟩
    simp only [Stream.step, hhandle]

theorem close_idle (hstate : c.state ≠ .connected) :
    c.close = (c, [.lifecycle (.ended .closing .done)]) := by
  have hbegin : c.lifecycle.beginClosing = (c.lifecycle, [.ended .closing .done]) := by
    have hother : c.lifecycle.connection.state ≠ .connected := hstate
    unfold Lifecycle.beginClosing
    split
    · contradiction
    · contradiction
    · rfl
  have hnone : c.lifecycle.step (.closed c.lifecycle.tasks.length) = none := by
    simp [Lifecycle.step]
  simp only [close, hbegin, hnone]
  cases c.lifecycle.connection.stream <;> rfl

theorem close_connected {n : Nat} {leg : Leg} {closed : Stream} {given : List Stream.Event}
    (hstate : c.state = .connected) (hheld : c.held = some n)
    (hleg : c.lifecycle.streams[n]? = some leg) (hclosable : leg.Closable)
    (hstream : c.streams[n]? = some stream) (hclose : stream.step .close = some (closed, given)) :
    c.close = (c.shut n leg closed, told [.state .connected .disconnecting] [] [] given
      (leg.closeEvents.map (fun e => .opening (.leg leg.cover e)) ++
        [.state .disconnecting .disconnected, .ended .closing .done])) := by
  have hnone := Leg.closeFault?_eq_none hclosable.noFault
  have hstate : c.lifecycle.connection.state = .connected := hstate
  have hheld : c.lifecycle.connection.stream = some n := hheld
  simp [close, Lifecycle.beginClosing, Lifecycle.setState, Lifecycle.step, Lifecycle.closeStream,
    Lifecycle.endCall, Lifecycle.moveTask, hstate, hheld, hleg, hclosable.notHeld, hnone, hstream,
    hclose, told, shut]

theorem detach_empty (hheld : c.held = none) :
    c.detach = (c, [.lifecycle (.ended .detaching (.failed Connection.notOpenFault))]) := by
  have hstream : c.lifecycle.connection.stream = none := hheld
  simp only [detach, Lifecycle.detach, hstream]
  rfl

theorem detach_held {n : Nat} (hheld : c.held = some n) :
    ∃ last, c.detach = (c.detached n, told [] [] [] [] last) := by
  have hstream : c.lifecycle.connection.stream = some n := hheld
  simp only [detach, Lifecycle.detach, hstream]
  exact ⟨_, rfl⟩

theorem step_connect (s : Supplied) (maker : Maker) :
    Supplied.machine.step s (.connect maker) =
      some (⟨(s.connection.connectBy maker s.results).1,
          (s.connection.connectBy maker s.results).2.2⟩,
        (s.connection.connectBy maker s.results).2.1) :=
  rfl

/-- **Every call is one of the passages.** -/
theorem passage_of_step (h : Steady address pause s.connection)
    (hstep : Supplied.machine.step s call = some (t, more)) : Passage address s call t more := by
  cases call with
  | connect maker =>
    rw [step_connect] at hstep
    obtain ⟨hstate, -⟩ | ⟨n, hstate, -⟩ | ⟨hstate, -⟩ := h.settled
    · obtain ⟨rfl, rfl⟩ := Prod.mk.inj (Option.some.inj hstep)
      exact passage_of_connect h.transport_eq hstate maker s.results
    · rw [connectBy_connected hstate] at hstep
      obtain ⟨rfl, rfl⟩ := Prod.mk.inj (Option.some.inj hstep)
      exact .idle fun _ _ => by simp [hstate]
    · rw [connectBy_connecting hstate] at hstep
      obtain ⟨rfl, rfl⟩ := Prod.mk.inj (Option.some.inj hstep)
      exact .idle fun _ _ => by simp [hstate]
  | close =>
    have hcall : some ({ s with connection := s.connection.close.1 }, s.connection.close.2) =
        some (t, more) := hstep
    by_cases hconnected : s.connection.state = .connected
    · obtain ⟨n, hheld, hlt⟩ := h.held_of_connected hconnected
      have hstream := List.getElem?_eq_getElem hlt
      have hleg := List.getElem?_eq_getElem (h.numbered ▸ hlt)
      have hclosable := h.closable _ (List.mem_of_getElem? hleg)
      obtain ⟨given, hclose, hgiven⟩ := step_close s.connection.streams[n]
      rw [close_connected hconnected hheld hleg hclosable hstream hclose] at hcall
      obtain ⟨rfl, rfl⟩ := Prod.mk.inj (Option.some.inj hcall)
      exact .shut hheld hstream hclosable hgiven
    · rw [close_idle hconnected] at hcall
      obtain ⟨rfl, rfl⟩ := Prod.mk.inj (Option.some.inj hcall)
      exact .idle nofun
  | detach =>
    have hcall : some ({ s with connection := s.connection.detach.1 }, s.connection.detach.2) =
        some (t, more) := hstep
    cases hheld : s.connection.held with
    | none =>
      rw [detach_empty hheld] at hcall
      obtain ⟨rfl, rfl⟩ := Prod.mk.inj (Option.some.inj hcall)
      exact .idle nofun
    | some n =>
      obtain ⟨last, hdetach⟩ := detach_held hheld
      rw [hdetach] at hcall
      obtain ⟨rfl, rfl⟩ := Prod.mk.inj (Option.some.inj hcall)
      exact .detached hheld

/-- A leg that has been closed can be closed again. -/
theorem closable_closeNow {leg : Leg} (h : leg.Closable) : leg.closeNow.Closable := by
  unfold Leg.closeNow
  split
  · exact h
  · exact ⟨h.noFault, h.notHeld⟩

/-- An opening that waits for ever holds nothing. -/
theorem Steady.trying (h : Steady address pause c) (hstate : c.state = .disconnected)
    (hnever : pause.wait = .never) (attempts : Nat) :
    Steady address pause (c.trying attempts) :=
  ⟨h.transport_eq, h.pause_eq, h.numbered, h.closable,
    Or.inr (Or.inr ⟨rfl, h.held_eq_none (by simp [hstate]), hnever⟩), h.owned⟩

/-- An opening that fails leaves the streams as they are. -/
theorem Steady.refused (h : Steady address pause c) (hstate : c.state = .disconnected)
    (attempts : Nat) : Steady address pause (c.refused attempts) :=
  ⟨h.transport_eq, h.pause_eq, h.numbered, h.closable,
    Or.inl ⟨rfl, h.held_eq_none (by simp [hstate])⟩, h.owned⟩

/-- An opening that succeeds holds the stream that it has been given. -/
theorem Steady.opened (h : Steady address pause c) (hstate : c.state = .disconnected)
    (attempts : Nat) (stream : Stream) : Steady address pause (c.opened attempts stream) := by
  have hlength : (c.opened attempts stream).streams.length = c.lifecycle.streams.length + 1 := by
    rw [← h.numbered]
    exact List.length_append
  refine ⟨h.transport_eq, h.pause_eq, ?_, ?_, Or.inr (Or.inl ⟨_, rfl, rfl, ?_⟩),
    fun n other hother hopen => ?_⟩
  · rw [hlength]
    simp [Connection.opened]
  · exact List.forall_mem_append.mpr ⟨h.closable, List.forall_mem_singleton.mpr ⟨rfl, rfl⟩⟩
  · rw [hlength]
    exact Nat.lt_succ_self _
  · obtain ⟨hlt, -⟩ := List.getElem?_eq_some_iff.mp hother
    rw [hlength, ← h.numbered] at hlt
    obtain hlast | hbefore := Nat.eq_or_lt_of_le (Nat.le_of_lt_succ hlt)
    · left
      rw [hlast, h.numbered]
      rfl
    · -- the streams of before are the ones that were handed out
      have hsame : c.streams[n]? = some other := by
        rw [← hother]
        exact (List.getElem?_append_left hbefore).symm
      obtain hheld | hout := h.owned n other hsame hopen
      · rw [h.held_eq_none (by simp [hstate])] at hheld
        cases hheld
      · exact Or.inr hout

/-- A close leaves the streams that were handed out as they are. -/
theorem Steady.shut {n : Nat} {leg : Leg} {stream : Stream} (h : Steady address pause c)
    (hheld : c.held = some n) (hclosable : leg.Closable) :
    Steady address pause (c.shut n leg { stream with handle := none }) := by
  refine ⟨h.transport_eq, h.pause_eq, ?_, fun other hother => ?_, Or.inl ⟨rfl, rfl⟩,
    fun m other hother hopen => Or.inr ?_⟩
  · simpa [Connection.shut] using h.numbered
  · obtain hmem | rfl := List.mem_or_eq_of_mem_set hother
    · exact h.closable other hmem
    · exact closable_closeNow hclosable
  · rw [Connection.shut, List.getElem?_set] at hother
    split at hother
    · split at hother
      · -- the stream itself is closed now
        obtain rfl := Option.some.inj hother
        cases hopen
      · cases hother
    · rename_i hne
      obtain hother | hout := h.owned m other hother hopen
      · exact absurd (Option.some.inj (hheld.symm.trans hother)) hne
      · exact hout

/-- The stream that was held is among those that were handed out afterwards. -/
theorem Steady.detached {n : Nat} (h : Steady address pause c) (hheld : c.held = some n) :
    Steady address pause (c.detached n) := by
  refine ⟨h.transport_eq, h.pause_eq, h.numbered, h.closable, Or.inl ⟨rfl, rfl⟩,
    fun m other hother hopen => Or.inr ?_⟩
  obtain hother | hout := h.owned m other hother hopen
  · obtain rfl : n = m := Option.some.inj (hheld.symm.trans hother)
    exact List.mem_cons_self
  · exact List.mem_cons_of_mem _ hout

/-- **Every call keeps the connection steady.** -/
theorem steady_step (h : Steady address pause s.connection) (hp : Passage address s call t more) :
    Steady address pause t.connection := by
  cases hp with
  | idle => exact h
  | endless hstate hdialed hresult =>
    subst hdialed
    exact h.trying hstate (h.pause_eq ▸ never_of_dialFrom hresult) _
  | refused hstate | spoiled hstate => exact h.refused hstate _
  | opened hstate => exact h.opened hstate _ _
  | shut hheld _ hclosable => exact h.shut hheld hclosable
  | detached hheld => exact h.detached hheld

theorem steady_new (address : Option String) (pause : Delay) :
    Steady address pause (new address pause) :=
  ⟨rfl, rfl, rfl, nofun, Or.inl ⟨rfl, rfl⟩, nofun⟩

theorem steady_run
    (h : Supplied.machine.run ⟨new address pause, plan⟩ calls = some (s, events)) :
    Steady address pause s.connection :=
  Machine.run_induction (P := fun s _ _ => Steady address pause s.connection)
    (steady_new address pause) (fun _ hs hstep => steady_step hs (passage_of_step hs hstep)) h

end Connection

end TunnelRelay.Pipe
