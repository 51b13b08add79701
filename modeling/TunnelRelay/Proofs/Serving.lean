import TunnelRelay.Proofs.Layering
import TunnelRelay.Proofs.Sessions
import TunnelRelay.Proofs.Texts
/-!
# Serving a port

The app that has been prepared opens its port. All listeners but the first are closed
before anything is accepted, and the first is closed when the session ends, however it
does. The connections are numbered in the order in which they are accepted, whatever
becomes of them, so no two have the same identifier.

If nothing disturbs the session (`Session.Calm`), its end tells how accepting has
ended: the app returns nothing if the listener was found closed, and 1 if accepting
has failed otherwise. Only where a relay has met a fault that is none of reading or
writing, and accepting fails before its pumps have stopped, that fault ends the session.
-/

namespace TunnelRelay.App

namespace Session

variable {t : Session} {acts : List Act} {events : List Event}

/-! ## Sessions that nothing disturbs -/

/-- A run in which the forwarder is not cancelled, and nobody fails who is told of a
connection. -/
structure Calm (acts : List Act) : Prop where
  uncancelled : .forward .cancel ∉ acts
  told : ∀ receivers, .accept receivers ∈ acts → receivers.accepted = none

/-- A session of which nothing has happened yet, with the given protocol. -/
def opened (url : String) (platform : Platform) (protocol : String) : Session :=
  { forwarder := .new url "local" platform {}, source := { protocol } }

variable {url protocol : String} {platform : Platform}

section Calm

variable (h : machine.run (opened url platform protocol) acts = some (t, events))
variable (hsound : ∀ arrival ∈ (opened url platform protocol).accepts acts, arrival.Sound)
variable (hcalm : Calm acts)

include h hsound hcalm

theorem steady_opened :
    t.forwarder.Steady ((opened url platform protocol).forwarderActs acts) :=
  Forwarder.steady_run (forwarder_run h)
    (unhindered_run h hsound hcalm.told hcalm.uncancelled)

/-- The source is exhausted if the listener was found closed, -/
theorem exhausted_iff :
    Forwarder.sourceState ((opened url platform protocol).forwarderActs acts) = .exhausted ↔
      ∃ fault, .fault fault ∈ (opened url platform protocol).accepts acts ∧
        fault.kind = .closedResource :=
  (steady_opened h hsound hcalm).exhausted_iff.trans (makes_run h hsound).exhausted

/-- and has failed if accepting has failed otherwise. -/
theorem failed_iff :
    (∃ fault,
        Forwarder.sourceState ((opened url platform protocol).forwarderActs acts) =
          .failed fault) ↔
      ∃ fault, .fault fault ∈ (opened url platform protocol).accepts acts ∧
        fault.kind ≠ .closedResource :=
  (exists_congr fun _ => (steady_opened h hsound hcalm).failed_iff).trans
    (makes_run h hsound).failed

/-- **A session that nothing disturbs ends as its source does**; but the faults that have
left its handlers, if any, take the place of that of the source. -/
theorem ending_of_calm {ending : Ending (Option Nat)} (hending : t.ending = some ending) :
    Forwarder.sourceState ((opened url platform protocol).forwarderActs acts) = .exhausted ∧
        ending = .returned none ∨
      (∃ fault,
        Forwarder.sourceState ((opened url platform protocol).forwarderActs acts) =
          .failed fault) ∧
        (t.forwarder.escapes = [] ∧ ending = .returned (some 1) ∨
          t.forwarder.escapes ≠ [] ∧
            ∃ faults, ending = .group { faults } ∧ faults.Perm t.forwarder.escapes) := by
  have hsteady := steady_opened h hsound hcalm
  obtain ⟨own, hloop, rfl⟩ := concluded_run h rfl ending hending
  rcases hsteady.ends (by rw [hloop]; rfl) with
    ⟨hnone, hsource⟩ | ⟨hsome, hfailed, faults, rfl, hfaults⟩
  · cases hstate : Forwarder.sourceState ((opened url platform protocol).forwarderActs acts) with
    | supplying =>
      rw [hstate] at hsource
      cases hsource
    | exhausted =>
      rw [hstate] at hsource
      obtain rfl := Option.some.inj hsource
      exact Or.inl ⟨rfl, rfl⟩
    | failed fault =>
      rw [hstate] at hsource
      obtain rfl := Option.some.inj hsource
      exact Or.inr ⟨⟨fault, rfl⟩, Or.inl ⟨hnone, rfl⟩⟩
  · exact Or.inr ⟨hfailed, Or.inr ⟨hsome, faults, rfl, hfaults⟩⟩

theorem returned_one_iff :
    t.ending = some (.returned (some 1)) ↔
      t.ending.isSome = true ∧ t.forwarder.escapes = [] ∧ ∃ fault,
        .fault fault ∈ (opened url platform protocol).accepts acts ∧
          fault.kind ≠ .closedResource := by
  rw [← failed_iff h hsound hcalm]
  constructor
  · intro hending
    rcases ending_of_calm h hsound hcalm hending with
      ⟨-, hnone⟩ | ⟨hfailed, ⟨hkept, -⟩ | ⟨-, faults, hgroup, -⟩⟩
    · cases hnone
    · exact ⟨hending ▸ rfl, hkept, hfailed⟩
    · cases hgroup
  · rintro ⟨hsome, hkept, fault, hfailed⟩
    obtain ⟨ending, hending⟩ := Option.isSome_iff_exists.mp hsome
    rcases ending_of_calm h hsound hcalm hending with
      ⟨hexhausted, -⟩ | ⟨-, ⟨-, rfl⟩ | ⟨hleft, -⟩⟩
    · rw [hexhausted] at hfailed
      cases hfailed
    · exact hending
    · exact absurd hkept hleft

theorem returned_none_iff :
    t.ending = some (.returned none) ↔
      t.ending.isSome = true ∧ ∃ fault,
        .fault fault ∈ (opened url platform protocol).accepts acts ∧
          fault.kind = .closedResource := by
  rw [← exhausted_iff h hsound hcalm]
  constructor
  · intro hending
    rcases ending_of_calm h hsound hcalm hending with
      ⟨hexhausted, -⟩ | ⟨-, ⟨-, hone⟩ | ⟨-, faults, hgroup, -⟩⟩
    · exact ⟨hending ▸ rfl, hexhausted⟩
    · cases hone
    · cases hgroup
  · rintro ⟨hsome, hexhausted⟩
    obtain ⟨ending, hending⟩ := Option.isSome_iff_exists.mp hsome
    rcases ending_of_calm h hsound hcalm hending with ⟨-, rfl⟩ | ⟨⟨fault, hfailed⟩, -⟩
    · exact hending
    · rw [hexhausted] at hfailed
      cases hfailed

/-- What has left the handlers ends the session, once accepting has failed. -/
theorem group_of_escapes {ending : Ending (Option Nat)} (hending : t.ending = some ending)
    (hleft : t.forwarder.escapes ≠ []) :
    (∃ fault, .fault fault ∈ (opened url platform protocol).accepts acts ∧
        fault.kind ≠ .closedResource) ∧
      ∃ faults, ending = .group { faults } ∧ faults.Perm t.forwarder.escapes := by
  have hsteady := steady_opened h hsound hcalm
  rw [← failed_iff h hsound hcalm]
  rcases ending_of_calm h hsound hcalm hending with
    ⟨hexhausted, -⟩ | ⟨hfailed, ⟨hkept, -⟩ | ⟨-, hgroup⟩⟩
  · -- nothing leaves a handler of a source that has not failed
    refine absurd (Forwarder.escapes_eq_nil_iff.mpr fun k hk => ?_) hleft
    have hunfailed : ∀ fault, Forwarder.sourceState
        ((opened url platform protocol).forwarderActs acts) ≠ .failed fault := by
      rw [hexhausted]
      exact fun _ => nofun
    exact Forwarder.escaped?_of_contained (hsteady.contained hunfailed k hk)
  · exact absurd hkept hleft
  · exact ⟨hfailed, hgroup⟩

/-- What leaves a handler is what its relay has met while it was being cancelled. -/
theorem escaped_of_calm {i : Nat} {k : Handler} {fault : Fault}
    (hk : t.forwarder.handlers[i]? = some k) (hescaped : k.escaped? = some fault) :
    .forward (.handler i .cancel) ∈ acts ∧ ∃ faults, k.ending? = some (.group faults) ∧
      faults.cancelled = true ∧ fault = faults.asFault := by
  obtain ⟨hcancel, hgroup⟩ := Forwarder.escaped_of_run (forwarder_run h)
    (unhindered_run h hsound hcalm.told hcalm.uncancelled) hk hescaped
  exact ⟨mem_of_forwarderActs hcancel rfl, hgroup⟩

end Calm

/-- The connections of a session that accepts what has arrived: numbered from 1, in the
order of their arrival, and of the configured protocol. -/
def connections (protocol : String) (arrivals : List Listener.Arrival) : List Inbound :=
  (legsOf arrivals).mapIdx fun k leg =>
    { remoteAddress := ListenerSource.addressOf leg.2, protocol
      id := "local-" ++ toString (k + 1) }

theorem ids_nodup (protocol : String) (arrivals : List Listener.Arrival) :
    ((connections protocol arrivals).map (·.id)).Nodup := by
  rw [List.Nodup, List.pairwise_iff_getElem]
  intro i j hi hj hij heq
  simp only [connections, List.getElem_map, List.getElem_mapIdx] at heq
  have hnumber := Text.Numeral.toString_injective ((String.append_right_inj _).mp heq)
  omega

theorem conns_opened (h : machine.run (opened url platform protocol) acts = some (t, events))
    (hsound : ∀ arrival ∈ (opened url platform protocol).accepts acts, arrival.Sound) :
    Forwarder.yielded ((opened url platform protocol).forwarderActs acts) =
      connections protocol ((opened url platform protocol).accepts acts) := by
  rw [Forwarder.yielded, (makes_run h hsound).conns, connections]
  congr 1
  funext k leg
  simp [opened, ListenerSource.numbered]

end Session

/-! ## The start of a session -/

variable {a : App} {port : Port} {url : String}

/-- The protocol of the connections, as it is configured, in lower case. -/
def protocolTag (s : Settings) : String :=
  String.ofList (Text.lower ((s.get? protocolName).getD (.string "tcp")).text.toList)

theorem protocol_of_configuredPort {settings : Settings}
    (h : configuredPort settings = .ok port) : port.protocol = protocolTag settings := by
  simp only [configuredPort, bind, Except.bind] at h
  split at h
  · cases h
  · obtain rfl := Except.ok.inj h
    rfl

/-- What has happened once the port is open and all listeners but the first are
closed. -/
def openings (port : Port) (listeners : List (Except Fault PeerName)) : List Event :=
  .listening port.host port.port :: List.replicate (listeners.length - 1) .listenerClosed

/-- **A session starts with its first listener**, or fails before it says so. -/
theorem start_cases (hurl : a.forwardTo = some url) (hport : configuredPort a.settings = .ok port)
    (listeners : List (Except Fault PeerName)) :
    (∃ fault listener, a.start (.ok listeners) =
        (failedSession fault listener, openings port listeners)) ∨
      ∃ record, a.start (.ok listeners) =
        (.opened url a.platform (protocolTag a.settings), openings port listeners ++
          [.log record, .forwarder (Forwarder.new url "local" a.platform {}).greeting]) := by
  have hextras : (listeners.drop 1).map (fun _ => Event.listenerClosed) =
      List.replicate (listeners.length - 1) .listenerClosed := by
    rw [List.map_const', List.length_drop]
  have hstart : a.start (.ok listeners) =
      ((sessionOn url a.platform port listeners).1,
        .listening port.host port.port :: (sessionOn url a.platform port listeners).2) := by
    rw [start, hurl]
    simp only [hport]
  rw [hstart, ← protocol_of_configuredPort hport, openings, ← hextras]
  cases listeners with
  | nil => exact Or.inl ⟨noListener, _, rfl⟩
  | cons first extras =>
    unfold sessionOn
    dsimp only
    split
    · rename_i fault _
      exact Or.inl ⟨fault, _, rfl⟩
    · exact Or.inr ⟨_, rfl⟩

/-! ## Serving -/

/-- **What comes of a session** of connections with the given protocol, on a port that
has a number of listeners besides the first. -/
structure Served (start : Session × List Event) (extras : Nat) (protocol : String)
    (acts : List Act) (t : Session) (events : List Event) : Prop where
  /-- The other listeners are closed before anything is accepted; the first is not. -/
  alone : ∃ host port said,
    start.2 = .listening host port :: List.replicate extras .listenerClosed ++ said ∧
      .listenerClosed ∉ said
  /-- Each connection is told of as it is accepted, numbered and with the protocol, -/
  announced : Forwarder.announced (forwarderEvents events) =
    Session.connections protocol (start.1.accepts acts)
  /-- and has its handler. -/
  handled : t.forwarder.handlers.map (·.conn) =
    Session.connections protocol (start.1.accepts acts)
  /-- No two have the same identifier. -/
  unique : ((t.forwarder.handlers.map (·.conn)).map (·.id)).Nodup
  /-- The session returns 1 if and only if accepting has failed, but not because the
  listener was closed, and nothing has left a handler. -/
  failed : Session.Calm acts → (t.ending = some (.returned (some 1)) ↔
    t.ending.isSome = true ∧ t.forwarder.escapes = [] ∧
      ∃ fault, .fault fault ∈ start.1.accepts acts ∧ fault.kind ≠ .closedResource)
  /-- It returns nothing if and only if the listener was closed. -/
  exhausted : Session.Calm acts → (t.ending = some (.returned none) ↔
    t.ending.isSome = true ∧
      ∃ fault, .fault fault ∈ start.1.accepts acts ∧ fault.kind = .closedResource)
  /-- What has left the handlers ends it otherwise, after accepting has failed. -/
  broken : Session.Calm acts → ∀ ending, t.ending = some ending → t.forwarder.escapes ≠ [] →
    (∃ fault, .fault fault ∈ start.1.accepts acts ∧ fault.kind ≠ .closedResource) ∧
      ∃ faults, ending = .group { faults } ∧ faults.Perm t.forwarder.escapes
  /-- What leaves a handler is a group of faults, beside which it was cancelled. -/
  escaped : Session.Calm acts → ∀ i k fault, t.forwarder.handlers[i]? = some k →
    k.escaped? = some fault → .forward (.handler i .cancel) ∈ acts ∧
      ∃ faults, k.ending? = some (.group faults) ∧ faults.cancelled = true ∧
        fault = faults.asFault
  /-- Once accepting has failed the session comes to its end by itself, and returns 1 if
  its handlers are whole then, -/
  fails : Session.Calm acts → t.ending = none →
    (∃ fault, .fault fault ∈ start.1.accepts acts ∧ fault.kind ≠ .closedResource) →
    ∃ later next more ending, (∀ act ∈ later, Session.isStop act = true) ∧
      Session.machine.run t later = some (next, more) ∧ next.ending = some ending ∧
        ((∀ k ∈ t.forwarder.handlers, k.Whole) → ending = .returned (some 1))
  /-- and once the listener was closed, after all connections have been handled. -/
  drains : Session.Calm acts → t.ending = none →
    (∃ fault, .fault fault ∈ start.1.accepts acts ∧ fault.kind = .closedResource) →
    (∀ k ∈ t.forwarder.handlers, k.isEnded = true) →
    ∃ later next more, (∀ act ∈ later, Session.isStop act = true) ∧
      Session.machine.run t later = some (next, more) ∧ next.ending = some (.returned none)
  /-- However it ends after it has said that it listens, the first listener is
  closed. -/
  closed : (∃ record, .log record ∈ start.2) → t.ending.isSome = true → t.listener.closed = true

variable {listeners : List (Except Fault PeerName)} {acts : List Act} {t : Session}
variable {events : List Event} {platform : Platform} {protocol : String} {record : Log.Record}

/-- A session that has failed at its start accepts nothing, and has ended. -/
theorem served_of_failed {fault : Fault} {listener : Listener}
    (h : Session.machine.run (failedSession fault listener) acts = some (t, events)) :
    Served (failedSession fault listener, openings port listeners) (listeners.length - 1) protocol
      acts t events := by
  obtain ⟨hforwarder, hending, haccepts, hevents⟩ :=
    Session.idle_run h (Session.idle_failedSession fault listener)
  have hraised : t.ending = some (.raised fault) := hending
  have hnone (P : Fault → Prop) : ¬ ∃ cause,
      .fault cause ∈ (failedSession fault listener).accepts acts ∧ P cause := by
    rw [haccepts]
    rintro ⟨cause, hmem, -⟩
    cases hmem
  refine {
    alone := ⟨_, _, [], (List.append_nil _).symm, List.not_mem_nil⟩
    announced := ?_
    handled := ?_
    unique := ?_
    failed := fun _ => iff_of_false (by simp [hraised]) fun h => hnone _ h.2.2
    exhausted := fun _ => iff_of_false (by simp [hraised]) fun h => hnone _ h.2
    broken := fun _ _ _ hleft => absurd (by rw [hforwarder]; rfl) hleft
    escaped := fun _ i k fault hk => by
      rw [hforwarder] at hk
      cases hk
    fails := fun _ _ hfault => absurd hfault (hnone _)
    drains := fun _ _ hfault => absurd hfault (hnone _)
    closed := ?_ }
  · rw [haccepts, hevents]
    rfl
  · rw [haccepts, hforwarder]
    rfl
  · rw [hforwarder]
    exact List.nodup_nil
  · rintro ⟨record, hmem⟩
    simp [openings, List.mem_replicate] at hmem

/-- **A session that has started serves its listener.** -/
theorem served_of_opened
    (h : Session.machine.run (.opened url platform protocol) acts = some (t, events))
    (hsound : ∀ arrival ∈ (Session.opened url platform protocol).accepts acts, arrival.Sound) :
    Served (.opened url platform protocol, openings port listeners ++
        [.log record, .forwarder (Forwarder.new url "local" platform {}).greeting])
      (listeners.length - 1) protocol acts t events := by
  have hforwarder := Session.forwarder_run h
  have hconns := Session.conns_opened h hsound
  have hhandled : t.forwarder.handlers.map (·.conn) =
      Session.connections protocol ((Session.opened url platform protocol).accepts acts) := by
    rw [Forwarder.conn_handlers hforwarder, Forwarder.conn_arrivals, hconns]
  refine {
    alone := ⟨_, _, _, rfl, by simp⟩
    announced := ?announced
    handled := hhandled
    unique := hhandled ▸ Session.ids_nodup _ _
    failed := Session.returned_one_iff h hsound
    exhausted := Session.returned_none_iff h hsound
    broken := fun hcalm ending => Session.group_of_escapes h hsound hcalm
    escaped := fun hcalm i k fault => Session.escaped_of_calm h hsound hcalm
    fails := ?fails
    drains := ?drains
    closed := fun _ => Session.closed_run h rfl }
  case announced =>
    rw [(Forwarder.told_of_run hforwarder).announced, Forwarder.conn_arrivals, hconns]
  case fails =>
    intro hcalm hopen hfault
    obtain ⟨fault, hfailed⟩ := (Session.failed_iff h hsound hcalm).mpr hfault
    obtain ⟨f, own, hstops, hloop, hraised⟩ :=
      (Session.steady_opened h hsound hcalm).stops_failed hfailed
    obtain ⟨later, next, more, hlater, hrun, hending⟩ :=
      Session.end_of_stopsAt hopen hstops hloop
    refine ⟨later, next, more, _, hlater, hrun, hending, fun hwhole => ?_⟩
    rw [hraised hwhole]
    rfl
  case drains =>
    intro hcalm hopen hfault hall
    have hexhausted := (Session.exhausted_iff h hsound hcalm).mpr hfault
    obtain ⟨f, hstops, hloop⟩ :=
      (Session.steady_opened h hsound hcalm).stops_exhausted hexhausted hall
    exact Session.end_of_stopsAt hopen hstops hloop

/-- **The app serves its port.** Once it has been prepared and its port is open, with
whatever listeners, it accepts on the first of them and closes the others before. The
connections get the numbers from 1 in the order in which they are accepted, whatever
becomes of them. If nobody cancels the app and nobody fails who is told of a
connection, what it returns tells how accepting has ended, unless accepting has failed
and faults have left the handlers that were cancelled for it; and however it ends, it
closes the listener. -/
theorem listener_served {around : Settings.Surroundings} {config : Option String} {debug : Bool}
    {overrides : List Assignment}
    (hready : (a.prepare around config debug overrides).2.2 = .ok .ready)
    (hport : configuredPort (a.prepare around config debug overrides).1.settings = .ok port)
    (h : Session.machine.run
      ((a.prepare around config debug overrides).1.start (.ok listeners)).1 acts = some (t, events))
    (hsound : ∀ arrival ∈
      ((a.prepare around config debug overrides).1.start (.ok listeners)).1.accepts acts,
        arrival.Sound) :
    Served ((a.prepare around config debug overrides).1.start (.ok listeners))
      (listeners.length - 1) (protocolTag (a.prepare around config debug overrides).1.settings)
      acts t events := by
  obtain ⟨url, d, hurl, -⟩ := (preparation a around config debug overrides).readable hready
  rcases start_cases hurl hport listeners with ⟨fault, listener, hstart⟩ | ⟨record, hstart⟩
  · rw [hstart] at h ⊢
    exact served_of_failed h
  · rw [hstart] at h hsound ⊢
    exact served_of_opened h hsound

/-- A run in which accepting fails while the first of two connections is dialed, and the
second has not been taken up. -/
def acceptsInVain : List Act :=
  [.arrive (.leg {} (some (.error (.ofNumber 107 "Transport endpoint is not connected")))),
    .accept {}, .arrive (.leg {} (some (.ok (.ofHostPort "10.0.0.1" 4000)))), .accept {},
    .forward (.begin 0 (.error .streamClosed)),
    .arrive (.fault (.ofNumber 24 "Too many open files")), .accept {},
    .forward (.begin 1 (.error .streamClosed)), .forward (.handler 0 .cancel),
    .forward (.handler 1 .cancel), .forward .finish, .finish]

/-- The standard app on a port with two listeners. -/
def onTwoListeners : Session × List Event :=
  (standard.prepare {} none false []).1.start
    (.ok [.ok (.ofHostPort "127.0.0.1" 8000), .ok (.ofHostPort "::1" 8000)])

theorem acceptsInVain_served :
    (standard.prepare {} none false []).2.2 = .ok .ready ∧
      ∃ t events, Session.machine.run onTwoListeners.1 acceptsInVain = some (t, events) ∧
        t.forwarder.handlers.map (·.conn) =
          [{ protocol := "http", id := "local-1" },
            { remoteAddress := "10.0.0.1:4000", protocol := "http", id := "local-2" }] ∧
        t.ending = some (.returned (some 1)) ∧ t.listener.closed = true := by
  have hready : (standard.prepare {} none false []).2.2 = .ok .ready := by rfl
  have hport : configuredPort (standard.prepare {} none false []).1.settings =
      .ok ⟨.string "127.0.0.1", 8000, "http"⟩ := by rfl
  have haccepts : onTwoListeners.1.accepts acceptsInVain =
      [.leg {} (some (.error (.ofNumber 107 "Transport endpoint is not connected"))),
        .leg {} (some (.ok (.ofHostPort "10.0.0.1" 4000))),
        .fault (.ofNumber 24 "Too many open files")] := by rfl
  have hsound : ∀ arrival ∈ onTwoListeners.1.accepts acceptsInVain, arrival.Sound := by
    rw [haccepts, List.forall_mem_cons, List.forall_mem_cons, List.forall_mem_singleton]
    exact ⟨⟨rfl, fun _ hsaid => Option.some.inj hsaid ▸ rfl⟩,
      ⟨rfl, fun _ hsaid => Option.some.inj hsaid ▸ trivial⟩, trivial⟩
  obtain ⟨⟨t, events⟩, h⟩ := Option.isSome_iff_exists.mp
    (show (Session.machine.run onTwoListeners.1 acceptsInVain).isSome = true by decide +kernel)
  have hended : (Session.machine.run onTwoListeners.1 acceptsInVain).all
      (fun r => r.1.ending.isSome && r.1.forwarder.escapes.isEmpty) = true := by
    decide +kernel
  simp only [h, Option.all_some, Bool.and_eq_true, List.isEmpty_iff] at hended
  obtain ⟨hended, hkept⟩ := hended
  have hserved := listener_served hready hport h hsound
  have hcalm : Session.Calm acceptsInVain :=
    ⟨by simp [acceptsInVain], by simp [acceptsInVain]⟩
  refine ⟨hready, t, events, h, ?_, ?_, ?_⟩
  · exact hserved.handled.trans (congrArg (Session.connections _) haccepts)
  · refine (hserved.failed hcalm).mpr ⟨hended, hkept, .ofNumber 24 "Too many open files", ?_, nofun⟩
    exact haccepts ▸ by simp
  · exact hserved.closed ⟨_, .tail _ (.tail _ (.head _))⟩ hended

/-- A run in which accepting fails while the pumps of the first connection are being
stopped, as a read has given a fault that is none of reading. -/
def acceptsMeanwhile : List Act :=
  [.arrive (.leg {} none), .accept {}, .forward (.begin 0 (.error .streamClosed)),
    .forward (.handler 0 (.delivered (.ok { leg := {} }))),
    .forward (.handler 0 (.peer .outbound (.snap (.mk .key [.string "codec"] none)))),
    .forward (.handler 0 (.advance .outbound)),
    .arrive (.fault (.ofNumber 24 "Too many open files")), .accept {},
    .forward (.handler 0 .cancel), .forward (.handler 0 (.abandon .inbound)),
    .forward (.handler 0 .closeLegs), .forward .finish, .finish]

/-- **The fault of a relay may take the place of the exit code**: accepting has failed,
and the session does not return 1. -/
theorem exit_code_lost :
    ∃ t events, Session.machine.run onTwoListeners.1 acceptsMeanwhile = some (t, events) ∧
      Session.Calm acceptsMeanwhile ∧
      .fault (.ofNumber 24 "Too many open files") ∈ onTwoListeners.1.accepts acceptsMeanwhile ∧
      t.ending.bind Ending.faultName? = some Ending.groupName ∧
      t.ending ≠ some (.returned (some 1)) := by
  obtain ⟨⟨t, events⟩, h⟩ := Option.isSome_iff_exists.mp
    (show (Session.machine.run onTwoListeners.1 acceptsMeanwhile).isSome = true by decide +kernel)
  have hgroup : (Session.machine.run onTwoListeners.1 acceptsMeanwhile).all
      (fun r => r.1.ending.bind Ending.faultName? == some Ending.groupName) = true := by
    decide +kernel
  have haccepts : onTwoListeners.1.accepts acceptsMeanwhile =
      [.leg {} none, .fault (.ofNumber 24 "Too many open files")] := by rfl
  simp only [h, Option.all_some, beq_iff_eq] at hgroup
  refine ⟨t, events, h, ⟨by simp [acceptsMeanwhile], by simp [acceptsMeanwhile]⟩,
    haccepts ▸ by simp, hgroup, fun hreturned => ?_⟩
  rw [hreturned] at hgroup
  cases hgroup

end TunnelRelay.App
