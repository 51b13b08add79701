import TunnelRelay.App.Session
import TunnelRelay.Proofs.Concluding
/-!
# Sessions of the app

A session is a forwarder whose source is the first of the listeners that opening the
port gave. So a run of a session is a run of its forwarder (`forwarder_run`): what is
accepted on the listener is what the forwarder is supplied with, and all else that
the forwarder does it does by itself. What the source makes of the arrivals is kept
beside it (`Makes`): the legs among them become connections, numbered from 1 in the
order in which they are accepted; a closed listener is a source that is exhausted, and
any other fault is one of the source.

The session ends after its forwarder, and closes the listener with its end. So it
ends as the forwarder does, and that as its source does if nothing leads it astray.
-/

namespace TunnelRelay

/-! ## What a source makes of arrivals -/

namespace Listener.Arrival

/-- The leg that arrives, with what its socket says about the peer. -/
def leg? : Listener.Arrival → Option (Leg × Option (Except Fault PeerName))
  | .leg own peer => some (own, peer)
  | .fault _ => none

/-- **An arrival that keeps the promises of the outside world**: closing its leg does
not fail, and its socket names the peer or says that it cannot. -/
def Sound : Listener.Arrival → Prop
  | .leg own peer => own.closeFault = none ∧ ∀ said ∈ peer, match said with
    | .ok name => name.IsAddress
    | .error cause => cause.kind.isSystem = true
  | .fault _ => True

end Listener.Arrival

/-- The legs among arrivals, in order. -/
def legsOf (arrivals : List Listener.Arrival) : List (Leg × Option (Except Fault PeerName)) :=
  arrivals.filterMap Listener.Arrival.leg?

namespace ListenerSource

variable {s next : ListenerSource} {arrival : Listener.Arrival} {leg : Leg}
variable {peer : Option (Except Fault PeerName)}
variable {arrivals : List Listener.Arrival} {supplies : List Supply}

/-- The written address of a peer, which is empty where the socket does not tell it. -/
def addressOf (peer : Option (Except Fault PeerName)) : String :=
  (peer.bind fun said => (said.bind PeerName.text).toOption).getD ""

/-- The connection that a source makes of the leg with a number. -/
def numbered (s : ListenerSource) (number : Nat) (peer : Option (Except Fault PeerName)) :
    Inbound :=
  { remoteAddress := addressOf peer, protocol := s.protocol
    id := s.id ++ "-" ++ toString number }

/-- A socket that does not know its peer only leaves the address empty. -/
theorem remoteAddress_of_sound (h : (Listener.Arrival.leg leg peer).Sound) :
    remoteAddress peer = .ok (addressOf peer) := by
  cases peer with
  | none => rfl
  | some said =>
    have hsaid := h.2 said rfl
    cases said with
    | ok name =>
      obtain ⟨text, htext⟩ := PeerName.text_of_isAddress hsaid
      simp [remoteAddress, addressOf, Except.bind, htext, Except.toOption]
    | error fault =>
      have hsystem : fault.kind.isSystem = true := hsaid
      simp [remoteAddress, addressOf, Except.bind, hsystem, Except.toOption]

theorem supply_leg (h : (Listener.Arrival.leg leg peer).Sound) :
    s.supply (.leg leg peer) =
      (.connection (s.numbered (s.supplied + 1) peer) leg,
        { s with supplied := s.supplied + 1 }) := by
  simp only [supply, remoteAddress_of_sound h]
  rfl

/-- **What a source makes of arrivals**, one after the other. -/
structure Makes (s : ListenerSource) (arrivals : List Listener.Arrival)
    (supplies : List Supply) (next : ListenerSource) : Prop where
  next_eq : next = { s with supplied := s.supplied + (legsOf arrivals).length }
  /-- The legs are numbered; a fault takes no number. -/
  conns : supplies.filterMap Supply.conn? =
    (legsOf arrivals).mapIdx fun k leg => s.numbered (s.supplied + k + 1) leg.2
  exhausted : .exhausted ∈ supplies ↔
    ∃ fault, .fault fault ∈ arrivals ∧ fault.kind = .closedResource
  failed : (∃ fault, .failed fault ∈ supplies) ↔
    ∃ fault, .fault fault ∈ arrivals ∧ fault.kind ≠ .closedResource

theorem makes_nil (s : ListenerSource) : s.Makes [] [] s where
  next_eq := rfl
  conns := rfl
  exhausted := by simp
  failed := by simp

/-- A fault of another kind is none of those that are asked for. -/
theorem exists_fault_concat {P : Fault → Prop} {fault : Fault} (hnot : ¬ P fault) :
    (∃ own, .fault own ∈ arrivals ++ [.fault fault] ∧ P own) ↔
      ∃ own, .fault own ∈ arrivals ∧ P own := by
  constructor
  · rintro ⟨own, hmem, hown⟩
    rcases List.mem_append.mp hmem with hbefore | hlast
    · exact ⟨own, hbefore, hown⟩
    · obtain rfl := Listener.Arrival.fault.inj (List.mem_singleton.mp hlast)
      exact absurd hown hnot
  · rintro ⟨own, hmem, hown⟩
    exact ⟨own, List.mem_append_left _ hmem, hown⟩

theorem Makes.concat (h : s.Makes arrivals supplies next) (harrival : arrival.Sound) :
    s.Makes (arrivals ++ [arrival]) (supplies ++ [(next.supply arrival).1])
      (next.supply arrival).2 := by
  obtain ⟨hnext, hconns, hexhausted, hfailed⟩ := h
  cases arrival with
  | leg leg peer =>
    have hlegs : legsOf (arrivals ++ [.leg leg peer]) = legsOf arrivals ++ [(leg, peer)] :=
      List.filterMap_append
    rw [supply_leg harrival]
    refine ⟨?_, ?_, by simp [hexhausted], by simp [hfailed]⟩
    · rw [hlegs, List.length_append, hnext]
      rfl
    · rw [hlegs, List.mapIdx_concat, List.filterMap_append, hconns, hnext]
      rfl
  | fault fault =>
    have hlegs : legsOf (arrivals ++ [.fault fault]) = legsOf arrivals := by
      simp [legsOf, Listener.Arrival.leg?]
    by_cases hclosed : fault.kind = .closedResource
    · have hsupply : next.supply (.fault fault) = (.exhausted, next) := by
        simp [supply, hclosed]
      rw [hsupply]
      refine ⟨hlegs.symm ▸ hnext, ?_, ?_, ?_⟩
      · rw [hlegs, List.filterMap_append, hconns]
        exact List.append_nil _
      · exact iff_of_true (by simp) ⟨fault, by simp, hclosed⟩
      · rw [exists_fault_concat (not_not_intro hclosed), ← hfailed]
        simp
    · have hsupply : next.supply (.fault fault) = (.failed fault, next) := by
        simp [supply, hclosed]
      rw [hsupply]
      refine ⟨hlegs.symm ▸ hnext, ?_, ?_, ?_⟩
      · rw [hlegs, List.filterMap_append, hconns]
        exact List.append_nil _
      · rw [exists_fault_concat hclosed, ← hexhausted]
        simp
      · exact iff_of_true ⟨fault, by simp⟩ ⟨fault, by simp, hclosed⟩

end ListenerSource

namespace Forwarder

variable {f : Forwarder} {act : Act} {acts : List Act} {result : Forwarder × List Event}
variable {ending : Ending Unit}

/-- A forwarder that has ended stays so, -/
theorem ended_of_passage (hp : Passage f act result) (hloop : f.loop = .ended ending) :
    result.1.loop = .ended ending := by
  cases hp with
  | accept h | exhausted h | failed h =>
    rw [hloop] at h
    cases h
  | @turn _ i old t cache next =>
    show f.loopAfter old next.1 = .ended ending
    unfold loopAfter
    split
    · exact hloop
    · rw [hloop]
      cases next.1.escaped? <;> rfl
  | cancel h =>
    rw [hloop] at h
    cases h
  | finish _ hconclude =>
    rw [conclude, hloop] at hconclude
    cases hconclude

/-- and without handlers it does nothing more. -/
theorem rests_of_ended (hloop : f.loop = .ended ending) (hnone : f.handlers = []) :
    ¬ Passage f act result := by
  intro hp
  cases hp with
  | accept h | exhausted h | failed h =>
    rw [hloop] at h
    cases h
  | turn hget =>
    rw [hnone] at hget
    cases hget
  | cancel h =>
    rw [hloop] at h
    cases h
  | finish _ hconclude =>
    rw [conclude, hloop] at hconclude
    cases hconclude

/-- What a source has come to was supplied. -/
theorem mem_of_sourceState {state : SourceState} (h : sourceState acts = state)
    (hne : state ≠ .supplying) : ∃ supply ∈ supplies acts, supply.state = state := by
  unfold sourceState at h
  cases hlast : (supplies acts).getLast? with
  | none =>
    rw [hlast] at h
    exact absurd h.symm hne
  | some supply =>
    rw [hlast] at h
    exact ⟨supply, List.mem_of_getLast? hlast, h⟩

/-- A source that supplies no more has come to what one of its supplies says, for that
was the last. -/
theorem Steady.sourceState_iff {state : SourceState} (h : Steady f acts)
    (hne : state ≠ .supplying) :
    sourceState acts = state ↔ ∃ supply ∈ supplies acts, supply.state = state := by
  constructor
  · exact fun hstate => mem_of_sourceState hstate hne
  · rintro ⟨supply, hmem, rfl⟩
    exact ((h.last supply hmem).resolve_left hne).symm

/-- A source was exhausted if it has said so, -/
theorem Steady.exhausted_iff (h : Steady f acts) :
    sourceState acts = .exhausted ↔ .exhausted ∈ supplies acts := by
  have hne : SourceState.exhausted ≠ .supplying := nofun
  rw [h.sourceState_iff hne]
  constructor
  · rintro ⟨supply, hmem, hsupply⟩
    cases supply with
    | exhausted => exact hmem
    | connection | failed => cases hsupply
  · exact fun hmem => ⟨_, hmem, rfl⟩

/-- and has failed if it has failed once. -/
theorem Steady.failed_iff (h : Steady f acts) {fault : Fault} :
    sourceState acts = .failed fault ↔ .failed fault ∈ supplies acts := by
  have hne : SourceState.failed fault ≠ .supplying := nofun
  rw [h.sourceState_iff hne]
  constructor
  · rintro ⟨supply, hmem, hsupply⟩
    cases supply with
    | failed own => exact SourceState.failed.inj hsupply ▸ hmem
    | connection | exhausted => cases hsupply
  · exact fun hmem => ⟨_, hmem, rfl⟩

/-- A forwarder whose source is exhausted comes to its end once its handlers have
ended. -/
theorem Steady.stops_exhausted (h : Steady f acts) (hsource : sourceState acts = .exhausted)
    (hall : ∀ k ∈ f.handlers, k.isEnded = true) :
    ∃ next, f.StopsAt next ∧ next.loop = .ended (.returned ()) := by
  cases hloop : f.loop.ending? with
  | none =>
    obtain ⟨next, events, hstep, hended⟩ := end_of_draining (h.loop.draining hsource hloop) hall
    exact ⟨next, stopsAt_of_step hstep rfl, hended⟩
  | some own =>
    have hreturned := h.returned_iff.mpr ⟨by rw [hloop]; rfl, hsource⟩
    exact ⟨f, .refl f, Loop.eq_ended hreturned⟩

end Forwarder

theorem Listener.closed_of_accept {l next : Listener} {arrival : Listener.Arrival}
    (h : l.accept = some (arrival, next)) : next.closed = l.closed := by
  unfold accept at h
  split at h
  · obtain ⟨-, rfl⟩ := Prod.mk.inj (Option.some.inj h)
    rfl
  · split at h
    · cases h
    · obtain ⟨-, rfl⟩ := Prod.mk.inj (Option.some.inj h)
      rfl

namespace App

/-- What an event of a session is of its forwarder. -/
def Event.ofForwarder? : Event → Option Forwarder.Event
  | .forwarder event => some event
  | .listening _ _ | .listenerClosed | .log _ => none

/-- The events of the forwarder of a session. -/
def forwarderEvents (events : List Event) : List Forwarder.Event :=
  events.filterMap Event.ofForwarder?

theorem mem_forwarderEvents {event : Forwarder.Event} {events : List Event} :
    event ∈ forwarderEvents events ↔ .forwarder event ∈ events := by
  rw [forwarderEvents, List.mem_filterMap]
  constructor
  · rintro ⟨own, hown, hof⟩
    cases own with
    | forwarder other => exact Option.some.inj hof ▸ hown
    | listening | listenerClosed | log => cases hof
  · exact fun h => ⟨_, h, rfl⟩

theorem forwarderEvents_append (events more : List Event) :
    forwarderEvents (events ++ more) = forwarderEvents events ++ forwarderEvents more :=
  List.filterMap_append

theorem forwarderEvents_map (own : List Forwarder.Event) :
    forwarderEvents (own.map .forwarder) = own := by
  rw [forwarderEvents, List.filterMap_map]
  exact List.filterMap_some

namespace Session

variable {s t u : Session} {act : Act} {acts later : List Act} {events more : List Event}
variable {result : Session × List Event}

/-! ## Steps -/

/-- **What an action of a session can do.** -/
inductive Passage (s : Session) : Act → Session × List Event → Prop
  | arrive {arrival : Listener.Arrival} : Passage s (.arrive arrival)
      ({ s with listener := { s.listener with arrivals := s.listener.arrivals ++ [arrival] } }, [])
  | shut : Passage s .shut s.closeListener
  /-- What has arrived is supplied to the forwarder. -/
  | accept {receivers : Receivers} {arrival : Listener.Arrival} {listener : Listener}
      {result : Forwarder × List Forwarder.Event} :
      s.listener.accept = some (arrival, listener) →
      s.forwarder.step (.supplied (s.source.supply arrival).1 receivers) = some result →
      Passage s (.accept receivers)
        ({ s with source := (s.source.supply arrival).2, listener }.withForwarder result)
  /-- The forwarder does something by itself. -/
  | forward {act : Forwarder.Act} {result : Forwarder × List Forwarder.Event} :
      act.supply? = none → s.forwarder.step act = some result →
      Passage s (.forward act) (s.withForwarder result)
  /-- The forwarder has ended. -/
  | finish {ending : Ending Unit} : s.ending = none → s.forwarder.loop = .ended ending →
      Passage s .finish ({ s.closeListener.1 with ending := some (conclude ending).1 },
        (conclude ending).2 ++ s.closeListener.2)

/-- **Every action does one of these.** -/
theorem passage_of_step (hstep : s.step act = some result) : Passage s act result := by
  cases act with
  | arrive arrival =>
    obtain rfl := Option.some.inj hstep
    exact .arrive
  | shut =>
    obtain rfl := Option.some.inj hstep
    exact .shut
  | accept receivers =>
    simp only [step, accept] at hstep
    split at hstep
    · obtain ⟨⟨supply, source, listener⟩, hnext, hstep⟩ := Option.bind_eq_some_iff.mp hstep
      obtain ⟨⟨arrival, left⟩, haccept, hsupply⟩ := Option.map_eq_some_iff.mp hnext
      obtain ⟨own, hown, rfl⟩ := Option.map_eq_some_iff.mp hstep
      cases hsupply
      exact .accept haccept hown
    · cases hstep
  | forward own =>
    cases own with
    | supplied => cases hstep
    | begin | handler | cancel | finish =>
      obtain ⟨result, hown, rfl⟩ := Option.map_eq_some_iff.mp hstep
      exact .forward rfl hown
  | finish =>
    simp only [step, finish] at hstep
    split at hstep
    · rename_i ending hnone hloop
      obtain rfl := Option.some.inj hstep
      exact .finish hnone hloop
    · cases hstep

/-! ## The forwarder of a session -/

/-- What is accepted with an action. -/
def accepted (s : Session) : Act → List Listener.Arrival
  | .accept _ => (s.listener.accept.map (·.1)).toList
  | .arrive _ | .shut | .forward _ | .finish => []

/-- What an action is to the forwarder. -/
def forwards (s : Session) : Act → List Forwarder.Act
  | .accept receivers =>
    (s.listener.accept.map fun given => .supplied (s.source.supply given.1).1 receivers).toList
  | .forward act => [act]
  | .arrive _ | .shut | .finish => []

/-- All that is accepted in a run, in order; what ends the accepting is the last of
it. -/
def accepts (s : Session) (acts : List Act) : List Listener.Arrival :=
  machine.gather accepted s acts

/-- What a run is to the forwarder. -/
def forwarderActs (s : Session) (acts : List Act) : List Forwarder.Act :=
  machine.gather forwards s acts

/-- What a run is to the forwarder, besides its supplies, is done in the session. -/
theorem mem_of_forwarderActs {own : Forwarder.Act} (h : own ∈ s.forwarderActs acts)
    (hself : own.supply? = none) : .forward own ∈ acts := by
  obtain ⟨t, act, hact, hown⟩ := Machine.mem_gather h
  cases act with
  | forward given =>
    obtain rfl := List.mem_singleton.mp hown
    exact hact
  | accept receivers =>
    obtain ⟨given, -, rfl⟩ : ∃ given, _ ∧ _ := by simpa [forwards] using hown
    cases hself
  | arrive | shut | finish => cases hown

theorem forwarderEvents_closeListener (s : Session) : forwarderEvents s.closeListener.2 = [] := by
  unfold closeListener
  dsimp only
  split <;> rfl

theorem forwarderEvents_conclude (ending : Ending Unit) :
    forwarderEvents (conclude ending).2 = [] := by
  unfold conclude
  cases ending with
  | raised fault =>
    dsimp only
    split <;> rfl
  | returned | group | cancelled => rfl

/-- **One action of a session is at most one of its forwarder.** -/
theorem forwarder_step (hp : Passage s act result) :
    Forwarder.machine.run s.forwarder (s.forwards act) =
      some (result.1.forwarder, forwarderEvents result.2) := by
  cases hp with
  | arrive => rfl
  | shut => rw [forwarderEvents_closeListener]; rfl
  | @accept receivers arrival listener own haccept hown =>
    have hforwards : s.forwards (.accept receivers) =
        [.supplied (s.source.supply arrival).1 receivers] := by
      simp [forwards, haccept]
    rw [hforwards, Machine.run_singleton_iff]
    show s.forwarder.step (.supplied (s.source.supply arrival).1 receivers) =
      some (own.1, forwarderEvents (own.2.map .forwarder))
    rw [forwarderEvents_map]
    exact hown
  | @forward act own _ hown =>
    show Forwarder.machine.run s.forwarder [act] =
      some (own.1, forwarderEvents (own.2.map .forwarder))
    rw [forwarderEvents_map, Machine.run_singleton_iff]
    exact hown
  | @finish ending =>
    rw [forwarderEvents_append, forwarderEvents_conclude, forwarderEvents_closeListener]
    rfl

/-- **A run of a session is a run of its forwarder.** -/
theorem forwarder_run (h : machine.run s acts = some (t, events)) :
    Forwarder.machine.run s.forwarder (s.forwarderActs acts) =
      some (t.forwarder, forwarderEvents events) := by
  induction acts using List.reverseRecOn generalizing t events with
  | nil =>
    obtain ⟨rfl, rfl⟩ : s = t ∧ [] = events := by simpa using h
    rfl
  | append_singleton acts act ih =>
    obtain ⟨u, first, last, hrun, hstep, rfl⟩ := Machine.run_concat_iff.mp h
    rw [forwarderActs, Machine.gather_concat hrun, forwarderEvents_append]
    exact Machine.run_append_iff.mpr
      ⟨_, _, _, ih hrun, forwarder_step (passage_of_step hstep), rfl⟩

/-- What the forwarder does by itself is done in the session. -/
theorem run_of_forwarder {own : List Forwarder.Act} {f : Forwarder}
    {seen : List Forwarder.Event} (hown : ∀ act ∈ own, act.supply? = none)
    (hrun : Forwarder.machine.run s.forwarder own = some (f, seen)) :
    machine.run s (own.map .forward) = some ({ s with forwarder := f }, seen.map .forwarder) := by
  induction own generalizing s seen with
  | nil =>
    obtain ⟨rfl, rfl⟩ : s.forwarder = f ∧ [] = seen := by simpa using hrun
    rfl
  | cons act own ih =>
    obtain ⟨g, first, rest, hstep, hlater, rfl⟩ := Machine.run_cons_iff.mp hrun
    have hfirst : s.step (.forward act) = some (s.withForwarder (g, first)) := by
      have hself := hown act List.mem_cons_self
      have hg : s.forwarder.step act = some (g, first) := hstep
      cases act with
      | supplied => cases hself
      | begin | handler | cancel | finish => simp only [step, hg, Option.map_some]
    have hrest := ih (s := (s.withForwarder (g, first)).1)
      (fun other hmem => hown other (List.mem_cons_of_mem _ hmem)) hlater
    rw [List.map_append]
    exact Machine.run_cons_iff.mpr ⟨_, _, _, hfirst, hrest, rfl⟩

/-! ## The source of a session -/

/-- **What the forwarder is supplied with is made of what was accepted.** -/
theorem makes_run (h : machine.run s acts = some (t, events))
    (hsound : ∀ arrival ∈ s.accepts acts, arrival.Sound) :
    s.source.Makes (s.accepts acts) (Forwarder.supplies (s.forwarderActs acts)) t.source := by
  induction acts using List.reverseRecOn generalizing t events with
  | nil =>
    obtain ⟨rfl, -⟩ : s = t ∧ [] = events := by simpa using h
    exact ListenerSource.makes_nil _
  | append_singleton acts act ih =>
    obtain ⟨u, first, last, hrun, hstep, rfl⟩ := Machine.run_concat_iff.mp h
    have haccepts : s.accepts (acts ++ [act]) = s.accepts acts ++ u.accepted act :=
      Machine.gather_concat hrun act
    rw [haccepts] at hsound
    have hbefore := ih hrun fun arrival hmem => hsound arrival (List.mem_append_left _ hmem)
    have hsupplies : Forwarder.supplies (s.forwarderActs (acts ++ [act])) =
        Forwarder.supplies (s.forwarderActs acts) ++ Forwarder.supplies (u.forwards act) := by
      rw [forwarderActs, Machine.gather_concat hrun]
      exact List.filterMap_append
    rw [hsupplies, haccepts]
    -- all but accepting is nothing to the source
    have hnothing (haccepted : u.accepted act = [])
        (hnone : Forwarder.supplies (u.forwards act) = []) :
        s.source.Makes (s.accepts acts ++ u.accepted act)
          (Forwarder.supplies (s.forwarderActs acts) ++ Forwarder.supplies (u.forwards act))
          u.source := by
      rw [haccepted, hnone, List.append_nil, List.append_nil]
      exact hbefore
    cases passage_of_step hstep with
    | @accept receivers arrival listener own haccept =>
      have haccepted : u.accepted (.accept receivers) = [arrival] := by
        simp [accepted, haccept]
      have hforwards : u.forwards (.accept receivers) =
          [.supplied (u.source.supply arrival).1 receivers] := by
        simp [forwards, haccept]
      rw [haccepted, hforwards]
      exact hbefore.concat
        (hsound arrival (List.mem_append_right _ (haccepted ▸ List.mem_singleton_self arrival)))
    | forward hself =>
      refine hnothing rfl ?_
      simp [forwards, Forwarder.supplies, hself]
    | arrive | shut | finish => exact hnothing rfl rfl

/-- If the forwarder is not cancelled, and those who are told of a connection do not
fail, nothing leads it astray. -/
theorem unhindered_run (h : machine.run s acts = some (t, events))
    (hsound : ∀ arrival ∈ s.accepts acts, arrival.Sound)
    (htold : ∀ receivers, .accept receivers ∈ acts → receivers.accepted = none)
    (hcalm : .forward .cancel ∉ acts) : ∀ act ∈ s.forwarderActs acts, act.Unhindered := by
  induction acts using List.reverseRecOn generalizing t events with
  | nil => exact nofun
  | append_singleton acts act ih =>
    obtain ⟨u, first, last, hrun, hstep, rfl⟩ := Machine.run_concat_iff.mp h
    rw [accepts, Machine.gather_concat hrun] at hsound
    rw [List.mem_append, List.mem_singleton, not_or] at hcalm
    have hbefore := ih hrun (fun arrival hmem => hsound arrival (List.mem_append_left _ hmem))
      (fun receivers hmem => htold receivers (List.mem_append_left _ hmem)) hcalm.1
    rw [forwarderActs, Machine.gather_concat hrun, List.forall_mem_append]
    refine ⟨hbefore, fun own hown => ?_⟩
    cases passage_of_step hstep with
    | @accept receivers arrival listener _ haccept =>
      simp only [forwards, haccept, Option.map_some, Option.toList_some, List.mem_singleton] at hown
      have harrival : arrival.Sound :=
        hsound arrival (List.mem_append_right _ (by simp [accepted, haccept]))
      rw [hown]
      cases arrival with
      | leg leg peer =>
        rw [ListenerSource.supply_leg harrival]
        exact ⟨htold receivers (by simp), harrival.1⟩
      | fault fault =>
        simp only [ListenerSource.supply]
        split <;> trivial
    | @forward act _ hself =>
      obtain rfl := List.mem_singleton.mp hown
      cases own with
      | supplied => cases hself
      | cancel => exact absurd rfl hcalm.2
      | begin | handler | finish => trivial
    | arrive | shut | finish => cases hown

/-! ## The end of a session -/

/-- **A session that has ended has closed its listener.** -/
theorem closed_run (h : machine.run s acts = some (t, events)) (hopen : s.ending = none) :
    t.ending.isSome = true → t.listener.closed = true := by
  refine Machine.run_induction
    (P := fun t _ _ => t.ending.isSome = true → t.listener.closed = true) ?_ ?_ h
  · intro hsome
    rw [hopen] at hsome
    cases hsome
  · intro u t act acts events more _ hu hstep
    cases passage_of_step hstep with
    | arrive | forward => exact hu
    | accept haccept => exact fun hsome => (Listener.closed_of_accept haccept).trans (hu hsome)
    | shut | finish => exact fun _ => rfl

/-- **It ends after its forwarder**, and as that has ended. -/
theorem concluded_run (h : machine.run s acts = some (t, events)) (hopen : s.ending = none) :
    ∀ ending, t.ending = some ending →
      ∃ own, t.forwarder.loop = .ended own ∧ ending = (conclude own).1 := by
  refine Machine.run_induction (P := fun t _ _ => ∀ ending, t.ending = some ending →
    ∃ own, t.forwarder.loop = .ended own ∧ ending = (conclude own).1) ?_ ?_ h
  · intro ending hsome
    rw [hopen] at hsome
    cases hsome
  · intro u t act acts events more _ hu hstep
    have hkept {act : Forwarder.Act} {result : Forwarder × List Forwarder.Event}
        (hown : u.forwarder.step act = some result) : ∀ ending, u.ending = some ending →
          ∃ own, result.1.loop = .ended own ∧ ending = (conclude own).1 := by
      intro ending hending
      obtain ⟨own, hloop, heq⟩ := hu ending hending
      exact ⟨own, Forwarder.ended_of_passage (Forwarder.passage_of_step hown) hloop, heq⟩
    cases passage_of_step hstep with
    | arrive | shut => exact hu
    | accept _ hown => exact hkept hown
    | forward _ hown => exact hkept hown
    | @finish own _ hloop =>
      intro ending hending
      exact ⟨own, hloop, (Option.some.inj hending).symm⟩

/-- A session can end once its forwarder has. -/
theorem step_finish {own : Ending Unit} (hopen : s.ending = none)
    (hloop : s.forwarder.loop = .ended own) :
    ∃ next more, s.step .finish = some (next, more) ∧ next.ending = some (conclude own).1 := by
  simp only [step, finish, hopen, hloop]
  exact ⟨_, _, rfl, rfl⟩

/-- What a session does to come to its end; none of it waits for somebody else. -/
def isStop : Act → Bool
  | .forward act => act.isStop
  | .finish => true
  | .arrive _ | .shut | .accept _ => false

/-- A session that is open ends when its forwarder can. -/
theorem end_of_stopsAt {f : Forwarder} {own : Ending Unit} (hopen : s.ending = none)
    (hstops : s.forwarder.StopsAt f) (hloop : f.loop = .ended own) :
    ∃ later next more, (∀ act ∈ later, isStop act = true) ∧
      machine.run s later = some (next, more) ∧ next.ending = some (conclude own).1 := by
  obtain ⟨acts, seen, hacts, hrun⟩ := hstops
  have hforward := run_of_forwarder
    (fun act hmem => Forwarder.Act.supply?_of_isStop (hacts act hmem)) hrun
  obtain ⟨next, more, hfinish, hending⟩ :=
    step_finish (s := { s with forwarder := f }) hopen hloop
  have hall : machine.run s (acts.map .forward ++ [.finish]) =
      some (next, seen.map .forwarder ++ more) :=
    Machine.run_concat_iff.mpr ⟨_, _, more, hforward, hfinish, rfl⟩
  refine ⟨_, next, _, List.forall_mem_append.mpr ⟨?_, ?_⟩, hall, hending⟩
  · intro act hmem
    obtain ⟨own, hown, rfl⟩ := List.mem_map.mp hmem
    exact hacts own hown
  · exact List.forall_mem_singleton.mpr rfl

/-! ## Sessions that have failed -/

/-- A session that has come to nothing. -/
structure Idle (s : Session) : Prop where
  handlers : s.forwarder.handlers = []
  loop : ∃ ending, s.forwarder.loop = .ended ending
  ended : s.ending.isSome = true

theorem idle_failedSession (fault : Fault) (listener : Listener) :
    (failedSession fault listener).Idle :=
  ⟨rfl, ⟨_, rfl⟩, rfl⟩

/-- **Nothing comes of it any more.** -/
theorem idle_run (h : machine.run s acts = some (t, events)) (hs : s.Idle) :
    t.forwarder = s.forwarder ∧ t.ending = s.ending ∧ s.accepts acts = [] ∧
      forwarderEvents events = [] := by
  induction acts using List.reverseRecOn generalizing t events with
  | nil =>
    obtain ⟨rfl, rfl⟩ : s = t ∧ [] = events := by simpa using h
    exact ⟨rfl, rfl, rfl, rfl⟩
  | append_singleton acts act ih =>
    obtain ⟨u, first, last, hrun, hstep, rfl⟩ := Machine.run_concat_iff.mp h
    obtain ⟨hforwarder, hending, haccepts, hevents⟩ := ih hrun
    rw [accepts, Machine.gather_concat hrun, ← accepts, haccepts, forwarderEvents_append, hevents]
    obtain ⟨ending, hloop⟩ := hs.loop
    have hrests {act : Forwarder.Act} {result : Forwarder × List Forwarder.Event}
        (hown : u.forwarder.step act = some result) : False := by
      rw [hforwarder] at hown
      exact Forwarder.rests_of_ended hloop hs.handlers (Forwarder.passage_of_step hown)
    cases passage_of_step hstep with
    | arrive => exact ⟨hforwarder, hending, rfl, rfl⟩
    | shut => exact ⟨hforwarder, hending, rfl, forwarderEvents_closeListener u⟩
    | accept _ hown => exact (hrests hown).elim
    | forward _ hown => exact (hrests hown).elim
    | finish hnone =>
      rw [hending] at hnone
      have hsome := hs.ended
      rw [hnone] at hsome
      cases hsome

end Session

end App

end TunnelRelay
