import TunnelRelay.Proofs.Conservation
import TunnelRelay.Proofs.Lanes
import TunnelRelay.Proofs.Responder
/-!
# Connections are contained and isolated

Nothing that goes wrong with a connection leaves its handler: unless it is
cancelled, or closing its inbound leg fails, a handler ends by returning
(`Handler.Contained`). So the loop is never broken, and no other handler is
cancelled on its account.

What is left between the handlers is the trust cache, and only transports with
certificates look at it. For all other destinations a handler's life depends on
its own turns alone, and so two runs that agree on the turns of a connection
agree on everything that is seen of it.
-/

namespace TunnelRelay

/-- A relay that is not cancelled does not end as cancelled. -/
theorem Relay.isCancelled_endingOf {r : Relay} (h : r.cancelled = false) :
    r.endingOf.isCancelled = false := by
  unfold Relay.endingOf
  split
  · rfl
  · rw [if_neg (by rw [h]; exact nofun)]
    rfl
  · rw [if_neg (by rw [h]; exact nofun)]
    rfl
  · simp only [Ending.isCancelled, h, Bool.false_and]

namespace Handler

variable {h : Handler} {inbound : Leg} {outbound : Option Leg} {ending : Ending Unit}
variable {events : List Event} {platform : Platform} {url : String} {t : Turn}
variable {result : Handler × List Event}

/-! ## Containment -/

/-- How a handler has ended, if it has. -/
def ending? (h : Handler) : Option (Ending Unit) :=
  match h.stage with
  | .ended _ _ ending => some ending
  | _ => none

/-- **Nothing has left the handler, and nothing will**: closing its inbound leg
cannot fail, it is not cancelled, and if it has ended it has returned. -/
def Contained (h : Handler) : Prop :=
  match h.stage with
  | .starting inbound | .dialing inbound _ _ | .handshaking inbound _ _ _ =>
    inbound.closeFault = none
  | .relaying relay => relay.legs.inbound.closeFault = none ∧ relay.cancelled = false ∧
      relay.ending = none
  | .answering gateway _ =>
    gateway.leg.closeFault = none ∧ gateway.stage.isCancelled = false
  | .ended _ _ ending => ending = .returned ()
  | .dropped _ => False

theorem returned_of_contained (hc : h.Contained) (hending : h.ending? = some ending) :
    ending = .returned () := by
  unfold Contained at hc
  unfold ending? at hending
  split at hending
  · rename_i hstage
    obtain rfl := Option.some.inj hending
    simp only [hstage] at hc
    exact hc
  · cases hending

theorem contained_finish (hin : inbound.closeFault = none) (hending : ending.isCancelled = false) :
    (h.finish inbound outbound ending events).1.Contained := by
  have hnone := Leg.closeFault?_eq_none hin
  simp [finish, Contained, hnone, Ending.contained, hending]

theorem contained_dialFailed {fault : Fault} (hin : inbound.closeFault = none) :
    (h.dialFailed inbound outbound fault events).1.Contained := by
  rcases h.dialFailed_cases inbound outbound fault events with
    ⟨-, -, -, heq⟩ | ⟨-, ending, hending, heq⟩
  · rw [heq]
    exact ⟨hin, rfl⟩
  · rw [heq]
    exact contained_finish hin hending

theorem contained_withLeg {side : Side} {leg next : Leg} (hc : h.Contained)
    (hleg : h.leg? side = some leg) (hnext : next.ClosesLike leg) :
    (h.withLeg side next).Contained := by
  unfold Contained at hc
  cases hstage : h.stage with
  | relaying relay =>
    simp only [hstage] at hc
    obtain rfl : relay.legs.get side = leg := by simpa [leg?, hstage] using hleg
    simp only [withLeg, hstage, Contained]
    exact ⟨(Relay.closesLike_set hnext .inbound).fault.trans hc.1, hc.2⟩
  | starting | dialing | handshaking | answering | ended | dropped =>
    cases side <;> simp_all [withLeg, leg?, Contained, hnext.fault]

/-- **Every turn but a cancellation leaves the handler contained.** -/
theorem contained_step (hc : h.Contained) (hp : Passage h t result) (ht : t ≠ .act .cancel) :
    result.1.Contained := by
  unfold Contained at hc
  cases hp with
  | peer hleg => exact contained_withLeg hc hleg (Leg.closesLike_apply _ _)
  | unresolved hstage | refused hstage | unnamed hstage | uncovered hstage | unshaken hstage =>
    simp only [hstage] at hc
    exact contained_dialFailed hc
  | dial hstage | covered hstage =>
    simp only [hstage] at hc
    exact hc
  | connected hstage | shaken hstage =>
    simp only [hstage] at hc
    exact ⟨hc, rfl, rfl⟩
  | cancelDial | cancelHandshake | cancelFailed => exact absurd rfl ht
  | @relay relay act own result hstage hown hstep =>
    simp only [hstage] at hc
    have hcancel := Act.onRelay_ne_cancel hown fun hact => ht (by rw [hact])
    obtain ⟨hlegs, hcancelled, hending⟩ := Relay.frame_step (Relay.passage_of_step hstep)
    have hin := (hlegs .inbound).fault.trans hc.1
    rcases h.withRelay_cases result.1 result.2 with ⟨hopen, heq⟩ | ⟨ending, hended, heq⟩
    · rw [heq]
      exact ⟨hin, (hcancelled hcancel).trans hc.2.1, hopen⟩
    · rw [heq]
      -- the relay has ended just now, and nobody has cancelled it
      refine contained_finish hin ((isCancelled_conclude ending).trans ?_)
      rcases hending with hsame | ⟨-, hclose⟩
      · rw [hsame, hc.2.2] at hended
        cases hended
      · rw [hclose, (Relay.closeLegs_frame relay).1, Option.some.injEq] at hended
        rw [← hended]
        exact Relay.isCancelled_endingOf hc.2.1
  | @gateway gateway outbound act own result hstage hown hstep =>
    simp only [hstage] at hc
    have hcancel := Act.onGateway_ne_cancel hown fun hact => ht (by rw [hact])
    have hpassage := Gateway.passage_of_step (Act.onGateway_ne_peer hown) hstep
    have hin := (Gateway.closesLike_of_passage hpassage).fault.trans hc.1
    have hending := Gateway.isCancelled_of_passage hpassage hcancel hc.2
    rcases h.withGateway_cases outbound result.1 result.2 with ⟨-, heq⟩ | ⟨ending, hended, heq⟩
    · rw [heq]
      exact ⟨hin, hending⟩
    · rw [heq]
      rw [hended] at hending
      exact contained_finish hin ((Ending.isCancelled_void ending).trans hending)

/-! ## Independence -/

/-- **No destination that a URL may have needs certificates**, so the trust
cache is not asked. -/
def Bare (platform : Platform) (url : String) : Prop :=
  ∀ destination, Destination.parse platform url = .ok destination → destination.kind ≠ .https

theorem askTrust_of_create {destination : Destination} {transport : Transport}
    (hkind : destination.kind ≠ .https)
    (hcreate : (Registry.standard platform).create destination = .ok transport)
    (cache : Trust.Cache Trust.Context) (load : Trust.Outcome Trust.Context) :
    Opening.askTrust transport cache load = (.ok none, cache) := by
  cases transport with
  | tls host port serverName =>
    unfold Registry.create at hcreate
    cases platform <;> cases hk : destination.kind <;>
      simp_all [Registry.standard, Registry.lookup, Registry.register, Registry.withPort,
        Transport.ofTcp, Transport.ofUnix, Transport.ofPipe]
  | tcp | unix | pipe | custom => rfl

/-- A handler of such a destination starts as if it was alone. -/
theorem start_eq (hbare : Bare platform url) (cache : Trust.Cache Trust.Context)
    (load : Trust.Outcome Trust.Context) (inbound : Leg) :
    (h.start platform url cache load inbound).1 = (h.start platform url {} load inbound).1 := by
  unfold start
  cases htransport : transportOf platform url with
  | error fault => rfl
  | ok transport =>
    have hask := fun cache => by
      unfold transportOf at htransport
      split at htransport
      · cases htransport
      · rename_i destination hparse
        exact askTrust_of_create (hbare destination hparse) htransport cache load
    simp only [hask]

theorem step_bare (hbare : Bare platform url) (h : Handler) (t : Turn) :
    (life platform url).step h t = (life platform url).step h t.bare := by
  cases t with
  | act own => rfl
  | begin cache load =>
    simp only [life, turn, Turn.bare]
    split
    · rw [start_eq hbare cache]
    · rfl

/-- **So does all of its life.** -/
theorem run_bare (hbare : Bare platform url) (h : Handler) (taken : List Turn) :
    (life platform url).run h taken = (life platform url).run h (taken.map Turn.bare) := by
  induction taken generalizing h with
  | nil => rfl
  | cons t taken ih =>
    rw [List.map_cons, Machine.run, Machine.run, step_bare hbare]
    simp only [ih]

end Handler

namespace Forwarder

variable {url sourceId sourceId' : String} {platform : Platform}
variable {cache cache' : Trust.Cache Trust.Context}
variable {f f' : Forwarder} {act : Act} {acts acts' : List Act} {events events' : List Event}
variable {result : Forwarder × List Event}

/-! ## Runs that nobody disturbs -/

/-- **An action by which nobody disturbs the forwarder**: it is not cancelled,
its source does not fail, those who are told of a connection do not, and
closing the inbound leg does not. -/
def Act.Undisturbed : Act → Prop
  | .supplied (.connection _ leg) receivers => receivers.accepted = none ∧ leg.closeFault = none
  | .supplied (.failed _) _ | .cancel => False
  | .supplied .exhausted _ | .begin _ _ | .handler _ _ | .finish => True

/-- A loop that nothing has broken. -/
def Loop.Unbroken : Loop → Prop
  | .accepting | .draining => True
  | .ended ending => ending = .returned ()
  | .failing _ | .breaking _ | .cancelled => False

theorem Loop.Unbroken.not_cancelling {loop : Loop} (h : loop.Unbroken) :
    loop.isCancelling = false := by
  cases loop with
  | accepting | draining | ended => rfl
  | failing | breaking | cancelled => cases h

/-- What is kept while nobody disturbs the forwarder. -/
structure Calm (f : Forwarder) : Prop where
  loop : f.loop.Unbroken
  handlers : ∀ h ∈ f.handlers, h.Contained

theorem escaped?_of_contained {h : Handler} (hc : h.Contained) : h.escaped? = none := by
  unfold Handler.Contained at hc
  unfold Handler.escaped?
  split
  · rename_i hstage
    simp only [hstage] at hc
    cases hc
  · rename_i hstage
    simp only [hstage] at hc
    cases hc
  · rfl

/-- **Nothing that happens on a connection disturbs the forwarder.** -/
theorem calm_step (h : f.Calm) (hp : Passage f act result) (hact : act.Undisturbed) :
    result.1.Calm := by
  cases hp with
  | @accept conn leg receivers hloop =>
    obtain ⟨haccepted, hleg⟩ := hact
    refine ⟨by rw [haccepted]; trivial, fun k hk => ?_⟩
    rcases List.mem_append.mp hk with hold | hnew
    · exact h.handlers k hold
    · obtain rfl := List.mem_singleton.mp hnew
      simpa [Handler.accepted, Handler.Contained, haccepted] using hleg
  | exhausted => exact ⟨trivial, h.handlers⟩
  | failed | cancel => cases hact
  | @turn act i old t cache next hget hturn hcancel hstep =>
    have hold := h.handlers old (List.mem_of_getElem? hget)
    -- while the loop is unbroken nobody is cancelled
    have hturn : t ≠ .act .cancel := fun ht => by
      have hcancelling := hcancel ht
      rw [h.loop.not_cancelling] at hcancelling
      cases hcancelling
    have hnew := Handler.contained_step hold (Handler.passage_of_turn hstep) hturn
    refine ⟨?_, fun k hk => ?_⟩
    · simp only [loopAfter, escaped?_of_contained hnew, Option.elim_none, ite_self]
      exact h.loop
    · rcases List.mem_or_eq_of_mem_set hk with hother | rfl
      · exact h.handlers k hother
      · exact hnew
  | finish hall hconclude =>
    refine ⟨?_, h.handlers⟩
    have hloop := h.loop
    unfold conclude at hconclude
    split at hconclude
    · cases hconclude
    · cases hconclude
    · obtain ⟨rfl, -⟩ := Prod.mk.inj (Option.some.inj hconclude)
      exact rfl
    all_goals
      rename_i heq
      rw [heq] at hloop
      cases hloop

theorem calm_run (h : machine.run (new url sourceId platform cache) acts = some (f, events))
    (hacts : ∀ act ∈ acts, act.Undisturbed) : f.Calm := by
  refine Machine.run_induction_of (P := fun f _ _ => f.Calm) (Q := Act.Undisturbed) ?_ ?_ h hacts
  · exact ⟨trivial, fun k hk => by cases hk⟩
  · intro f next act acts events more _ hcalm hstep hact
    exact calm_step hcalm (passage_of_step hstep) hact

/-! ## Isolation -/

/-- What a handler can do next is up to the handler, while none is cancelled. -/
theorem isSome_step {i j : Nat} (hloop : f.loop.isCancelling = false)
    (hloop' : f'.loop.isCancelling = false) (hsame : f.handlers[i]? = f'.handlers[j]?) :
    (∀ own, (f.step (.handler i own)).isSome = (f'.step (.handler j own)).isSome) ∧
      ∀ load, (f.step (.begin i load)).isSome = (f'.step (.begin j load)).isSome := by
  cases hget : f'.handlers[j]? with
  | none =>
    rw [hget] at hsame
    refine ⟨fun own => ?_, fun load => by simp [step, hget, hsame]⟩
    cases own <;> simp [step, handle, hget, hsame, hloop, hloop']
  | some k =>
    rw [hget] at hsame
    refine ⟨fun own => ?_, fun load => ?_⟩
    · cases own <;> simp [step, handle, hget, hsame, hloop, hloop']
    · simp only [step, hget, hsame, Option.bind_some, begin]
      split <;> rfl

/-- **A handler of a run is what its turns alone make of it**, if the trust
cache is not asked. -/
theorem lane_bare (h : machine.run (new url sourceId platform cache) acts = some (f, events))
    (hbare : Handler.Bare platform url) {i : Nat} {start : Handler}
    (hstart : (arrivals acts)[i]? = some start) :
    ∃ k, f.handlers[i]? = some k ∧
      (Handler.life platform url).run start (turns i acts) = some (k, eventsOf i events) := by
  obtain ⟨k, taken, hget, htaken, hrun⟩ := lane_of_run h hstart
  refine ⟨k, hget, ?_⟩
  rw [← htaken, ← Handler.run_bare hbare]
  exact hrun

/-- **Connections are contained and isolated.** Take two runs to a destination
without certificates that nobody disturbs. No handler ends but by returning,
and none is cancelled. And if a connection of the one is also one of the other,
and the two agree on what happens to it, then they agree on all that is seen of
it and on what it can do next, whatever happens on the other connections. -/
theorem connections_isolated
    (h : machine.run (new url sourceId platform cache) acts = some (f, events))
    (h' : machine.run (new url sourceId' platform cache') acts' = some (f', events'))
    (hacts : ∀ act ∈ acts, act.Undisturbed) (hacts' : ∀ act ∈ acts', act.Undisturbed)
    (hbare : Handler.Bare platform url) :
    (f.loop.isCancelling = false ∧
        ∀ k ∈ f.handlers, ∀ ending, k.ending? = some ending → ending = .returned ()) ∧
      ∀ i j start, (arrivals acts)[i]? = some start → (arrivals acts')[j]? = some start →
        turns i acts = turns j acts' →
          eventsOf i events = eventsOf j events' ∧
            (announced events)[i]? = (announced events')[j]? ∧
            (said events)[i]? = (said events')[j]? ∧
            f.handlers[i]? = f'.handlers[j]? ∧
            (∀ own, (f.step (.handler i own)).isSome = (f'.step (.handler j own)).isSome) ∧
            ∀ load, (f.step (.begin i load)).isSome = (f'.step (.begin j load)).isSome := by
  have hcalm := calm_run h hacts
  have hcalm' := calm_run h' hacts'
  refine ⟨⟨hcalm.loop.not_cancelling, fun k hk ending hending => ?_⟩,
    fun i j start hstart hstart' hturns => ?_⟩
  · exact Handler.returned_of_contained (hcalm.handlers k hk) hending
  · obtain ⟨k, hk, hrun⟩ := lane_bare h hbare hstart
    obtain ⟨k', hk', hrun'⟩ := lane_bare h' hbare hstart'
    -- one life, taken twice
    rw [hturns, hrun'] at hrun
    obtain ⟨rfl, hevents⟩ := Prod.mk.inj (Option.some.inj hrun)
    obtain ⟨hannounced, hsaid⟩ := (told_of_run h).at hstart
    obtain ⟨hannounced', hsaid'⟩ := (told_of_run h').at hstart'
    have hsame : f.handlers[i]? = f'.handlers[j]? := hk.trans hk'.symm
    exact ⟨hevents.symm, hannounced.trans hannounced'.symm, hsaid.trans hsaid'.symm, hsame,
      isSome_step hcalm.loop.not_cancelling hcalm'.loop.not_cancelling hsame⟩

/-- The turns of a connection that is relayed. -/
def relayed (i : Nat) : List Act :=
  [.begin i (.error .streamClosed), .handler i (.delivered (.ok { leg := {} })),
    .handler i (.peer .inbound (.deliver [1, 2])), .handler i (.advance .inbound),
    .handler i (.advance .inbound)]

/-- A run in which the dial of the first connection fails, and so do those who
are told. -/
def besideFailure : List Act :=
  [.supplied (.connection {} {}) { dialFailed := some .streamClosed },
      .supplied (.connection { id := "b" } {}) {}] ++
    (relayed 1).take 3 ++
    [.begin 0 (.error .streamClosed), .handler 0 (.delivered (.error .streamClosed))] ++
    (relayed 1).drop 3

/-- A run in which there is only the second of these connections. -/
def alone : List Act := .supplied (.connection { id := "b" } {}) {} :: relayed 0

theorem besideFailure_isolated :
    ∃ f events f' events',
      machine.run (new "tcp://a:1" "s" .posix {}) besideFailure = some (f, events) ∧
      machine.run (new "tcp://a:1" "s" .posix {}) alone = some (f', events') ∧
      f.loop.isCancelling = false ∧ f.handlers[0]?.any (·.isEnded) = true ∧
      (eventsOf 1 events).length = 3 ∧ eventsOf 1 events = eventsOf 0 events' := by
  obtain ⟨⟨f, events⟩, h⟩ := Option.isSome_iff_exists.mp
    (show (machine.run (new "tcp://a:1" "s" .posix {}) besideFailure).isSome = true by
      decide +kernel)
  obtain ⟨⟨f', events'⟩, h'⟩ := Option.isSome_iff_exists.mp
    (show (machine.run (new "tcp://a:1" "s" .posix {}) alone).isSome = true by decide +kernel)
  have hseen : (machine.run (new "tcp://a:1" "s" .posix {}) besideFailure).all (fun r =>
      r.1.handlers[0]?.any (·.isEnded) && (eventsOf 1 r.2).length == 3) = true := by
    decide +kernel
  have hkind : (Destination.parse .posix "tcp://a:1").toOption.map (·.kind) = some .tcp := by
    decide +kernel
  have hbare : Handler.Bare .posix "tcp://a:1" := fun destination hparse => by
    rw [hparse] at hkind
    have htcp : destination.kind = .tcp := Option.some.inj hkind
    rw [htcp]
    decide
  obtain ⟨⟨hloop, -⟩, hisolated⟩ := connections_isolated h h'
    (by simp [besideFailure, relayed, Act.Undisturbed]) (by simp [alone, relayed, Act.Undisturbed])
    hbare
  rw [h] at hseen
  simp only [Option.all_some, Bool.and_eq_true, beq_iff_eq] at hseen
  exact ⟨f, events, f', events', h, h', hloop, hseen.1, hseen.2,
    (hisolated 1 0 (.accepted { id := "b" } {} {}) rfl rfl rfl).1⟩

end Forwarder

end TunnelRelay
