import TunnelRelay.Forwarder.Handler
import TunnelRelay.Proofs.Runs
/-!
# The passages of a handler

A handler is started once and then takes its actions; both are its turns, and
its life is a machine of them. Each turn leads through one of a few passages,
which say all that the turn can do: where the handler goes on, what happens to
its legs on the way, and which events are seen. `passage_of_turn` reads them
off the machine once; every invariant of handlers is a case for each passage.
-/

namespace TunnelRelay

theorem Ending.isCancelled_void {α : Type} (ending : Ending α) :
    ending.void.isCancelled = ending.isCancelled := by
  cases ending <;> rfl

namespace Handler

/-- What a handler does at a time: it starts, with the trust cache as it is
then, or it takes an action. -/
inductive Turn where
  | begin (cache : Trust.Cache Trust.Context) (load : Trust.Outcome Trust.Context)
  | act (act : Act)

/-- The handler of a connection as it is accepted. -/
def accepted (conn : Inbound) (leg : Leg) (receivers : Receivers) : Handler :=
  { conn, receivers
    stage := if receivers.accepted.isNone then .starting leg else .dropped leg }

theorem leg?_accepted (conn : Inbound) (leg : Leg) (receivers : Receivers) :
    (accepted conn leg receivers).leg? .inbound = some leg ∧
      (accepted conn leg receivers).leg? .outbound = none := by
  unfold accepted
  cases receivers.accepted <;> exact ⟨rfl, rfl⟩

/-- The turns of a handler, one at a time. -/
def turn (platform : Platform) (url : String) (h : Handler) : Turn → Option (Handler × List Event)
  | .begin cache load =>
    match h.stage with
    | .starting inbound => some (h.start platform url cache load inbound).1
    | _ => none
  | .act act => h.step act

/-- The handler from its acceptance on, as a machine. -/
def life (platform : Platform) (url : String) : Machine Handler Turn Event :=
  ⟨turn platform url⟩

/-- What an action of a handler is to its relay. -/
def Act.onRelay : Act → Option Relay.Act
  | .advance side => some (.advance side)
  | .abandon side => some (.abandon side)
  | .closeLegs => some .close
  | .cancel => some .cancel
  | .peer _ _ | .delivered _ | .handshaken _ | .answer => none

/-- What an action of a handler is to its responder. -/
def Act.onGateway : Act → Option Gateway.Act
  | .answer => some .advance
  | .cancel => some .cancel
  | .peer _ _ | .delivered _ | .handshaken _ | .advance _ | .abandon _ | .closeLegs => none

/-- A handler does nothing to the leg of its responder from outside. -/
theorem Act.onGateway_ne_peer {act : Act} {own : Gateway.Act} (h : act.onGateway = some own)
    (other : Leg.Act) : own ≠ .peer other := by
  rintro rfl
  cases act <;> cases h

/-- Only the cancellation of a handler cancels its responder. -/
theorem Act.onGateway_ne_cancel {act : Act} {own : Gateway.Act} (h : act.onGateway = some own)
    (hact : act ≠ .cancel) : own ≠ .cancel := by
  rintro rfl
  cases act with
  | cancel => exact hact rfl
  | peer | delivered | handshaken | advance | abandon | closeLegs | answer => cases h

/-- Only the cancellation of a handler cancels its relay. -/
theorem Act.onRelay_ne_cancel {act : Act} {own : Relay.Act} (h : act.onRelay = some own)
    (hact : act ≠ .cancel) : own ≠ .cancel := by
  rintro rfl
  cases act with
  | cancel => exact hact rfl
  | peer | delivered | handshaken | advance | abandon | closeLegs | answer => cases h

/-- The events of closing a leg that is on its way to being used. -/
def discarded (leg : Leg) : List Event :=
  leg.closeEvents.map (.leg .outbound leg.cover)

variable {platform : Platform} {url : String} {h : Handler}

/-- **What a turn of a handler can do.** -/
inductive Passage (h : Handler) : Turn → Handler × List Event → Prop
  /-- Something happens to a leg from outside. -/
  | peer {side : Side} {act : Leg.Act} {leg : Leg} : h.leg? side = some leg →
      Passage h (.act (.peer side act))
        (h.withLeg side (leg.apply act).1, (leg.apply act).2.map (.leg side leg.cover))
  /-- The destination cannot be resolved, or the certificates are missing. -/
  | unresolved {cache : Trust.Cache Trust.Context} {load : Trust.Outcome Trust.Context}
      {inbound : Leg} {fault : Fault} : h.stage = .starting inbound →
      Passage h (.begin cache load) (h.dialFailed inbound none fault [])
  /-- The destination is dialed. -/
  | dial {cache : Trust.Cache Trust.Context} {load : Trust.Outcome Trust.Context}
      {inbound : Leg} {transport : Transport} {guard : Option Opening.Guard} :
      h.stage = .starting inbound →
      Passage h (.begin cache load)
        ({ h with stage := .dialing inbound transport guard }, [.dial transport.target])
  /-- The dial gives a fault. -/
  | refused {inbound : Leg} {transport : Transport} {guard : Option Opening.Guard}
      {fault : Fault} : h.stage = .dialing inbound transport guard →
      Passage h (.act (.delivered (.error fault)))
        (h.dialFailed inbound none (Opening.report fault) [])
  /-- The dial gives a leg whose socket cannot be asked for its peer. -/
  | unnamed {inbound : Leg} {transport : Transport} {guard : Option Opening.Guard}
      {delivery : Delivery} {fault : Fault} : h.stage = .dialing inbound transport guard →
      Opening.peerAfter transport transport.initialPeer delivery = .error fault →
      Passage h (.act (.delivered (.ok delivery)))
        (h.dialFailed inbound (some delivery.leg) (Opening.report fault) [])
  /-- The dial gives a leg that can be used as it is. -/
  | connected {inbound : Leg} {transport : Transport} {delivery : Delivery}
      {peer : Option String} : h.stage = .dialing inbound transport none →
      Passage h (.act (.delivered (.ok delivery))) (h.established inbound delivery.leg peer [])
  /-- TLS is put on the leg that the dial gives. -/
  | covered {inbound : Leg} {transport : Transport} {guard : Opening.Guard}
      {delivery : Delivery} {peer : Option String} :
      h.stage = .dialing inbound transport (some guard) →
      Passage h (.act (.delivered (.ok delivery)))
        ({ h with
            stage := .handshaking inbound guard peer { delivery.leg with cover := .tls } },
          [.cover guard])
  /-- TLS cannot be put on the leg, which is closed. -/
  | uncovered {inbound : Leg} {transport : Transport} {guard : Opening.Guard}
      {delivery : Delivery} {fault : Fault} :
      h.stage = .dialing inbound transport (some guard) →
      Passage h (.act (.delivered (.ok delivery)))
        (h.dialFailed inbound (some delivery.leg.closeNow) fault
          (.cover guard :: discarded delivery.leg))
  /-- The handshake succeeds. -/
  | shaken {inbound outbound : Leg} {guard : Opening.Guard} {peer : Option String} :
      h.stage = .handshaking inbound guard peer outbound →
      Passage h (.act (.handshaken none)) (h.established inbound outbound peer [.handshake])
  /-- The handshake fails, and the leg is closed. -/
  | unshaken {inbound outbound : Leg} {guard : Opening.Guard} {peer : Option String}
      {cause fault : Fault} : h.stage = .handshaking inbound guard peer outbound →
      Passage h (.act (.handshaken (some cause)))
        (h.dialFailed inbound (some outbound.closeNow) fault (discarded outbound))
  /-- The dial is cancelled. -/
  | cancelDial {inbound : Leg} {transport : Transport} {guard : Option Opening.Guard} :
      h.stage = .dialing inbound transport guard →
      Passage h (.act .cancel) (h.finish inbound none .cancelled [])
  /-- The handshake is cancelled, and the leg is closed. -/
  | cancelHandshake {inbound outbound : Leg} {guard : Opening.Guard} {peer : Option String} :
      h.stage = .handshaking inbound guard peer outbound →
      Passage h (.act .cancel)
        (h.finish inbound (some outbound.closeNow) .cancelled (discarded outbound))
  /-- The handshake is cancelled, and closing the leg gives a fault. -/
  | cancelFailed {inbound outbound : Leg} {guard : Opening.Guard} {peer : Option String}
      {fault : Fault} : h.stage = .handshaking inbound guard peer outbound →
      outbound.closeFault? = some fault →
      Passage h (.act .cancel)
        (h.dialFailed inbound (some outbound.closeNow) (Opening.report fault) (discarded outbound))
  /-- The relay makes a step. -/
  | relay {relay : Relay} {act : Act} {own : Relay.Act} {result : Relay × List Relay.Event} :
      h.stage = .relaying relay → act.onRelay = some own → relay.step own = some result →
      Passage h (.act act) (h.withRelay result)
  /-- The responder makes a step. -/
  | gateway {gateway : Gateway} {outbound : Option Leg} {act : Act} {own : Gateway.Act}
      {result : Gateway × List Gateway.Event} :
      h.stage = .answering gateway outbound → act.onGateway = some own →
      gateway.step own = some result →
      Passage h (.act act) (h.withGateway outbound result)

theorem map_ofOpening_closeEvents (leg : Leg) :
    (leg.closeEvents.map (Opening.Event.leg leg.cover)).map ofOpening = discarded leg := by
  rw [List.map_map]
  rfl

theorem passage_of_start {cache : Trust.Cache Trust.Context} {load : Trust.Outcome Trust.Context}
    {inbound : Leg} (hstage : h.stage = .starting inbound) :
    Passage h (.begin cache load) (h.start platform url cache load inbound).1 := by
  unfold start
  split
  · exact .unresolved hstage
  · rename_i transport _
    rcases Opening.askTrust transport cache load with ⟨fault | guard, cache⟩
    · exact .unresolved hstage
    · exact .dial hstage

theorem passage_of_deliver {inbound : Leg} {transport : Transport} {guard : Option Opening.Guard}
    (hstage : h.stage = .dialing inbound transport guard) (result : Except Fault Delivery) :
    Passage h (.act (.delivered result)) (h.deliver inbound transport guard result) := by
  cases result with
  | error fault => exact .refused hstage
  | ok delivery =>
    simp only [deliver]
    split
    · rename_i fault hpeer
      exact .unnamed hstage hpeer
    · rename_i peer _
      unfold Opening.afterDelivery
      split
      · exact .connected hstage
      · exact .covered hstage
      · simp only [Opening.discard, afterStage, List.map_cons, map_ofOpening_closeEvents]
        exact .uncovered hstage

theorem passage_of_handshake {inbound outbound : Leg} {guard : Opening.Guard}
    {peer : Option String} (hstage : h.stage = .handshaking inbound guard peer outbound)
    (fault : Option Fault) :
    Passage h (.act (.handshaken fault))
      (h.afterStage inbound peer (Opening.afterHandshake guard outbound fault)) := by
  cases fault with
  | none => exact .shaken hstage
  | some fault =>
    simp only [Opening.afterHandshake, Opening.discard, afterStage, map_ofOpening_closeEvents]
    exact .unshaken hstage

theorem passage_of_cancel {result : Handler × List Event} (hcancel : h.cancel = some result) :
    Passage h (.act .cancel) result := by
  unfold cancel at hcancel
  split at hcancel
  · rename_i inbound _ _ hstage
    obtain rfl : _ = result := by simpa using hcancel
    exact .cancelDial hstage
  · rename_i inbound _ _ outbound hstage
    obtain rfl : _ = result := by simpa using hcancel
    simp only [Opening.cancelHandshake, map_ofOpening_closeEvents]
    split
    · rename_i fault hfault
      exact .cancelFailed hstage hfault
    · exact .cancelHandshake hstage
  · rename_i relay hstage
    obtain ⟨result, hstep, rfl⟩ := Option.map_eq_some_iff.mp hcancel
    exact .relay hstage rfl hstep
  · rename_i gateway outbound hstage
    obtain ⟨result, hstep, rfl⟩ := Option.map_eq_some_iff.mp hcancel
    exact .gateway hstage rfl hstep
  · cases hcancel

/-- **Every turn is one of the passages.** -/
theorem passage_of_turn {t : Turn} {result : Handler × List Event}
    (hstep : (life platform url).step h t = some result) : Passage h t result := by
  cases t with
  | begin cache load =>
    simp only [life, turn] at hstep
    split at hstep
    · rename_i inbound hstage
      obtain rfl : _ = result := by simpa using hstep
      exact passage_of_start hstage
    · cases hstep
  | act act =>
    simp only [life, turn] at hstep
    cases act with
    | peer side act =>
      obtain ⟨leg, hleg, rfl⟩ := Option.map_eq_some_iff.mp hstep
      exact .peer hleg
    | delivered result =>
      simp only [step] at hstep
      split at hstep
      · rename_i hstage
        obtain rfl := Option.some.inj hstep
        exact passage_of_deliver hstage result
      · cases hstep
    | handshaken fault =>
      simp only [step] at hstep
      split at hstep
      · rename_i hstage
        obtain rfl := Option.some.inj hstep
        exact passage_of_handshake hstage fault
      · cases hstep
    | cancel => exact passage_of_cancel hstep
    | answer =>
      simp only [step] at hstep
      split at hstep
      · rename_i gateway outbound hstage
        obtain ⟨result, hown, rfl⟩ := Option.map_eq_some_iff.mp hstep
        exact .gateway hstage rfl hown
      · cases hstep
    | advance side | abandon side | closeLegs =>
      simp only [step] at hstep
      split at hstep
      · rename_i relay hstage
        obtain ⟨result, hown, rfl⟩ := Option.map_eq_some_iff.mp hstep
        exact .relay hstage rfl hown
      · cases hstep

/-! ## What a passage leads to -/

/-- After a fault of dialing the handler ends, unless there is a client to
answer. -/
theorem dialFailed_cases (h : Handler) (inbound : Leg) (outbound : Option Leg) (fault : Fault)
    (events : List Event) :
    (h.receivers.dialFailed = none ∧ isDialFault fault = true ∧
        Gateway.answers h.conn.protocol = true ∧
        h.dialFailed inbound outbound fault events =
          ({ h with
              stage := .answering
                { leg := inbound, reason := fault.message, subject := h.conn.subject } outbound },
            events ++ [h.dialRecord fault, .dialFailed fault])) ∨
      (h.receivers.dialFailed.isSome ∨ isDialFault fault = false ∨
          Gateway.answers h.conn.protocol = false) ∧
        ∃ ending, ending.isCancelled = false ∧ h.dialFailed inbound outbound fault events =
          h.finish inbound outbound ending
            (events ++ [h.dialRecord fault, .dialFailed fault]) := by
  simp only [dialFailed]
  split
  · rename_i failure hfailure
    exact Or.inr ⟨Or.inl (by rw [hfailure]; rfl), .raised failure, rfl, rfl⟩
  · rename_i hnone
    split
    · rename_i hanswer
      rw [Bool.and_eq_true] at hanswer
      exact Or.inl ⟨hnone, hanswer.1, hanswer.2, rfl⟩
    · rename_i hsilent
      rw [Bool.and_eq_true, not_and_or, Bool.not_eq_true, Bool.not_eq_true] at hsilent
      exact Or.inr ⟨Or.inr hsilent, .returned (), rfl, rfl⟩

/-- After a step of its relay the handler goes on with it, or ends with it. -/
theorem withRelay_cases (h : Handler) (relay : Relay) (events : List Relay.Event) :
    (relay.ending = none ∧
        h.withRelay (relay, events) = ({ h with stage := .relaying relay }, events.map ofRelay)) ∨
      ∃ ending, relay.ending = some ending ∧
        h.withRelay (relay, events) =
          h.finish relay.legs.inbound (some relay.legs.outbound) (h.conclude ending).1
            (events.map ofRelay ++ (h.conclude ending).2) := by
  simp only [withRelay]
  split
  · rename_i ending hending
    exact Or.inr ⟨ending, hending, rfl⟩
  · rename_i hending
    exact Or.inl ⟨hending, rfl⟩

theorem isCancelled_join (subject : Log.Subject) (ending : Ending Relay.Outcome) :
    (Relay.join subject ending).1.isCancelled = ending.isCancelled := by
  cases ending with
  | raised fault =>
    simp only [Relay.join]
    split <;> rfl
  | returned | group | cancelled => rfl

/-- A handler ends as cancelled exactly if its relay does. -/
theorem isCancelled_conclude (ending : Ending Relay.Outcome) :
    (h.conclude ending).1.isCancelled = ending.isCancelled := by
  rw [← isCancelled_join h.conn.subject ending]
  simp only [conclude]
  cases (Relay.join h.conn.subject ending).1 with
  | returned outcome => cases h.receivers.relayClosed <;> rfl
  | raised | group | cancelled => rfl

/-- After a step of its responder the handler goes on with it, or ends with
it. -/
theorem withGateway_cases (h : Handler) (outbound : Option Leg) (gateway : Gateway)
    (events : List Gateway.Event) :
    ((∀ ending, gateway.stage ≠ .ended ending) ∧
        h.withGateway outbound (gateway, events) =
          ({ h with stage := .answering gateway outbound },
            events.map (ofGateway gateway.leg.cover))) ∨
      ∃ ending, gateway.stage = .ended ending ∧
        h.withGateway outbound (gateway, events) =
          h.finish gateway.leg outbound ending.void
            (events.map (ofGateway gateway.leg.cover)) := by
  simp only [withGateway]
  split
  · rename_i ending hending
    exact Or.inr ⟨ending, hending, rfl⟩
  · rename_i hopen
    exact Or.inl ⟨hopen, rfl⟩

/-- A turn changes the stage of a handler and nothing else of it. -/
theorem same_of_passage {t : Turn} {result : Handler × List Event} (hp : Passage h t result) :
    result.1.conn = h.conn ∧ result.1.receivers = h.receivers := by
  have hdialFailed (inbound : Leg) (outbound : Option Leg) (fault : Fault) (events : List Event) :
      (h.dialFailed inbound outbound fault events).1.conn = h.conn ∧
        (h.dialFailed inbound outbound fault events).1.receivers = h.receivers := by
    rcases h.dialFailed_cases inbound outbound fault events with
      ⟨-, -, -, heq⟩ | ⟨-, ending, -, heq⟩ <;> rw [heq] <;> exact ⟨rfl, rfl⟩
  cases hp with
  | peer | dial | connected | covered | shaken | cancelDial | cancelHandshake => exact ⟨rfl, rfl⟩
  | unresolved | refused | unnamed | uncovered | unshaken | cancelFailed =>
    exact hdialFailed _ _ _ _
  | @relay _ _ _ step =>
    rcases h.withRelay_cases step.1 step.2 with ⟨-, heq⟩ | ⟨ending, -, heq⟩ <;>
      rw [heq] <;> exact ⟨rfl, rfl⟩
  | @gateway _ outbound _ _ step =>
    rcases h.withGateway_cases outbound step.1 step.2 with ⟨-, heq⟩ | ⟨ending, -, heq⟩ <;>
      rw [heq] <;> exact ⟨rfl, rfl⟩

theorem same_of_run {start : Handler} {taken : List Turn} {events : List Event}
    (h' : (life platform url).run start taken = some (h, events)) :
    h.conn = start.conn ∧ h.receivers = start.receivers := by
  refine Machine.run_induction
    (P := fun k _ _ => k.conn = start.conn ∧ k.receivers = start.receivers) ?_ ?_ h'
  · exact ⟨rfl, rfl⟩
  · intro k next t taken events more _ hk hstep
    obtain ⟨hconn, hreceivers⟩ := same_of_passage (passage_of_turn hstep)
    exact ⟨hconn.trans hk.1, hreceivers.trans hk.2⟩

end Handler

end TunnelRelay
