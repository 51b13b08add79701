import TunnelRelay.Proofs.Conservation
import TunnelRelay.Proofs.Lanes
import TunnelRelay.Proofs.Responder
/-!
# No leg survives its handler

A handler holds the inbound leg from the start, and the outbound leg from the
moment its dial delivers one. Whatever its stage, each leg that it holds is
either still in use, and then there is a passage that closes it, or has been
closed already (`Handler.Holds`); and a leg is not closed unseen
(`Handler.Shows`). When a forwarder ends, all its handlers have ended, and so
every leg that it was ever given is closed.

Three things are assumed of the outside world: that closing a leg does not fail
and is not held up, and that a socket names its peer or says that it cannot.
-/

namespace TunnelRelay

/-- **A leg that can be closed**: closing it does not fail, and is not held
up. -/
structure Leg.Closable (leg : Leg) : Prop where
  noFault : leg.closeFault = none
  notHeld : leg.closeHeld = false

namespace Leg

variable {leg next : Leg} {act : Act}

theorem closable_iff : leg.Closable ↔ leg.closeFault = none ∧ leg.closeHeld = false :=
  ⟨fun h => ⟨h.noFault, h.notHeld⟩, fun h => ⟨h.1, h.2⟩⟩

theorem Closable.of_like (h : leg.Closable) (hlike : next.ClosesLike leg) : next.Closable :=
  ⟨hlike.fault.trans h.noFault, hlike.held.trans h.notHeld⟩

theorem Closable.closed_closeNow (h : leg.Closable) : leg.closeNow.closed = true := by
  simp [closeNow, h.notHeld]

end Leg

/-- The name of an internet socket, or that of any other. -/
def PeerName.IsAddress : PeerName → Prop
  | .tuple (.string _ :: .int _ :: _) | .plain _ => True
  | _ => False

/-- **A socket that names its peer, or says that it cannot.** -/
def Delivery.Named (delivery : Delivery) : Prop :=
  match delivery.peer with
  | .ok name => name.IsAddress
  | .error fault => fault.kind.isSystem = true

theorem PeerName.text_of_isAddress {name : PeerName} (h : name.IsAddress) :
    ∃ text, name.text = .ok text := by
  unfold IsAddress at h
  split at h
  · rename_i host port rest
    unfold text
    simp only [hostHasColon, bind, Except.bind]
    split <;> exact ⟨_, rfl⟩
  · exact ⟨_, rfl⟩
  · cases h

theorem Opening.peerAfter_ne_error {delivery : Delivery} (h : delivery.Named)
    (transport : Transport) (old : Option String) (fault : Fault) :
    Opening.peerAfter transport old delivery ≠ .error fault := by
  have hname : ∀ cause, delivery.peer.bind PeerName.text = .error cause →
      cause.kind.isSystem = true := by
    intro cause hcause
    unfold Delivery.Named at h
    cases hpeer : delivery.peer with
    | ok name =>
      rw [hpeer] at h hcause
      obtain ⟨text, htext⟩ := PeerName.text_of_isAddress h
      rw [Except.bind, htext] at hcause
      cases hcause
    | error known =>
      rw [hpeer] at h hcause
      obtain rfl : known = cause := Except.error.inj hcause
      exact h
  unfold Opening.peerAfter
  split
  · split
    · exact nofun
    · rename_i cause hcause
      rw [if_pos (hname cause hcause)]
      exact nofun
  · split
    · exact nofun
    · rename_i cause hcause
      rw [if_pos (hname cause hcause)]
      exact nofun
  · exact nofun

namespace Handler

variable {h : Handler} {inbound : Leg} {outbound : Option Leg} {ending : Ending Unit}
variable {events more : List Event} {platform : Platform} {url : String} {t : Turn}
variable {taken : List Turn} {result : Handler × List Event} {deliveries : List Delivery}

/-! ## What a handler holds -/

/-- What a turn delivers. -/
def Turn.delivery? : Turn → Option Delivery
  | .act (.delivered (.ok delivery)) => some delivery
  | _ => none

/-- **Turns that keep the promises of the outside world.** -/
def Turn.Sound (t : Turn) : Prop :=
  ∀ delivery, t.delivery? = some delivery → delivery.leg.Closable ∧ delivery.Named

/-- The outbound leg of a handler that is done with it: it was never delivered,
or it is closed. -/
def Settled (deliveries : List Delivery) (outbound : Option Leg) : Prop :=
  deliveries = [] ∧ outbound = none ∨
    ∃ delivery leg, deliveries = [delivery] ∧ outbound = some leg ∧ leg.closed = true

/-- **What a handler holds.** Legs in use can be closed, and all others are. The
outbound leg is there once it has been delivered. -/
def Holds (deliveries : List Delivery) (h : Handler) : Prop :=
  match h.stage with
  | .starting inbound | .dialing inbound _ _ => inbound.Closable ∧ deliveries = []
  | .handshaking inbound _ _ outbound =>
    inbound.Closable ∧ outbound.Closable ∧ ∃ delivery, deliveries = [delivery]
  | .relaying relay => (∀ side, (relay.legs.get side).Closable) ∧ relay.ending = none ∧
      ∃ delivery, deliveries = [delivery]
  | .answering gateway outbound => gateway.leg.Closable ∧ Settled deliveries outbound
  | .ended inbound outbound _ => inbound.closed = true ∧ Settled deliveries outbound
  | .dropped _ => False

theorem Settled.apply {leg : Leg} (h : Settled deliveries (some leg)) (act : Leg.Act) :
    Settled deliveries (some (leg.apply act).1) := by
  rcases h with ⟨-, hnone⟩ | ⟨delivery, other, hone, heq, hclosed⟩
  · cases hnone
  · obtain rfl := Option.some.inj heq
    exact Or.inr ⟨delivery, _, hone, rfl, Leg.closed_apply hclosed⟩

theorem settled_of_closable {delivery : Delivery} {leg : Leg} (hleg : leg.Closable) :
    Settled [delivery] (some leg.closeNow) :=
  Or.inr ⟨delivery, _, rfl, rfl, hleg.closed_closeNow⟩

theorem holds_finish (hin : inbound.Closable) (hout : Settled deliveries outbound) :
    Holds deliveries (h.finish inbound outbound ending events).1 :=
  ⟨hin.closed_closeNow, hout⟩

theorem holds_dialFailed {fault : Fault} (hin : inbound.Closable)
    (hout : Settled deliveries outbound) :
    Holds deliveries (h.dialFailed inbound outbound fault events).1 := by
  rcases h.dialFailed_cases inbound outbound fault events with
    ⟨-, -, -, heq⟩ | ⟨-, ending, -, heq⟩
  · rw [heq]
    exact ⟨hin, hout⟩
  · rw [heq]
    exact holds_finish hin hout

theorem holds_peer {side : Side} {leg : Leg} (hh : Holds deliveries h)
    (hleg : h.leg? side = some leg) (act : Leg.Act) :
    Holds deliveries (h.withLeg side (leg.apply act).1) := by
  have hlike := leg.closesLike_apply act
  unfold Holds at hh
  cases hstage : h.stage with
  | starting inbound | dialing inbound =>
    simp only [hstage] at hh
    cases side with
    | inbound =>
      obtain rfl : inbound = leg := by simpa [leg?, hstage] using hleg
      simpa [withLeg, hstage, Holds] using ⟨hh.1.of_like hlike, hh.2⟩
    | outbound => simp [leg?, hstage] at hleg
  | handshaking inbound guard peer outbound =>
    simp only [hstage] at hh
    cases side with
    | inbound =>
      obtain rfl : inbound = leg := by simpa [leg?, hstage] using hleg
      simpa [withLeg, hstage, Holds] using ⟨hh.1.of_like hlike, hh.2⟩
    | outbound =>
      obtain rfl : outbound = leg := by simpa [leg?, hstage] using hleg
      simpa [withLeg, hstage, Holds] using ⟨hh.1, hh.2.1.of_like hlike, hh.2.2⟩
  | relaying relay =>
    simp only [hstage] at hh
    obtain rfl : relay.legs.get side = leg := by simpa [leg?, hstage] using hleg
    simp only [withLeg, hstage, Holds]
    exact ⟨fun s => (hh.1 s).of_like (Relay.closesLike_set hlike s), hh.2⟩
  | answering gateway outbound =>
    simp only [hstage] at hh
    cases side with
    | inbound =>
      obtain rfl : gateway.leg = leg := by simpa [leg?, hstage] using hleg
      simpa [withLeg, hstage, Holds] using ⟨hh.1.of_like hlike, hh.2⟩
    | outbound =>
      obtain rfl : outbound = some leg := by simpa [leg?, hstage] using hleg
      simpa [withLeg, hstage, Holds] using ⟨hh.1, hh.2.apply act⟩
  | ended inbound outbound ending =>
    simp only [hstage] at hh
    cases side with
    | inbound =>
      obtain rfl : inbound = leg := by simpa [leg?, hstage] using hleg
      simpa [withLeg, hstage, Holds] using ⟨Leg.closed_apply hh.1, hh.2⟩
    | outbound =>
      obtain rfl : outbound = some leg := by simpa [leg?, hstage] using hleg
      simpa [withLeg, hstage, Holds] using ⟨hh.1, hh.2.apply act⟩
  | dropped inbound => simp only [hstage] at hh

/-- A relay that closes its legs closes both. -/
theorem closed_closeLegs {r : Relay} (h : ∀ side, (r.legs.get side).Closable) (side : Side) :
    (r.closeLegs.1.legs.get side).closed = true := by
  have hnone : r.legs.inbound.closeFault? = none := Leg.closeFault?_eq_none (h .inbound).noFault
  simp only [Relay.closeLegs, hnone]
  cases side with
  | inbound => exact (h .inbound).closed_closeNow
  | outbound => exact (h .outbound).closed_closeNow

/-- **Every turn keeps hold of the legs.** -/
theorem holds_step (hh : Holds deliveries h) (hp : Passage h t result) (ht : t.Sound) :
    Holds (deliveries ++ t.delivery?.toList) result.1 := by
  cases hp with
  | peer hleg => simpa [Turn.delivery?] using holds_peer hh hleg _
  | unresolved hstage | refused hstage =>
    simp only [Holds, hstage] at hh
    simpa [Turn.delivery?] using holds_dialFailed hh.1 (Or.inl ⟨hh.2, rfl⟩)
  | dial hstage =>
    simp only [Holds, hstage] at hh
    simpa [Turn.delivery?, Holds] using hh
  | unnamed hstage hpeer =>
    -- a socket that keeps its promise never leads here
    exact absurd hpeer (Opening.peerAfter_ne_error (ht _ rfl).2 _ _ _)
  | @connected inbound transport delivery peer hstage =>
    simp only [Holds, hstage] at hh
    rw [hh.2]
    refine ⟨fun side => ?_, rfl, delivery, rfl⟩
    cases side with
    | inbound => exact hh.1
    | outbound => exact (ht delivery rfl).1
  | @covered inbound transport guard delivery peer hstage =>
    simp only [Holds, hstage] at hh
    rw [hh.2]
    exact ⟨hh.1, (ht delivery rfl).1.of_like ⟨rfl, rfl⟩, delivery, rfl⟩
  | @uncovered inbound transport guard delivery fault hstage =>
    simp only [Holds, hstage] at hh
    rw [hh.2]
    exact holds_dialFailed hh.1 (settled_of_closable (ht delivery rfl).1)
  | shaken hstage =>
    simp only [Holds, hstage] at hh
    obtain ⟨hin, hout, hone⟩ := hh
    refine ⟨fun side => ?_, rfl, by simpa [Turn.delivery?] using hone⟩
    cases side with
    | inbound => exact hin
    | outbound => exact hout
  | unshaken hstage =>
    simp only [Holds, hstage] at hh
    obtain ⟨hin, hout, delivery, rfl⟩ := hh
    simpa [Turn.delivery?] using holds_dialFailed hin (settled_of_closable hout)
  | cancelDial hstage =>
    simp only [Holds, hstage] at hh
    simpa [Turn.delivery?] using holds_finish hh.1 (Or.inl ⟨hh.2, rfl⟩)
  | cancelHandshake hstage =>
    simp only [Holds, hstage] at hh
    obtain ⟨hin, hout, delivery, rfl⟩ := hh
    simpa [Turn.delivery?] using holds_finish hin (settled_of_closable hout)
  | cancelFailed hstage hfault =>
    simp only [Holds, hstage] at hh
    rw [Leg.closeFault?_eq_none hh.2.1.noFault] at hfault
    cases hfault
  | @relay relay act own result hstage hown hstep =>
    simp only [Holds, hstage] at hh
    obtain ⟨hlegs, hopen, delivery, rfl⟩ := hh
    have hnone : (Turn.act act).delivery? = none := by
      cases act <;> simp_all [Act.onRelay, Turn.delivery?]
    obtain ⟨hlike, -, hending⟩ := Relay.frame_step (Relay.passage_of_step hstep)
    have hclosable (side : Side) := (hlegs side).of_like (hlike side)
    rw [hnone, Option.toList_none, List.append_nil]
    rcases h.withRelay_cases result.1 result.2 with ⟨hstill, heq⟩ | ⟨ending, hended, heq⟩
    · rw [heq]
      exact ⟨hclosable, hstill, delivery, rfl⟩
    · rw [heq]
      -- the relay has closed the outbound leg before it ended
      refine holds_finish (hclosable .inbound) (Or.inr ⟨delivery, _, rfl, rfl, ?_⟩)
      rcases hending with hsame | ⟨-, hclose⟩
      · rw [hsame, hopen] at hended
        cases hended
      · rw [hclose]
        exact closed_closeLegs hlegs .outbound
  | @gateway gateway outbound act own result hstage hown hstep =>
    simp only [Holds, hstage] at hh
    have hnone : (Turn.act act).delivery? = none := by
      cases act <;> simp_all [Act.onGateway, Turn.delivery?]
    have hlike :=
      Gateway.closesLike_of_passage (Gateway.passage_of_step (Act.onGateway_ne_peer hown) hstep)
    rw [hnone, Option.toList_none, List.append_nil]
    rcases h.withGateway_cases outbound result.1 result.2 with ⟨-, heq⟩ | ⟨ending, -, heq⟩
    · rw [heq]
      exact ⟨hh.1.of_like hlike, hh.2⟩
    · rw [heq]
      exact holds_finish (hh.1.of_like hlike) hh.2

theorem holds_run {start : Handler} (hstart : Holds [] start)
    (h' : (life platform url).run start taken = some (h, events)) (htaken : ∀ t ∈ taken, t.Sound) :
    Holds (taken.filterMap Turn.delivery?) h := by
  refine Machine.run_induction_of (Q := Turn.Sound)
    (P := fun k taken _ => Holds (taken.filterMap Turn.delivery?) k) hstart ?_ h' htaken
  intro k next t taken events more _ hk hstep ht
  have hnext := holds_step hk (passage_of_turn hstep) ht
  rw [List.filterMap_append]
  cases hd : t.delivery? with
  | none => simpa [hd] using hnext
  | some delivery => simpa [hd] using hnext

/-! ## What a handler shows -/

/-- A leg that is not closed unseen: where it is closed, it came so, or the
closing is among the events. -/
def Shown (came : Prop) (side : Side) (events : List Event) (leg : Leg) : Prop :=
  leg.closed = true → came ∨ ∃ cover, .leg side cover .closed ∈ events

/-- All legs of a handler are shown. -/
def Shows (came : Side → Prop) (h : Handler) (events : List Event) : Prop :=
  ∀ side leg, h.leg? side = some leg → Shown (came side) side events leg

section Shown

variable {came : Prop} {side : Side} {leg : Leg}

theorem Shown.later (h : Shown came side events leg) (hevents : events ⊆ more) :
    Shown came side more leg := by
  intro hclosed
  rcases h hclosed with hcame | ⟨cover, hevent⟩
  · exact Or.inl hcame
  · exact Or.inr ⟨cover, hevents hevent⟩

theorem Shown.apply (h : Shown came side events leg) (act : Leg.Act) :
    Shown came side (events ++ (leg.apply act).2.map (.leg side leg.cover)) (leg.apply act).1 := by
  intro hclosed
  rcases Leg.closed_of_apply hclosed with hbefore | hevent
  · exact h.later (List.subset_append_left _ _) hbefore
  · exact Or.inr ⟨leg.cover, List.mem_append_right _ (List.mem_map_of_mem hevent)⟩

theorem Shown.closeNow (h : Shown came side events leg) (cover : Cover) :
    Shown came side (events ++ leg.closeEvents.map (.leg side cover)) leg.closeNow := by
  intro hclosed
  rcases Leg.closed_of_closeNow hclosed with hbefore | hevent
  · exact h.later (List.subset_append_left _ _) hbefore
  · exact Or.inr ⟨cover, List.mem_append_right _ (List.mem_map_of_mem hevent)⟩

end Shown

/-- The leg of a side is put in its place, and the other one stays. -/
theorem leg?_withLeg {side : Side} {leg : Leg} (hleg : h.leg? side = some leg) (next : Leg) :
    (h.withLeg side next).leg? side = some next ∧
      (h.withLeg side next).leg? side.other = h.leg? side.other := by
  cases hstage : h.stage with
  | relaying relay => simp [withLeg, leg?, hstage]
  | starting | dialing | handshaking | dropped =>
    cases side <;> simp_all [withLeg, leg?, Side.other]
  | answering gateway outbound | ended inbound outbound ending =>
    cases side <;> cases outbound <;> simp_all [withLeg, leg?, Side.other]

/-- A relay starts with both legs in their places. -/
theorem leg?_established (h : Handler) (inbound leg : Leg) (peer : Option String)
    (events : List Event) (side : Side) :
    (h.established inbound leg peer events).1.leg? side =
      some ((⟨inbound, leg⟩ : Both Leg).get side) := by
  cases side <;> rfl

section Shows

variable {came : Side → Prop}

theorem shows_finish (hin : Shown (came .inbound) .inbound events inbound)
    (hout : ∀ leg, outbound = some leg → Shown (came .outbound) .outbound events leg) :
    Shows came (h.finish inbound outbound ending events).1
      (h.finish inbound outbound ending events).2 := by
  intro side leg hleg
  cases side with
  | inbound =>
    obtain rfl : inbound.closeNow = leg := by simpa [finish, leg?] using hleg
    exact (hin.later (List.subset_append_left _ _)).closeNow _
  | outbound =>
    have hevents : events ⊆ (h.finish inbound outbound ending events).2 :=
      List.Subset.trans (List.subset_append_left _ _) (List.subset_append_left _ _)
    exact (hout leg (by simpa [finish, leg?] using hleg)).later hevents

theorem shows_dialFailed {fault : Fault} (hin : Shown (came .inbound) .inbound events inbound)
    (hout : ∀ leg, outbound = some leg → Shown (came .outbound) .outbound events leg) :
    Shows came (h.dialFailed inbound outbound fault events).1
      (h.dialFailed inbound outbound fault events).2 := by
  have hevents : events ⊆ events ++ [h.dialRecord fault, .dialFailed fault] :=
    List.subset_append_left _ _
  rcases h.dialFailed_cases inbound outbound fault events with
    ⟨-, -, -, heq⟩ | ⟨-, ending, -, heq⟩
  · rw [heq]
    intro side leg hleg
    cases side with
    | inbound =>
      obtain rfl : inbound = leg := by simpa [leg?] using hleg
      exact hin.later hevents
    | outbound => exact (hout leg (by simpa [leg?] using hleg)).later hevents
  · rw [heq]
    exact shows_finish (hin.later hevents) fun leg hleg => (hout leg hleg).later hevents

/-- The legs that come closed into a turn: those that the handler holds, and
that which is delivered. -/
def CameClosed (h : Handler) (t : Turn) (side : Side) : Prop :=
  (∃ leg, h.leg? side = some leg ∧ leg.closed = true) ∨
    side = .outbound ∧ ∃ delivery, t.delivery? = some delivery ∧ delivery.leg.closed = true

theorem shown_of_leg? {side : Side} {leg : Leg} (hleg : h.leg? side = some leg)
    (events : List Event) : Shown (CameClosed h t side) side events leg :=
  fun hclosed => Or.inl (Or.inl ⟨leg, hleg, hclosed⟩)

theorem shown_of_delivery {delivery : Delivery} (ht : t.delivery? = some delivery)
    (events : List Event) : Shown (CameClosed h t .outbound) .outbound events delivery.leg :=
  fun hclosed => Or.inl (Or.inr ⟨rfl, delivery, ht, hclosed⟩)

/-- **No turn closes a leg unseen.** -/
theorem shows_step (hp : Passage h t result) : Shows (CameClosed h t) result.1 result.2 := by
  cases hp with
  | @peer side act leg hleg =>
    obtain ⟨hsame, hother⟩ := leg?_withLeg hleg (leg.apply act).1
    intro s other hs
    rcases Side.eq_or_eq_other side s with rfl | rfl
    · obtain rfl : (leg.apply act).1 = other := by simpa [hsame] using hs
      exact (shown_of_leg? hleg []).apply act
    · rw [hother] at hs
      exact shown_of_leg? hs _
  | unresolved hstage | refused hstage =>
    exact shows_dialFailed (shown_of_leg? (by simp [leg?, hstage]) _) nofun
  | dial hstage =>
    intro s leg hs
    cases s with
    | inbound => exact shown_of_leg? (by simpa [leg?, hstage] using hs) _
    | outbound => simp [leg?] at hs
  | unnamed hstage =>
    refine shows_dialFailed (shown_of_leg? (by simp [leg?, hstage]) _) fun leg hleg => ?_
    obtain rfl := Option.some.inj hleg
    exact shown_of_delivery rfl _
  | connected hstage =>
    intro s leg hs
    rw [leg?_established] at hs
    obtain rfl := Option.some.inj hs
    cases s with
    | inbound => exact shown_of_leg? (by simp [leg?, hstage, Both.get]) _
    | outbound => exact shown_of_delivery rfl _
  | covered hstage =>
    intro s leg hs
    cases s with
    | inbound => exact shown_of_leg? (by simpa [leg?, hstage] using hs) _
    | outbound =>
      obtain rfl := Option.some.inj hs
      exact shown_of_delivery rfl _
  | uncovered hstage =>
    refine shows_dialFailed (shown_of_leg? (by simp [leg?, hstage]) _) fun leg hleg => ?_
    obtain rfl := Option.some.inj hleg
    exact (shown_of_delivery rfl [_]).closeNow _
  | shaken hstage =>
    intro s leg hs
    rw [leg?_established] at hs
    obtain rfl := Option.some.inj hs
    cases s <;> exact shown_of_leg? (by simp [leg?, hstage, Both.get]) _
  | unshaken hstage =>
    refine shows_dialFailed (shown_of_leg? (by simp [leg?, hstage]) _) fun leg hleg => ?_
    obtain rfl := Option.some.inj hleg
    exact (shown_of_leg? (by simp [leg?, hstage]) []).closeNow _
  | cancelDial hstage => exact shows_finish (shown_of_leg? (by simp [leg?, hstage]) _) nofun
  | cancelHandshake hstage =>
    refine shows_finish (shown_of_leg? (by simp [leg?, hstage]) _) fun leg hleg => ?_
    obtain rfl := Option.some.inj hleg
    exact (shown_of_leg? (by simp [leg?, hstage]) []).closeNow _
  | cancelFailed hstage =>
    refine shows_dialFailed (shown_of_leg? (by simp [leg?, hstage]) _) fun leg hleg => ?_
    obtain rfl := Option.some.inj hleg
    exact (shown_of_leg? (by simp [leg?, hstage]) []).closeNow _
  | @relay relay act own result hstage hown hstep =>
    have hshown (side : Side) : Shown (CameClosed h (.act act) side) side
        (result.2.map ofRelay) (result.1.legs.get side) := fun hend => by
      have hp := Relay.passage_of_step hstep
      rcases Relay.closed_of_passage hp hend with hbefore | ⟨cover, hevent⟩
      · exact Or.inl (Or.inl ⟨relay.legs.get side, by simp [leg?, hstage], hbefore⟩)
      · exact Or.inr ⟨cover, List.mem_map_of_mem hevent⟩
    rcases h.withRelay_cases result.1 result.2 with ⟨-, heq⟩ | ⟨ending, -, heq⟩
    · rw [heq]
      intro s leg hs
      obtain rfl : result.1.legs.get s = leg := by simpa [leg?] using hs
      exact hshown s
    · rw [heq]
      refine shows_finish ((hshown .inbound).later (List.subset_append_left _ _)) fun leg hleg => ?_
      obtain rfl := Option.some.inj hleg
      exact (hshown .outbound).later (List.subset_append_left _ _)
  | @gateway gateway outbound act own result hstage hown hstep =>
    have hclosed := Gateway.closed_of_passage
      (Gateway.passage_of_step (Act.onGateway_ne_peer hown) hstep)
    have hin : Shown (CameClosed h (.act act) .inbound) .inbound
        (result.2.map (ofGateway result.1.leg.cover)) result.1.leg := fun hend => by
      rcases hclosed hend with hbefore | hevent
      · exact Or.inl (Or.inl ⟨gateway.leg, by simp [leg?, hstage], hbefore⟩)
      · exact Or.inr ⟨_, List.mem_map_of_mem hevent⟩
    have hout (leg : Leg) (hleg : outbound = some leg) (events : List Event) :
        Shown (CameClosed h (.act act) .outbound) .outbound events leg :=
      shown_of_leg? (by simpa [leg?, hstage] using hleg) events
    rcases h.withGateway_cases outbound result.1 result.2 with ⟨-, heq⟩ | ⟨ending, -, heq⟩
    · rw [heq]
      intro s leg hs
      cases s with
      | inbound =>
        obtain rfl := Option.some.inj hs
        exact hin
      | outbound => exact hout leg hs _
    · rw [heq]
      exact shows_finish hin fun leg hleg => hout leg hleg _

end Shows

/-- **No leg is closed unseen** in the life of a handler. -/
theorem shows_run {start : Handler} {side : Side} {leg : Leg}
    (h' : (life platform url).run start taken = some (h, events))
    (hleg : h.leg? side = some leg) (hclosed : leg.closed = true) :
    (∃ first, start.leg? side = some first ∧ first.closed = true) ∨
      (side = .outbound ∧
        ∃ delivery ∈ taken.filterMap Turn.delivery?, delivery.leg.closed = true) ∨
      ∃ cover, .leg side cover .closed ∈ events := by
  refine Machine.run_induction (P := fun k taken events => ∀ leg, k.leg? side = some leg →
    leg.closed = true → (∃ first, start.leg? side = some first ∧ first.closed = true) ∨
      (side = .outbound ∧
        ∃ delivery ∈ taken.filterMap Turn.delivery?, delivery.leg.closed = true) ∨
      ∃ cover, .leg side cover .closed ∈ events) ?_ ?_ h' leg hleg hclosed
  · exact fun leg hleg hclosed => Or.inl ⟨leg, hleg, hclosed⟩
  · intro k next t taken events more _ hk hstep leg hleg hclosed
    -- closed before the turn, delivered closed by it, or closed by it and seen
    rcases shows_step (passage_of_turn hstep) side leg hleg hclosed with
      (⟨old, hold, hbefore⟩ | ⟨rfl, delivery, hd, hcame⟩) | ⟨cover, hevent⟩
    · rcases hk old hold hbefore with hfirst | ⟨hside, delivery, hmem, hcame⟩ | ⟨cover, hevent⟩
      · exact Or.inl hfirst
      · refine Or.inr (Or.inl ⟨hside, delivery, ?_, hcame⟩)
        rw [List.filterMap_append]
        exact List.mem_append_left _ hmem
      · exact Or.inr (Or.inr ⟨cover, List.mem_append_left _ hevent⟩)
    · refine Or.inr (Or.inl ⟨rfl, delivery, ?_, hcame⟩)
      rw [List.filterMap_append]
      exact List.mem_append_right _ (by simp [hd])
    · exact Or.inr (Or.inr ⟨cover, List.mem_append_right _ hevent⟩)

/-- An inbound leg that was open at the start is closed in sight. -/
theorem inbound_shown {start : Handler} {first leg : Leg}
    (h' : (life platform url).run start taken = some (h, events))
    (hfirst : start.leg? .inbound = some first) (hopen : first.closed = false)
    (hleg : h.leg? .inbound = some leg) (hclosed : leg.closed = true) :
    ∃ cover, .leg .inbound cover .closed ∈ events := by
  rcases shows_run h' hleg hclosed with ⟨own, hown, hcame⟩ | ⟨hside, -⟩ | hevent
  · obtain rfl : own = first := Option.some.inj (hown.symm.trans hfirst)
    rw [hopen] at hcame
    cases hcame
  · cases hside
  · exact hevent

/-- And so is the outbound leg, if it was open when it was delivered. -/
theorem outbound_shown {start : Handler} {delivery : Delivery} {leg : Leg}
    (h' : (life platform url).run start taken = some (h, events))
    (hnone : start.leg? .outbound = none)
    (hone : taken.filterMap Turn.delivery? = [delivery]) (hopen : delivery.leg.closed = false)
    (hleg : h.leg? .outbound = some leg) (hclosed : leg.closed = true) :
    ∃ cover, .leg .outbound cover .closed ∈ events := by
  rcases shows_run h' hleg hclosed with ⟨own, hown, -⟩ | ⟨-, other, hother, hcame⟩ | hevent
  · rw [hnone] at hown
    cases hown
  · rw [hone] at hother
    obtain rfl := List.mem_singleton.mp hother
    rw [hopen] at hcame
    cases hcame
  · exact hevent

/-- A handler that has ended stays so. -/
theorem isEnded_step (hended : h.isEnded = true) (hp : Passage h t result) :
    result.1.isEnded = true := by
  cases hp with
  | @peer side act leg hleg =>
    cases hstage : h.stage with
    | ended inbound outbound ending =>
      cases side <;> cases outbound <;> simp_all [withLeg, leg?, isEnded]
    | dropped inbound => cases side <;> simp_all [withLeg, leg?, isEnded]
    | starting | dialing | handshaking | relaying | answering => simp [isEnded, hstage] at hended
  | unresolved hstage | dial hstage | refused hstage | unnamed hstage | connected hstage
  | covered hstage | uncovered hstage | shaken hstage | unshaken hstage | cancelDial hstage
  | cancelHandshake hstage | cancelFailed hstage | relay hstage | gateway hstage =>
    simp [isEnded, hstage] at hended

end Handler

namespace Forwarder

open Handler (Turn life)

variable {url sourceId : String} {platform : Platform} {cache : Trust.Cache Trust.Context}
variable {f : Forwarder} {act : Act} {acts : List Act} {events : List Event}
variable {result : Forwarder × List Event}

/-! ## The end of a forwarder -/

/-- **An action that keeps the promises of the outside world**: those who are
told of a connection do not fail, legs can be closed, and sockets name their
peers or say that they cannot. -/
def Act.Sound : Act → Prop
  | .supplied (.connection _ leg) receivers => receivers.accepted = none ∧ leg.Closable
  | .handler _ own => (Turn.act own).Sound
  | .supplied .exhausted _ | .supplied (.failed _) _ | .begin _ _ | .cancel | .finish => True

/-- A loop that cancels its handlers has not ended. -/
theorem Loop.ending?_eq_none {loop : Loop} (h : loop.isCancelling = true) :
    loop.ending? = none := by
  cases loop with
  | failing | breaking | cancelled => rfl
  | accepting | draining | ended => cases h

/-- A fault that leaves a handler does not end the loop. -/
theorem ended_of_loopAfter {old new : Handler} (h : (f.loopAfter old new).ending?.isSome = true) :
    f.loop.ending?.isSome = true := by
  unfold loopAfter at h
  split at h
  · exact h
  · cases hescaped : new.escaped? with
    | none => simpa [hescaped] using h
    | some fault =>
      rw [hescaped] at h
      cases hloop : f.loop with
      | ended => rfl
      | accepting | draining | failing | breaking | cancelled =>
        simp [hloop, Loop.brokenBy, Loop.ending?] at h

theorem ended_step
    (hall : f.loop.ending?.isSome = true → ∀ k ∈ f.handlers, k.isEnded = true)
    (hp : Passage f act result) (hend : result.1.loop.ending?.isSome = true) :
    ∀ k ∈ result.1.handlers, k.isEnded = true := by
  cases hp with
  | @accept conn leg receivers hloop =>
    cases haccepted : receivers.accepted <;> simp [haccepted, Loop.ending?] at hend
  | exhausted | failed => cases hend
  | cancel hloop =>
    have hcancelling := Loop.isCancelling_cancel? hloop
    rw [Loop.ending?_eq_none hcancelling] at hend
    cases hend
  | turn hget _ _ hstep =>
    have hbefore := hall (ended_of_loopAfter hend)
    intro k hk
    rcases List.mem_or_eq_of_mem_set hk with hother | rfl
    · exact hbefore k hother
    · exact Handler.isEnded_step (hbefore _ (List.mem_of_getElem? hget))
        (Handler.passage_of_turn hstep)
  | finish hended _ => exact List.all_eq_true.mp hended

/-- **A forwarder ends after its handlers.** -/
theorem isEnded_of_ended (h : machine.run (new url sourceId platform cache) acts = some (f, events))
    (hend : f.loop.ending?.isSome = true) : ∀ k ∈ f.handlers, k.isEnded = true := by
  refine Machine.run_induction (P := fun f _ _ => f.loop.ending?.isSome = true →
    ∀ k ∈ f.handlers, k.isEnded = true) ?_ ?_ h hend
  · intro hnone
    cases hnone
  · intro f next act acts events more _ hall hstep
    exact ended_step hall (passage_of_step hstep)

/-- The deliveries of a handler are those of its actions. -/
theorem mem_deliveries_iff {i : Nat} {taken : List Turn}
    (htaken : taken.map Turn.bare = turns i acts) (delivery : Delivery) :
    delivery ∈ taken.filterMap Turn.delivery? ↔
      .handler i (.delivered (.ok delivery)) ∈ acts := by
  have hbare : taken.filterMap Turn.delivery? = (turns i acts).filterMap Turn.delivery? := by
    rw [← htaken, List.filterMap_map]
    congr
    funext t
    cases t <;> rfl
  rw [hbare, turns, List.filterMap_filterMap, List.mem_filterMap]
  constructor
  · rintro ⟨act, hmem, hact⟩
    obtain ⟨t, hturn, hdelivery⟩ := Option.bind_eq_some_iff.mp hact
    cases act with
    | handler j own =>
      obtain ⟨rfl, rfl⟩ : j = i ∧ .act own = t := by simpa [Act.turn?] using hturn
      cases own with
      | delivered given =>
        cases given with
        | ok other =>
          obtain rfl : other = delivery := Option.some.inj hdelivery
          exact hmem
        | error fault => cases hdelivery
      | peer | handshaken | advance | abandon | closeLegs | answer | cancel => cases hdelivery
    | begin j load =>
      obtain ⟨-, rfl⟩ : j = i ∧ .begin {} load = t := by simpa [Act.turn?] using hturn
      cases hdelivery
    | supplied | cancel | finish => cases hturn
  · intro hmem
    exact ⟨_, hmem, by simp [Act.turn?, Turn.delivery?]⟩

/-- The turns of a handler keep the promises of its actions. -/
theorem sound_of_acts {i : Nat} {taken : List Turn} (htaken : taken.map Turn.bare = turns i acts)
    (hacts : ∀ act ∈ acts, act.Sound) : ∀ t ∈ taken, t.Sound := by
  intro t ht delivery hdelivery
  have hmem : delivery ∈ taken.filterMap Turn.delivery? := List.mem_filterMap.mpr ⟨t, ht, hdelivery⟩
  exact hacts _ ((mem_deliveries_iff htaken delivery).mp hmem) delivery rfl

/-- A connection arrives with a leg that can be closed, and no other. -/
theorem holds_of_arrival {start : Handler} (hstart : start ∈ arrivals acts)
    (hacts : ∀ act ∈ acts, act.Sound) : start.Holds [] ∧ start.leg? .outbound = none := by
  obtain ⟨conn, leg, receivers, hmem, rfl⟩ := mem_arrivals hstart
  obtain ⟨haccepted, hleg⟩ := hacts _ hmem
  refine ⟨?_, (Handler.leg?_accepted conn leg receivers).2⟩
  simpa [Handler.accepted, Handler.Holds, haccepted] using hleg

/-- **No leg survives forwarding.** When a forwarder has ended, however it did,
every connection that has arrived has a handler and all handlers have ended;
their inbound legs are closed, and so is every leg that a dial has delivered to
them. None of them was closed unseen. -/
theorem no_leg_survives
    (h : machine.run (new url sourceId platform cache) acts = some (f, events))
    (hacts : ∀ act ∈ acts, act.Sound) (hend : f.loop.ending?.isSome = true) :
    f.handlers.length = (arrivals acts).length ∧
      ∀ i k, f.handlers[i]? = some k →
        k.isEnded = true ∧
        (∃ leg, k.leg? .inbound = some leg ∧ leg.closed = true) ∧
        (∀ start first, (arrivals acts)[i]? = some start → start.leg? .inbound = some first →
          first.closed = false → ∃ cover, .leg .inbound cover .closed ∈ eventsOf i events) ∧
        ∀ delivery, .handler i (.delivered (.ok delivery)) ∈ acts →
          (∃ leg, k.leg? .outbound = some leg ∧ leg.closed = true) ∧
          (delivery.leg.closed = false →
            ∃ cover, .leg .outbound cover .closed ∈ eventsOf i events) := by
  obtain ⟨rfl, rfl, hlanes⟩ := lanes_of_run h
  refine ⟨hlanes.count, fun i k hk => ?_⟩
  have hended := isEnded_of_ended h hend k (List.mem_of_getElem? hk)
  obtain ⟨start, taken, hstart, htaken, hrun⟩ := hlanes.lane i k hk
  obtain ⟨hfresh, hnone⟩ := holds_of_arrival (List.mem_of_getElem? hstart) hacts
  have hholds := Handler.holds_run hfresh hrun (sound_of_acts htaken hacts)
  unfold Handler.Holds at hholds
  cases hstage : k.stage with
  | ended inbound outbound ending =>
    simp only [hstage] at hholds
    obtain ⟨hin, hout⟩ := hholds
    have hinbound : k.leg? .inbound = some inbound := by simp [Handler.leg?, hstage]
    refine ⟨hended, ⟨inbound, hinbound, hin⟩, fun other first hother hfirst hopen => ?_,
      fun delivery hmem => ?_⟩
    · obtain rfl : start = other := Option.some.inj (hstart.symm.trans hother)
      exact Handler.inbound_shown hrun hfirst hopen hinbound hin
    · -- at most one leg was delivered, and it is the one that is held
      have hgiven := (mem_deliveries_iff htaken delivery).mpr hmem
      rcases hout with ⟨hempty, -⟩ | ⟨own, leg, hone, rfl, hclosed⟩
      · rw [hempty] at hgiven
        cases hgiven
      · have houtbound : k.leg? .outbound = some leg := by simp [Handler.leg?, hstage]
        rw [hone] at hgiven
        obtain rfl := List.mem_singleton.mp hgiven
        exact ⟨⟨leg, houtbound, hclosed⟩, fun hopen =>
          Handler.outbound_shown hrun hnone hone hopen houtbound hclosed⟩
  | dropped inbound => simp only [hstage] at hholds
  | starting | dialing | handshaking | relaying | answering =>
    simp [Handler.isEnded, hstage] at hended

/-- A run that is cancelled while the first connection makes its handshake and
the second is relayed. -/
def cutShort : List Act :=
  let delivery : Delivery := { leg := {}, peer := .ok (.ofHostPort "10.0.0.1" 443) }
  let dialed (i : Nat) : List Act :=
    [.supplied (.connection {} {}) {}, .begin i (.ok .client),
      .handler i (.delivered (.ok delivery))]
  dialed 0 ++ dialed 1 ++
    [.handler 1 (.handshaken none), .cancel, .handler 0 .cancel, .handler 1 .cancel,
      .handler 1 (.abandon .inbound), .handler 1 (.abandon .outbound), .handler 1 .closeLegs,
      .finish]

theorem cutShort_leaves_none :
    ∃ f events, machine.run (new "https://a" "s" .posix {}) cutShort = some (f, events) ∧
      f.loop.ending?.isSome = true ∧ f.handlers.length = 2 ∧
      ∀ (i : Nat) (k : Handler), f.handlers[i]? = some k → k.isEnded = true ∧
        ∃ leg, k.leg? .inbound = some leg ∧ leg.closed = true := by
  obtain ⟨⟨f, events⟩, h⟩ := Option.isSome_iff_exists.mp
    (show (machine.run (new "https://a" "s" .posix {}) cutShort).isSome = true by decide +kernel)
  have hended : (machine.run (new "https://a" "s" .posix {}) cutShort).all
      (fun r => r.1.loop.ending?.isSome) = true := by
    decide +kernel
  rw [h, Option.all_some] at hended
  obtain ⟨hcount, hclosed⟩ := no_leg_survives h
    (by simp [cutShort, Act.Sound, Turn.Sound, Turn.delivery?, Delivery.Named, PeerName.IsAddress,
      PeerName.ofHostPort, Leg.closable_iff]) hended
  exact ⟨f, events, h, hended, hcount, fun i k hk => ⟨(hclosed i k hk).1, (hclosed i k hk).2.1⟩⟩

end Forwarder

end TunnelRelay
