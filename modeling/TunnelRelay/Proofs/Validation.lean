import Mathlib.Logic.Relation
import TunnelRelay.Connection.Lifecycle
import TunnelRelay.Proofs.Destinations
import TunnelRelay.Proofs.Serving
import TunnelRelay.Proofs.Shielding
/-!
# Validation agrees with dialing

A URL that is read as a destination is one that can be dialed: there is a transport for
its kind, and it gets the very host and port, path or pipe that was read
(`Destination.Fits`). A URL that is rejected is not dialed, and the fault is the same.

An app that is ready has a URL that can be read, and keeps having one however it is
prepared again (`App.Validated`). So no connection of it fails because its destination is
invalid: a handler passes on such a fault only if something that it works with gives it
one (`Handler.Turn.brought`).
-/

namespace TunnelRelay

/-! ## The transport of a destination -/

namespace Destination

variable {platform : Platform} {url : String} {d : Destination}

/-- **A transport that is right for a destination**: it is for its kind, and has its very
address; over TLS the server has to prove to have the name of the host. -/
def Fits (d : Destination) (transport : Transport) : Prop :=
  match d.kind with
  | .tcp | .http => ∃ host port, d.host = some host ∧ d.port = some port ∧
      transport = .tcp host (some port)
  | .https => ∃ host port, d.host = some host ∧ d.port = some port ∧
      d.serverName = some host ∧ transport = .tls host (some port) host
  | .unix => ∃ path, d.address = some path ∧ transport = .unix (some path)
  | .pipe => ∃ address, d.address = some address ∧ transport = .pipe (some address)

/-- There is a transport for each destination that has what its kind needs. -/
theorem create_of_complete (h : d.Complete platform) :
    ∃ transport, (Registry.standard platform).create d = .ok transport ∧ d.Fits transport := by
  unfold Complete at h
  cases hkind : d.kind with
  | tcp | http =>
    simp only [hkind] at h
    obtain ⟨⟨host, hhost, hne⟩, ⟨port, hport, -⟩, -⟩ := h
    have hcreate : (Registry.standard platform).create d =
        .ok (Registry.withPort .ofTcp 0 d.endpoint) := by
      unfold Registry.create
      rw [hkind]
      cases platform <;> rfl
    refine ⟨_, hcreate, ?_⟩
    simp only [Fits, hkind]
    exact ⟨host, port, hhost, hport, by
      simp [Registry.withPort, Transport.ofTcp, endpoint, Transport.hostOr, hhost, hport, hne]⟩
  | https =>
    simp only [hkind] at h
    obtain ⟨⟨host, hhost, hne⟩, ⟨port, hport, -⟩, -⟩ := h
    have hname : d.serverName = some host := by simp [serverName, hkind, hhost]
    have hcreate : (Registry.standard platform).create d =
        .ok (Registry.withPort .ofTls 443 d.endpoint) := by
      unfold Registry.create
      rw [hkind]
      cases platform <;> rfl
    refine ⟨_, hcreate, ?_⟩
    simp only [Fits, hkind]
    exact ⟨host, port, hhost, hport, hname, by
      simp [Registry.withPort, Transport.ofTls, endpoint, Transport.hostOr, hhost, hport, hname,
        hne]⟩
  | unix =>
    simp only [hkind] at h
    obtain ⟨rfl, -, -, path, hpath, -⟩ := h
    have hcreate : (Registry.standard .posix).create d = .ok (.ofUnix d.endpoint) := by
      unfold Registry.create
      rw [hkind]
      rfl
    refine ⟨_, hcreate, ?_⟩
    simp only [Fits, hkind]
    exact ⟨path, hpath, by simp [Transport.ofUnix, endpoint, hpath]⟩
  | pipe =>
    simp only [hkind] at h
    obtain ⟨rfl, -, host, name, -, -, -, haddress⟩ := h
    have hcreate : (Registry.standard .windows).create d = .ok (.ofPipe d.endpoint) := by
      unfold Registry.create
      rw [hkind]
      rfl
    refine ⟨_, hcreate, ?_⟩
    simp only [Fits, hkind]
    exact ⟨_, haddress, by simp [Transport.ofPipe, endpoint, haddress]⟩

/-- So there is one for each that was read of a URL. -/
theorem create_of_parse (h : parse platform url = .ok d) :
    ∃ transport, (Registry.standard platform).create d = .ok transport ∧ d.Fits transport := by
  obtain ⟨parts, scheme, -, hscheme, hread⟩ := parse_eq_ok_iff.mp h
  have hmem := (Scheme.find?_eq_some_iff.mp hscheme).1
  exact create_of_complete (wellRead_of_ofParts hmem hread).complete

theorem transportOf_of_parse (h : parse platform url = .ok d) :
    ∃ transport, Handler.transportOf platform url = .ok transport := by
  obtain ⟨transport, hcreate, -⟩ := create_of_parse h
  exact ⟨transport, by rw [Handler.transportOf, h]; exact hcreate⟩

/-- **Whether a URL can be read decides whether it can be dialed.** -/
structure Agrees (platform : Platform) (url : String) : Prop where
  /-- What is read of it is what is dialed, by a connection that is not open yet. -/
  accepted : ∀ d, ofValue platform (.string url) = .ok d →
    ∃ c, Connection.ofDestination platform d = .ok c ∧ d.Fits c.transport ∧
      c.state = .disconnected ∧ c.stream = none ∧
      Handler.transportOf platform url = .ok c.transport
  /-- If it is rejected, so is every handler that would dial it, with the same fault; it
  dials nothing, and does not ask for the certificates. -/
  rejected : ∀ fault, ofValue platform (.string url) = .error fault →
    fault.kind = .invalidDestination (.string url) ∧
      Handler.transportOf platform url = .error fault ∧
      ∀ (h : Handler) cache load inbound,
        Handler.dialFaults (h.start platform url cache load inbound).1.2 = [fault] ∧
          (∀ target, .dial target ∉ (h.start platform url cache load inbound).1.2) ∧
          (h.start platform url cache load inbound).2 = cache

theorem agrees (platform : Platform) (url : String) : Agrees platform url := by
  constructor
  · intro d hread
    have hparse := ofValue_string_eq_ok_iff.mp hread
    obtain ⟨transport, hcreate, hfits⟩ := create_of_parse hparse
    refine ⟨.new transport, ?_, hfits, rfl, rfl, ?_⟩
    · rw [Connection.ofDestination, hcreate]
      rfl
    · rw [Handler.transportOf, hparse]
      exact hcreate
  · intro fault hread
    rw [ofValue_string] at hread
    cases hparse : parse platform url with
    | ok d =>
      rw [hparse] at hread
      cases hread
    | error rejection =>
      rw [hparse] at hread
      obtain rfl := Except.error.inj hread
      have htransport : Handler.transportOf platform url = .error (rejection.fault url) := by
        rw [Handler.transportOf, hparse]
      refine ⟨rfl, htransport, fun h cache load inbound => ?_⟩
      have hstart : h.start platform url cache load inbound =
          (h.dialFailed inbound none (rejection.fault url) [], cache) := by
        rw [Handler.start, htransport]
      obtain ⟨-, last, hplain, hevents⟩ := h.over_dialFailed inbound none (rejection.fault url) []
      rw [hstart]
      refine ⟨h.dialFaults_dialFailed inbound none _ [], fun target hmem => ?_, rfl⟩
      rw [hevents, List.nil_append] at hmem
      exact Handler.not_mem_of_milestones hplain.milestones rfl hmem

end Destination

/-! ## Faults that are no rejections -/

/-- **A fault that does not reject a destination.** -/
def Fault.Foreign (fault : Fault) : Prop := ∀ given, fault.kind ≠ .invalidDestination given

/-- The faults that a delivery comes with. -/
def Delivery.faults (delivery : Delivery) : List Fault :=
  (match delivery.peer with
    | .ok _ => []
    | .error fault => [fault]) ++ delivery.coverFault.toList ++ delivery.leg.closeFault.toList

theorem PeerName.foreign_of_text {name : PeerName} {fault : Fault} (h : name.text = .error fault) :
    fault.Foreign := by
  unfold text at h
  split at h
  · rename_i host port _
    have hhost {cause : Fault} (hcause : hostHasColon host = .error cause) : cause.Foreign := by
      unfold hostHasColon at hcause
      split at hcause
      · cases hcause
      · cases hcause
      · cases hcause
      · obtain rfl := Except.error.inj hcause
        exact fun _ => nofun
    simp only [bind, Except.bind] at h
    cases hcolon : hostHasColon host with
    | error cause =>
      rw [hcolon] at h
      obtain rfl := Except.error.inj h
      exact hhost hcolon
    | ok colon =>
      rw [hcolon] at h
      cases colon <;> cases h
  all_goals cases h

theorem Trust.Cache.foreign_of_get {α : Type} {c : Cache α} {load : Outcome α} {fault : Fault}
    (h : (c.get load).1 = .error fault) (hload : ∀ cause, load = .error cause → cause.Foreign) :
    fault.Foreign := by
  have hanswer {outcome : Outcome α} (houtcome : answer outcome = .error fault) :
      fault.Foreign := by
    cases outcome with
    | ok => cases houtcome
    | error cause =>
      obtain rfl := Except.error.inj houtcome
      exact fun _ => nofun
  unfold get at h
  split at h
  · exact hanswer h
  · split at h
    · cases h
    · rename_i cause
      dsimp only at h
      split at h
      · exact hanswer h
      · obtain rfl := Except.error.inj h
        exact hload _ rfl

namespace Opening

variable {fault : Fault} {fault? : Option Fault} {guard : Guard} {leg : Leg}
variable {delivery : Delivery}

theorem foreign_report (h : fault.Foreign) : (report fault).Foreign := by
  unfold report
  split
  · exact h
  · split
    · exact fun _ => nofun
    · exact h

theorem foreign_coverFault (h : fault.Foreign) (serverName : String) :
    (coverFault serverName fault).Foreign := by
  unfold coverFault
  split
  · exact fun _ => nofun
  · exact h

theorem foreign_askTrust {transport : Transport} {cache : Trust.Cache Trust.Context}
    {load : Trust.Outcome Trust.Context} (h : (askTrust transport cache load).1 = .error fault)
    (hload : ∀ cause, load = .error cause → cause.Foreign) : fault.Foreign := by
  unfold askTrust at h
  split at h
  · cases hget : (cache.get load).1 with
    | ok =>
      simp only [hget] at h
      cases h
    | error cause =>
      simp only [hget] at h
      obtain rfl := Except.error.inj h
      exact Trust.Cache.foreign_of_get hget hload
  · cases h

theorem foreign_peerAfter {transport : Transport} {old : Option String}
    (h : peerAfter transport old delivery = .error fault)
    (hdelivery : ∀ cause ∈ delivery.faults, cause.Foreign) : fault.Foreign := by
  have hname (hcause : delivery.peer.bind PeerName.text = .error fault) : fault.Foreign := by
    cases hpeer : delivery.peer with
    | ok name =>
      rw [hpeer] at hcause
      exact PeerName.foreign_of_text hcause
    | error cause =>
      rw [hpeer] at hcause
      obtain rfl := Except.error.inj hcause
      exact hdelivery _ (by simp [Delivery.faults, hpeer])
  unfold peerAfter at h
  split at h
  case h_3 => cases h
  -- a socket is asked for its peer, be it covered or not
  all_goals
    split at h
    · cases h
    · rename_i cause hcause
      split at h
      · cases h
      · obtain rfl := Except.error.inj h
        exact hname hcause

/-- A stage that fails does so with a fault that is no rejection, and a leg that waits for
its handshake is not closed with one. -/
def Result.Foreign : Result → Prop
  | .opened _ => True
  | .handshaking leg _ => ∀ fault ∈ leg.closeFault, fault.Foreign
  | .failed fault _ => fault.Foreign

theorem foreign_discard (hleg : ∀ cause ∈ leg.closeFault, cause.Foreign) (h : fault.Foreign) :
    (discard leg fault).1.Foreign := by
  show ((leg.closeFault?).getD fault).Foreign
  cases hclose : leg.closeFault? with
  | none => exact h
  | some cause => exact hleg cause (Leg.closeFault_of_closeFault? hclose)

theorem foreign_afterDelivery (guard : Option Guard)
    (h : ∀ fault ∈ delivery.faults, fault.Foreign) :
    (afterDelivery guard delivery).1.Foreign := by
  have hleg : ∀ cause ∈ delivery.leg.closeFault, cause.Foreign := fun cause hmem =>
    h cause (List.mem_append_right _ (Option.mem_toList.mpr hmem))
  unfold afterDelivery
  split
  · trivial
  · exact hleg
  · rename_i guard fault hcover
    have hfault : fault.Foreign := h fault (by simp [Delivery.faults, hcover])
    exact foreign_discard hleg (foreign_coverFault hfault _)

theorem foreign_afterHandshake (hleg : ∀ cause ∈ leg.closeFault, cause.Foreign)
    (h : ∀ cause ∈ fault?, cause.Foreign) :
    (afterHandshake guard leg fault?).1.Foreign := by
  cases fault? with
  | none => trivial
  | some cause => exact foreign_discard hleg (foreign_coverFault (h cause rfl) _)

end Opening

namespace Handler

variable {platform : Platform} {url : String} {h k : Handler} {t : Turn} {taken : List Turn}
variable {inbound : Leg} {outbound : Option Leg} {peer : Option String} {fault : Fault}
variable {events : List Event} {result : Handler × List Event}

/-- The faults that a turn brings with it. -/
def Turn.brought : Turn → List Fault
  | .begin _ (.error fault) | .act (.delivered (.error fault)) => [fault]
  | .act (.delivered (.ok delivery)) => delivery.faults
  | .act (.handshaken fault) => fault.toList
  | .begin _ (.ok _) | .act (.peer _ _) | .act (.advance _) | .act (.abandon _)
  | .act .closeLegs | .act .answer | .act .cancel => []

/-- A leg that waits for its handshake is not closed with a rejection. -/
def Sincere (h : Handler) : Prop :=
  match h.stage with
  | .handshaking _ _ _ outbound => ∀ fault ∈ outbound.closeFault, fault.Foreign
  | .starting _ | .dialing _ _ _ | .relaying _ | .answering _ _ | .ended _ _ _ | .dropped _ => True

/-- **What comes of a turn is no rejection**, now or later. -/
def Accepts (result : Handler × List Event) : Prop :=
  result.1.Sincere ∧ ∀ fault ∈ dialFaults result.2, fault.Foreign

theorem sincere_of_over (hover : h.isOver = true) : h.Sincere := by
  unfold isOver at hover
  unfold Sincere
  cases hstage : h.stage with
  | handshaking => simp [hstage] at hover
  | starting | dialing | relaying | answering | ended | dropped => trivial

theorem accepts_dialFailed (hfault : fault.Foreign) (hevents : dialFaults events = []) :
    Accepts (h.dialFailed inbound outbound fault events) := by
  refine ⟨sincere_of_over (h.over_dialFailed inbound outbound fault events).1, fun own hown => ?_⟩
  rw [dialFaults_dialFailed, hevents, List.nil_append, List.mem_singleton] at hown
  exact hown ▸ hfault

theorem accepts_finish {ending : Ending Unit} (hevents : dialFaults events = []) :
    Accepts (h.finish inbound outbound ending events) := by
  obtain ⟨last, hlast, heq⟩ := h.silent_finish inbound outbound ending events
  refine ⟨sincere_of_over (h.over_finish inbound outbound ending events).1, fun own hown => ?_⟩
  rw [heq, dialFaults_append, hevents, hlast.faults] at hown
  cases hown

theorem dialFaults_ofOpening (own : List Opening.Event) : dialFaults (own.map ofOpening) = [] := by
  rw [dialFaults, List.filterMap_map, List.filterMap_eq_nil_iff]
  intro e _
  cases e <;> rfl

theorem accepts_afterStage {stage : Opening.Result × List Opening.Event}
    (hstage : stage.1.Foreign) : Accepts (h.afterStage inbound peer stage) := by
  obtain ⟨result, own⟩ := stage
  have hown := dialFaults_ofOpening own
  cases result with
  | opened leg =>
    refine ⟨trivial, fun fault hfault => ?_⟩
    simp only [afterStage, established, dialFaults_append, hown] at hfault
    cases hfault
  | handshaking leg guard =>
    refine ⟨hstage, fun fault hfault => ?_⟩
    simp only [afterStage, hown] at hfault
    cases hfault
  | failed fault leg => exact accepts_dialFailed (Opening.foreign_report hstage) hown

/-- A URL that can be read is dialed, unless the certificates cannot be loaded. -/
theorem accepts_start {cache : Trust.Cache Trust.Context} {load : Trust.Outcome Trust.Context}
    {d : Destination} (hparse : Destination.parse platform url = .ok d)
    (hload : ∀ cause, load = .error cause → cause.Foreign) :
    Accepts (h.start platform url cache load inbound).1 := by
  obtain ⟨transport, htransport⟩ := Destination.transportOf_of_parse hparse
  unfold start
  split
  · rename_i cause hnone
    rw [htransport] at hnone
    cases hnone
  · rename_i own hown
    rcases htrust : Opening.askTrust own cache load with ⟨cause | guard, asked⟩
    · have hcause := Opening.foreign_askTrust (congrArg Prod.fst htrust) hload
      exact accepts_dialFailed (Opening.foreign_report hcause) rfl
    · refine ⟨trivial, fun fault hfault => ?_⟩
      cases hfault

theorem accepts_deliver {transport : Transport} {guard : Option Opening.Guard}
    {given : Except Fault Delivery}
    (ht : ∀ fault ∈ (Turn.act (.delivered given)).brought, fault.Foreign) :
    Accepts (h.deliver inbound transport guard given) := by
  cases given with
  | error cause =>
    exact accepts_dialFailed (Opening.foreign_report (ht cause (List.mem_singleton_self cause))) rfl
  | ok delivery =>
    simp only [deliver]
    split
    · rename_i cause hpeer
      exact accepts_dialFailed (Opening.foreign_report (Opening.foreign_peerAfter hpeer ht)) rfl
    · exact accepts_afterStage (Opening.foreign_afterDelivery guard ht)

theorem accepts_peer {side : Side} {leg : Leg} (hs : h.Sincere) (hleg : h.leg? side = some leg)
    (act : Leg.Act) :
    Accepts (h.withLeg side (leg.apply act).1, (leg.apply act).2.map (.leg side leg.cover)) := by
  refine ⟨?_, fun fault hfault => ?_⟩
  · unfold Sincere at hs ⊢
    cases hstage : h.stage with
    | handshaking inbound guard peer outbound =>
      simp only [hstage] at hs
      cases side with
      | inbound => simpa [withLeg, hstage] using hs
      | outbound =>
        obtain rfl : outbound = leg := by simpa [leg?, hstage] using hleg
        have hlike := (Leg.closesLike_apply outbound act).fault
        simpa [withLeg, hstage, hlike] using hs
    | starting | dialing | dropped => cases side <;> simp [withLeg, hstage]
    | relaying => simp [withLeg, hstage]
    | answering _ other | ended _ other => cases side <;> cases other <;> simp [withLeg, hstage]
  · rw [(silent_apply leg act side leg.cover).faults] at hfault
    cases hfault

theorem accepts_withRelay (next : Relay × List Relay.Event) : Accepts (h.withRelay next) := by
  have hown := dialFaults_ofRelay next.2
  rcases h.withRelay_cases next.1 next.2 with ⟨-, heq⟩ | ⟨ending, -, heq⟩
  · rw [heq]
    refine ⟨trivial, fun fault hfault => ?_⟩
    rw [hown] at hfault
    cases hfault
  · rw [heq]
    exact accepts_finish (by rw [dialFaults_append, hown, (silent_conclude ending).faults]; rfl)

theorem accepts_withGateway (next : Gateway × List Gateway.Event) :
    Accepts (h.withGateway outbound next) := by
  have hown := dialFaults_ofGateway next.1.leg.cover next.2
  rcases h.withGateway_cases outbound next.1 next.2 with ⟨-, heq⟩ | ⟨ending, -, heq⟩
  · rw [heq]
    refine ⟨trivial, fun fault hfault => ?_⟩
    rw [hown] at hfault
    cases hfault
  · rw [heq]
    exact accepts_finish hown

/-- **A handler of a URL that can be read does not fail with a rejection**, unless it is
given one. -/
theorem accepts_step {d : Destination} (hparse : Destination.parse platform url = .ok d)
    (hs : h.Sincere) (ht : ∀ fault ∈ t.brought, fault.Foreign)
    (hstep : (life platform url).step h t = some result) : Accepts result := by
  have hleg {inbound outbound : Leg} {guard : Opening.Guard} {peer : Option String}
      (hstage : h.stage = .handshaking inbound guard peer outbound) :
      ∀ fault ∈ outbound.closeFault, fault.Foreign := by
    unfold Sincere at hs
    rw [hstage] at hs
    exact hs
  cases t with
  | begin cache load =>
    simp only [life, turn] at hstep
    split at hstep
    · obtain rfl := Option.some.inj hstep
      refine accepts_start hparse fun cause hload => ht cause ?_
      rw [hload]
      exact List.mem_singleton_self cause
    · cases hstep
  | act act =>
    have hp := passage_of_turn hstep
    simp only [life, turn] at hstep
    cases act with
    | delivered given =>
      simp only [step] at hstep
      split at hstep
      · obtain rfl := Option.some.inj hstep
        exact accepts_deliver ht
      · cases hstep
    | handshaken given =>
      simp only [step] at hstep
      split at hstep
      · rename_i hstage
        obtain rfl := Option.some.inj hstep
        exact accepts_afterStage (Opening.foreign_afterHandshake (hleg hstage) fun cause hcause =>
          ht cause (Option.mem_toList.mpr hcause))
      · cases hstep
    | peer side own =>
      cases hp with
      | peer hown => exact accepts_peer hs hown own
      | relay _ hown | gateway _ hown => cases hown
    | cancel =>
      cases hp with
      | cancelDial => exact accepts_finish rfl
      | @cancelHandshake _ outbound => exact accepts_finish (silent_discarded outbound).faults
      | @cancelFailed _ outbound _ _ cause hstage hclose =>
        have hcause := hleg hstage cause (Leg.closeFault_of_closeFault? hclose)
        exact accepts_dialFailed (Opening.foreign_report hcause) (silent_discarded outbound).faults
      | @relay _ _ _ next => exact accepts_withRelay next
      | @gateway _ _ _ _ next => exact accepts_withGateway next
    | advance | abandon | closeLegs | answer =>
      cases hp with
      | @relay _ _ _ next => exact accepts_withRelay next
      | @gateway _ _ _ _ next => exact accepts_withGateway next

/-- So it is in all its life. -/
theorem foreign_run {start : Handler} {d : Destination}
    (hparse : Destination.parse platform url = .ok d) (hs : start.Sincere)
    (htaken : ∀ t ∈ taken, ∀ fault ∈ t.brought, fault.Foreign)
    (hrun : (life platform url).run start taken = some (k, events)) :
    ∀ fault ∈ dialFaults events, fault.Foreign := by
  refine (Machine.run_induction_of (P := fun k _ events => Accepts (k, events))
    (Q := fun t => ∀ fault ∈ t.brought, fault.Foreign) ⟨hs, nofun⟩ ?_ hrun htaken).2
  intro k next t taken events more _ hk hstep ht
  obtain ⟨hnext, hmore⟩ := accepts_step hparse hk.1 ht hstep
  refine ⟨hnext, fun fault hfault => ?_⟩
  rw [dialFaults_append] at hfault
  exact (List.mem_append.mp hfault).elim (hk.2 fault) (hmore fault)

end Handler

/-! ## Forwarders and sessions -/

namespace Forwarder

variable {url sourceId : String} {platform : Platform} {cache : Trust.Cache Trust.Context}
variable {f : Forwarder} {acts : List Act} {events : List Event}

/-- The faults that an action brings with it on the way to an outbound leg. -/
def Act.brought : Act → List Fault
  | .begin _ load => (Handler.Turn.begin {} load).brought
  | .handler _ act => (Handler.Turn.act act).brought
  | .supplied _ _ | .cancel | .finish => []

theorem brought_of_turn? {act : Act} {i : Nat} {t : Handler.Turn} (h : act.turn? i = some t) :
    t.brought = act.brought := by
  cases act with
  | begin j load =>
    obtain ⟨-, rfl⟩ : j = i ∧ .begin {} load = t := by simpa [Act.turn?] using h
    rfl
  | handler j own =>
    obtain ⟨-, rfl⟩ : j = i ∧ .act own = t := by simpa [Act.turn?] using h
    rfl
  | supplied | cancel | finish => cases h

theorem brought_bare (t : Handler.Turn) : t.bare.brought = t.brought := by
  cases t with
  | begin _ load => cases load <;> rfl
  | act => rfl

/-- **No handler fails with a rejection** if the URL can be read. -/
theorem foreign_of_run {d : Destination} (hparse : Destination.parse platform url = .ok d)
    (h : machine.run (new url sourceId platform cache) acts = some (f, events))
    (hacts : ∀ act ∈ acts, ∀ fault ∈ act.brought, fault.Foreign) {i : Nat} {fault : Fault}
    (hfault : .handler i (.dialFailed fault) ∈ events) : fault.Foreign := by
  obtain ⟨rfl, rfl, hlanes⟩ := lanes_of_run h
  have hmem : .dialFailed fault ∈ eventsOf i events := mem_eventsOf.mpr hfault
  have htold : fault ∈ Handler.dialFaults (eventsOf i events) := Handler.mem_dialFaults.mpr hmem
  have hi : i < f.handlers.length := by
    refine Nat.lt_of_not_le fun hle => ?_
    rw [(hlanes.beyond i hle).2] at hmem
    cases hmem
  obtain ⟨start, taken, hstart, htaken, hrun⟩ := hlanes.lane i _ (List.getElem?_eq_getElem hi)
  obtain ⟨conn, leg, receivers, -, rfl⟩ := mem_arrivals (List.mem_of_getElem? hstart)
  have hsincere : (Handler.accepted conn leg receivers).Sincere := by
    unfold Handler.Sincere Handler.accepted
    cases receivers.accepted <;> trivial
  refine Handler.foreign_run hparse hsincere (fun t ht cause hcause => ?_) hrun fault htold
  have hturn : t.bare ∈ turns i acts := htaken ▸ List.mem_map_of_mem ht
  obtain ⟨act, hact, hbare⟩ := List.mem_filterMap.mp hturn
  rw [← brought_bare, brought_of_turn? hbare] at hcause
  exact hacts act hact cause hcause

end Forwarder

namespace App

/-- The faults that an action of a session brings with it. -/
def Act.brought : Act → List Fault
  | .forward act => act.brought
  | .arrive _ | .shut | .accept _ | .finish => []

variable {a b : App} {around : Settings.Surroundings} {config : Option String} {debug : Bool}
variable {overrides : List Assignment} {acts : List Act} {events : List Event} {url : String}

namespace Session

/-- What the forwarder of a session does by itself is an action of the session. -/
theorem brought_forwarderActs {s : Session} {act : Forwarder.Act}
    (h : act ∈ s.forwarderActs acts) {fault : Fault} (hfault : fault ∈ act.brought) :
    ∃ own ∈ acts, fault ∈ own.brought := by
  induction acts generalizing s with
  | nil => cases h
  | cons own acts ih =>
    rw [forwarderActs, Machine.gather, List.mem_append] at h
    rcases h with hown | hlater
    · refine ⟨own, List.mem_cons_self, ?_⟩
      cases own with
      | forward given =>
        obtain rfl := List.mem_singleton.mp hown
        exact hfault
      | accept receivers =>
        simp only [forwards, Option.mem_toList, Option.map_eq_some_iff] at hown
        obtain ⟨given, -, rfl⟩ := hown
        cases hfault
      | arrive | shut | finish => cases hown
    · cases hstep : machine.step s own with
      | none =>
        rw [hstep] at hlater
        cases hlater
      | some next =>
        rw [hstep] at hlater
        obtain ⟨other, hmem, hother⟩ := ih hlater
        exact ⟨other, List.mem_cons_of_mem _ hmem, hother⟩

end Session

/-- **An app whose URL, if it has one, can be read as a destination.** -/
def Validated (a : App) : Prop :=
  ∀ url, a.forwardTo = some url → ∃ d, Destination.parse a.platform url = .ok d

/-- An app comes of another by preparing it. -/
def Prepares (a b : App) : Prop :=
  ∃ around config debug overrides, b = (a.prepare around config debug overrides).1

/-- **Preparing an app again does not make its URL unreadable.** -/
theorem Validated.prepares (h : a.Validated) (hb : a.Prepares b) : b.Validated := by
  obtain ⟨around, config, debug, overrides, rfl⟩ := hb
  have hp := preparation a around config debug overrides
  generalize a.prepare around config debug overrides = result at hp ⊢
  cases hp with
  | stopped | refused => exact h
  | @ready _ _ _ url d _ _ _ _ hparse =>
    intro own hown
    obtain rfl := Option.some.inj hown
    exact ⟨d, hparse⟩

theorem Validated.later (h : a.Validated) (hb : Relation.ReflTransGen Prepares a b) :
    b.Validated := by
  induction hb with
  | refl => exact h
  | tail _ hprepares ih => exact ih.prepares hprepares

/-- An app that is ready is validated. -/
theorem validated_of_ready (hready : (a.prepare around config debug overrides).2.2 = .ok .ready) :
    (a.prepare around config debug overrides).1.Validated := by
  obtain ⟨url, d, hurl, hparse⟩ := (preparation a around config debug overrides).readable hready
  intro own hown
  obtain rfl := Option.some.inj (hurl.symm.trans hown)
  exact ⟨d, hparse⟩

/-- A session fails at its start, or has the URL of its app. -/
theorem session_cases (a : App) (listeners : Except Fault (List (Except Fault PeerName))) :
    (∃ fault listener, (a.start listeners).1 = failedSession fault listener) ∨
      ∃ url protocol, a.forwardTo = some url ∧
        (a.start listeners).1 = .opened url a.platform protocol := by
  cases hurl : a.forwardTo with
  | none => exact Or.inl ⟨notPrepared, _, by rw [start, hurl]⟩
  | some url =>
    cases hport : configuredPort a.settings with
    | error fault => exact Or.inl ⟨fault, _, by rw [start, hurl]; simp only [hport]; rfl⟩
    | ok port =>
      cases listeners with
      | error fault => exact Or.inl ⟨fault, _, by rw [start, hurl]; simp only [hport]; rfl⟩
      | ok listeners =>
        rcases start_cases hurl hport listeners with ⟨fault, listener, hstart⟩ | ⟨record, hstart⟩
        · exact Or.inl ⟨fault, listener, by rw [hstart]⟩
        · exact Or.inr ⟨url, _, rfl, by rw [hstart]⟩

/-- **No connection of a validated app fails with a rejection.** -/
theorem Validated.foreign {s : Session} {i : Nat} {fault : Fault}
    {listeners : Except Fault (List (Except Fault PeerName))} (ha : a.Validated)
    (h : Session.machine.run (a.start listeners).1 acts = some (s, events))
    (hacts : ∀ act ∈ acts, ∀ cause ∈ act.brought, cause.Foreign)
    (hfault : .forwarder (.handler i (.dialFailed fault)) ∈ events) : fault.Foreign := by
  have hmem := mem_forwarderEvents.mpr hfault
  rcases a.session_cases listeners with ⟨failure, listener, hstart⟩ | ⟨url, protocol, hurl, hstart⟩
  · rw [hstart] at h
    obtain ⟨-, -, -, hnone⟩ := Session.idle_run h (Session.idle_failedSession failure listener)
    rw [hnone] at hmem
    cases hmem
  · rw [hstart] at h
    obtain ⟨d, hparse⟩ := ha url hurl
    refine Forwarder.foreign_of_run hparse (Session.forwarder_run h)
      (fun act hact cause hcause => ?_) hmem
    obtain ⟨own, hown, hbrought⟩ := Session.brought_forwarderActs hact hcause
    exact hacts own hown cause hbrought

/-- **Validation agrees with dialing.** A URL that is read as a destination is one that
can be dialed, and what is dialed is what was read; one that is rejected is not dialed,
and fails with the same fault. So once an app is ready, then in every later session of it,
however often it is prepared again, no connection fails because its destination is
invalid. -/
theorem validation_agrees_with_dialing (platform : Platform) (url : String) :
    Destination.Agrees platform url ∧
      ∀ (a : App) around config debug overrides,
        (a.prepare around config debug overrides).2.2 = .ok .ready →
        ∀ b, Relation.ReflTransGen Prepares (a.prepare around config debug overrides).1 b →
        ∀ listeners acts s events,
          Session.machine.run (b.start listeners).1 acts = some (s, events) →
          (∀ act ∈ acts, ∀ cause ∈ act.brought, cause.Foreign) →
          ∀ i fault, .forwarder (.handler i (.dialFailed fault)) ∈ events →
            ∀ given, fault.kind ≠ .invalidDestination given := by
  refine ⟨Destination.agrees platform url, ?_⟩
  intro a around config debug overrides hready b hlater listeners acts s events h hacts i fault
    hfault
  exact ((validated_of_ready hready).later hlater).foreign h hacts hfault

/-- A run in which the only connection is refused by its destination. -/
def refusedOnce : List Act :=
  [.arrive (.leg {} none), .accept {}, .forward (.begin 0 (.error .streamClosed)),
    .forward (.handler 0 (.delivered (.error (.ofNumber 111 "Connection refused"))))]

theorem refusedOnce_agrees :
    (∃ c, Connection.ofDestination .posix
        { kind := .https, url := "https://a", host := some "a", port := some 443 } = .ok c ∧
      c.transport = .tls "a" (some 443) "a") ∧
    ∃ s events fault, Session.machine.run onTwoListeners.1 refusedOnce = some (s, events) ∧
      .forwarder (.handler 0 (.dialFailed fault)) ∈ events ∧
      ∀ given, fault.kind ≠ .invalidDestination given := by
  obtain ⟨hagrees, hforeign⟩ := validation_agrees_with_dialing .posix "https://a"
  constructor
  · obtain ⟨c, hc, hfits, -⟩ := hagrees.accepted
      { kind := .https, url := "https://a", host := some "a", port := some 443 } (by rfl)
    obtain ⟨host, port, hhost, hport, -, htransport⟩ := hfits
    obtain rfl := Option.some.inj hhost
    obtain rfl := Option.some.inj hport
    exact ⟨c, hc, htransport⟩
  · obtain ⟨⟨s, events⟩, h⟩ := Option.isSome_iff_exists.mp
      (show (Session.machine.run onTwoListeners.1 refusedOnce).isSome = true by decide +kernel)
    have htold : (Session.machine.run onTwoListeners.1 refusedOnce).all (fun r =>
        !(Handler.dialFaults (Forwarder.eventsOf 0 (forwarderEvents r.2))).isEmpty) = true := by
      decide +kernel
    rw [h, Option.all_some, Bool.not_eq_true', List.isEmpty_eq_false_iff_exists_mem] at htold
    obtain ⟨fault, hfault⟩ := htold
    have hseen := Forwarder.mem_eventsOf.mp (Handler.mem_dialFaults.mp hfault)
    have hmem := mem_forwarderEvents.mp hseen
    have hacts : ∀ act ∈ refusedOnce, ∀ cause ∈ act.brought, cause.Foreign := by
      simp [refusedOnce, Act.brought, Forwarder.Act.brought, Handler.Turn.brought, Fault.Foreign,
        Fault.streamClosed, Fault.ofText, Fault.ofNumber, Fault.kind]
    have hready : (standard.prepare {} none false []).2.2 = .ok .ready := by rfl
    exact ⟨s, events, fault, h, hmem,
      hforeign standard {} none false [] hready _ .refl _ _ s events h hacts 0 fault hmem⟩

end App

end TunnelRelay
