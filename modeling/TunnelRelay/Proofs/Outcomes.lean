import TunnelRelay.Proofs.Endings
import TunnelRelay.Proofs.Ownership
/-!
# What an opening comes to

An opening that nobody interferes with waits for its dial, and over TLS for the
handshake; in both places it can be given any result, and can be cancelled
(`Course`). However it goes on, it ends with all or nothing (`Outcome`): the
connection holds the stream that was delivered, or it is disconnected as
before and every leg that was dialed is closed.

What stood in the way of an opening is raised, either as it is or as a failure
to dial (`Raises`). A certificate that is refused is a fault of the system and
one of a value, and is raised as both: its failure has the fault as its cause
and says which name could not be proved.
-/

namespace TunnelRelay

/-- The name that a server has to prove to have. -/
def Transport.serverName? : Transport → Option String
  | .tls _ _ serverName => some serverName
  | .tcp _ _ | .unix _ | .pipe _ | .custom => none

/-- **A delivery that can be relied on**: closing its leg does not fail and is
not held up, and its socket names its peer or says that it cannot. -/
structure Delivery.Reliable (delivery : Delivery) : Prop where
  closable : delivery.leg.Closable
  named : delivery.Named

namespace Opening

variable {transport : Transport} {cache after : Trust.Cache Trust.Context}
variable {load : Trust.Outcome Trust.Context} {guard : Option Guard} {fault : Fault}

/-- The server of a TLS connection has something to prove, and no other. -/
theorem serverName_of_askTrust (h : askTrust transport cache load = (.ok guard, after)) :
    transport.serverName? = guard.map (·.serverName) := by
  cases transport with
  | tls host port serverName =>
    simp only [askTrust, Prod.mk.injEq] at h
    cases hget : (cache.get load).1 with
    | ok context =>
      rw [hget] at h
      obtain rfl := Except.ok.inj h.1
      rfl
    | error fault =>
      rw [hget] at h
      cases h.1
  | tcp | unix | pipe | custom =>
    obtain rfl := Except.ok.inj (congrArg Prod.fst h)
    rfl

/-! ## What is raised -/

/-- What stands in the way of an opening: a fault, and the name of the server if
that was to be proved. -/
structure Setback where
  fault : Fault
  serverName : Option String := none

/-- What is made of a setback. -/
def Setback.raised (s : Setback) : Fault :=
  report (s.serverName.elim s.fault fun name => coverFault name s.fault)

/-- **How a setback is raised.** -/
structure Raises (s : Setback) (raised : Fault) : Prop where
  /-- A fault of forwarding is raised as it is. -/
  forwarding : s.fault.kind.isForwarding = true → raised = s.fault
  /-- A fault of the system or a broken stream is a failure to dial that says
  something and has the fault as its cause. -/
  dial : s.fault.kind.isSystem = true ∨ s.fault.kind = .brokenResource →
    raised.kind = .dialFailure ∧ raised.cause = some s.fault ∧ raised.message ≠ ""
  /-- A value that TLS does not take is one too, and says which name could not be
  proved. -/
  name : ∀ name, s.serverName = some name → s.fault.kind.isValue = true →
    raised.kind = .dialFailure ∧ raised.cause = some s.fault ∧
      raised.message = "invalid TLS server name " ++ Text.quoted name ++ ": " ++ s.fault.message
  /-- Any other fault is raised as it is. -/
  other : s.fault.kind.isSystem = false → s.fault.kind ≠ .brokenResource →
    s.serverName = none ∨ s.fault.kind.isValue = false → raised = s.fault

theorem report_forwarding (h : fault.kind.isForwarding = true) : report fault = fault := if_pos h

theorem report_dial (h : fault.kind.isSystem = true ∨ fault.kind = .brokenResource) :
    report fault = .dialFailure fault.account fault := by
  have hnot : fault.kind.isForwarding = false := by
    cases hkind : fault.kind <;> simp [hkind, Fault.Kind.isSystem, Fault.Kind.isForwarding] at h ⊢
  simp [report, hnot, h]

theorem report_other (hsystem : fault.kind.isSystem = false)
    (hbroken : fault.kind ≠ .brokenResource) : report fault = fault := by
  simp [report, hsystem, hbroken]

/-- What TLS does not take is about a value, and so not a fault of forwarding. -/
theorem not_forwarding_of_isValue (h : fault.kind.isValue = true) :
    fault.kind.isForwarding = false := by
  cases hkind : fault.kind <;> simp [hkind, Fault.Kind.isValue, Fault.Kind.isForwarding] at h ⊢

theorem raises_raised (s : Setback) : Raises s s.raised := by
  obtain ⟨fault, serverName⟩ := s
  -- a value that TLS does not take is a failure to dial before anybody reports it
  by_cases hname : serverName.isSome = true ∧ fault.kind.isValue = true
  · obtain ⟨hsome, hvalue⟩ := hname
    obtain ⟨name, rfl⟩ := Option.isSome_iff_exists.mp hsome
    have hraised : Setback.raised ⟨fault, some name⟩ = .dialFailure
        ("invalid TLS server name " ++ Text.quoted name ++ ": " ++ fault.message) fault := by
      simp only [Setback.raised, Option.elim_some, coverFault, if_pos hvalue]
      exact report_forwarding rfl
    rw [hraised]
    refine ⟨fun hforwarding => ?_, fun _ => ⟨rfl, rfl, ?_⟩, fun other hother _ => ?_,
      fun _ _ hplain => ?_⟩
    · rw [not_forwarding_of_isValue hvalue] at hforwarding
      cases hforwarding
    · simp [Fault.dialFailure, Fault.message, Fault.kind, Fault.args, Fault.messageOf, Value.text]
    · obtain rfl := Option.some.inj hother
      exact ⟨rfl, rfl, rfl⟩
    · obtain hnone | hvalue' := hplain
      · cases hnone
      · rw [hvalue] at hvalue'
        cases hvalue'
  · have hraised : Setback.raised ⟨fault, serverName⟩ = report fault := by
      cases serverName with
      | none => rfl
      | some name =>
        have hvalue : ¬fault.kind.isValue = true := fun hvalue => hname ⟨rfl, hvalue⟩
        simp only [Setback.raised, Option.elim_some, coverFault, if_neg hvalue]
    rw [hraised]
    refine ⟨report_forwarding, fun hdial => ?_, fun name hsome hvalue => ?_,
      fun hsystem hbroken _ => report_other hsystem hbroken⟩
    · rw [report_dial hdial]
      exact ⟨rfl, rfl, Relay.account_ne_empty fault⟩
    · obtain rfl : serverName = some name := hsome
      exact absurd ⟨rfl, hvalue⟩ hname

end Opening

namespace Lifecycle

variable {l u next : Lifecycle} {act : Act} {acts : List Act} {task : Nat}
variable {load : Trust.Outcome Trust.Context} {cache : Trust.Cache Trust.Context}
variable {guard : Option Opening.Guard} {delivery : Delivery} {peer : Option String}
variable {events more : List Event} {result : Lifecycle × List Event}

/-! ## What happens to a task -/

/-- The task to which something happens. -/
def Act.task? : Act → Option Nat
  | .delivered task _ | .handshaken task _ | .closed task | .cancel task => some task
  | .start _ | .shut | .detach | .release => none

/-- What a dial delivers. -/
def Act.delivery? : Act → Option Delivery
  | .delivered _ (.ok delivery) => some delivery
  | .delivered _ (.error _) | .handshaken _ _ | .closed _ | .cancel _ | .start _ | .shut
  | .detach | .release => none

/-- What dials deliver, in order. -/
def deliveries (acts : List Act) : List Delivery := acts.filterMap Act.delivery?

/-- What stands in the way of an opening after its dial, or in the dial. Where no
name has to be proved, nothing is put on the leg. -/
def Act.setback? (transport : Transport) : Act → Option Opening.Setback
  | .delivered _ (.error fault) => some { fault }
  | .delivered _ (.ok delivery) =>
    transport.serverName?.bind fun name =>
      delivery.coverFault.map fun fault => { fault, serverName := some name }
  | .handshaken _ fault =>
    fault.map fun fault => { fault, serverName := transport.serverName? }
  | .closed _ | .cancel _ | .start _ | .shut | .detach | .release => none

/-- **All that stands in the way of an opening**: the certificates, and what
happens to its task. -/
def setbacks (l : Lifecycle) (load : Trust.Outcome Trust.Context) (acts : List Act) :
    List Opening.Setback :=
  (match (Opening.askTrust l.connection.transport l.cache load).1 with
    | .error fault => [{ fault }]
    | .ok _ => []) ++ acts.filterMap (Act.setback? l.connection.transport)

/-! ## What an opening comes to -/

/-- The leg as the connection holds it: over TLS if the server has something to
prove. -/
def covered (transport : Transport) (leg : Leg) : Leg :=
  if transport.serverName?.isSome then { leg with cover := .tls } else leg

/-- **All**: the connection holds the stream that was delivered, and has not
closed it. -/
structure Gained (l : Lifecycle) (acts : List Act) (u : Lifecycle) : Prop where
  connected : u.connection.state = .connected
  held : u.connection.stream = some l.streams.length
  fresh : ∃ delivery, deliveries acts = [delivery] ∧
    u.streams = l.streams ++ [covered l.connection.transport delivery.leg] ∧
    u.isClosed? l.streams.length = some delivery.leg.closed

/-- **Nothing**: the connection is disconnected and holds no stream, and every
leg that was dialed is closed. -/
structure Forgone (l : Lifecycle) (acts : List Act) (u : Lifecycle) : Prop where
  disconnected : u.connection.state = .disconnected
  empty : u.connection.stream = none
  closed : ∃ legs, u.streams = l.streams ++ legs ∧ legs.length = (deliveries acts).length ∧
    ∀ leg ∈ legs, leg.closed = true

/-- **What an opening comes to**, by how it ends. -/
def Outcome (l : Lifecycle) (load : Trust.Outcome Trust.Context) (acts : List Act)
    (u : Lifecycle) : Result → Prop
  | .done => Gained l acts u ∧ l.setbacks load acts = [] ∧ .cancel l.tasks.length ∉ acts
  | .failed raised => Forgone l acts u ∧ .cancel l.tasks.length ∉ acts ∧
      ∃ setback, l.setbacks load acts = [setback] ∧ Opening.Raises setback raised
  | .cancelled => Forgone l acts u ∧ l.setbacks load acts = [] ∧ .cancel l.tasks.length ∈ acts

/-- **How an opening goes on**, given what has happened to its task. -/
inductive Course (l : Lifecycle) (load : Trust.Outcome Trust.Context) (u : Lifecycle)
    (events : List Event) : List Act → Prop
  /-- It waits for its dial. -/
  | dialing : u.connection.state = .connecting → endings events = [] →
      (∀ result, (machine.step u (.delivered l.tasks.length result)).isSome = true) →
      (machine.step u (.cancel l.tasks.length)).isSome = true →
      Course l load u events []
  /-- It waits for the handshake of a server that has something to prove. -/
  | handshaking {delivery : Delivery} : l.connection.transport.serverName?.isSome = true →
      u.connection.state = .connecting → endings events = [] →
      (∀ fault, (machine.step u (.handshaken l.tasks.length fault)).isSome = true) →
      (machine.step u (.cancel l.tasks.length)).isSome = true →
      Course l load u events [.delivered l.tasks.length (.ok delivery)]
  /-- It has ended. -/
  | ended {acts : List Act} (result : Result) : endings events = [(.opening, result)] →
      Outcome l load acts u result → Course l load u events acts

/-! ## While it goes on -/

/-- The connection while its task waits for the dial. -/
def toDial (l : Lifecycle) (guard : Option Opening.Guard) (cache : Trust.Cache Trust.Context) :
    Lifecycle :=
  { l with
      connection := { l.connection with state := .connecting }
      tasks := l.tasks ++ [.dialing guard], cache }

/-- The connection while its task waits for the handshake. -/
def toShake (l : Lifecycle) (guard : Opening.Guard) (cache : Trust.Cache Trust.Context)
    (peer : Option String) (leg : Leg) : Lifecycle :=
  { l with
      connection := { l.connection with state := .connecting, peer }
      streams := l.streams ++ [leg]
      tasks := l.tasks ++ [.handshaking l.streams.length guard], cache }

theorem place_toDial (l : Lifecycle) (guard : Option Opening.Guard)
    (cache : Trust.Cache Trust.Context) :
    (l.toDial guard cache).tasks[l.tasks.length]? = some (.dialing guard) :=
  List.getElem?_concat_length

theorem place_toShake (l : Lifecycle) (guard : Opening.Guard) (cache : Trust.Cache Trust.Context)
    (peer : Option String) (leg : Leg) :
    (l.toShake guard cache peer leg).tasks[l.tasks.length]? =
      some (.handshaking l.streams.length guard) :=
  List.getElem?_concat_length

theorem leg_toShake (l : Lifecycle) (guard : Opening.Guard) (cache : Trust.Cache Trust.Context)
    (peer : Option String) (leg : Leg) :
    (l.toShake guard cache peer leg).streams[l.streams.length]? = some leg :=
  List.getElem?_concat_length

/-- **Where an opening stands**, in full. -/
inductive Stands (l : Lifecycle) (load : Trust.Outcome Trust.Context) (u : Lifecycle)
    (events : List Event) : List Act → Prop
  | dialing {guard : Option Opening.Guard} {cache : Trust.Cache Trust.Context} :
      (Opening.askTrust l.connection.transport l.cache load).1 = .ok guard →
      l.connection.transport.serverName? = guard.map (·.serverName) →
      u = l.toDial guard cache → endings events = [] → Stands l load u events []
  | handshaking {guard : Opening.Guard} {cache : Trust.Cache Trust.Context}
      {peer : Option String} {delivery : Delivery} :
      (Opening.askTrust l.connection.transport l.cache load).1 = .ok (some guard) →
      l.connection.transport.serverName? = some guard.serverName → delivery.Reliable →
      delivery.coverFault = none →
      u = l.toShake guard cache peer { delivery.leg with cover := .tls } → endings events = [] →
      Stands l load u events [.delivered l.tasks.length (.ok delivery)]
  | ended {acts : List Act} (result : Result) :
      u.tasks[l.tasks.length]? = none ∨ u.tasks[l.tasks.length]? = some .finished →
      endings events = [(.opening, result)] → Outcome l load acts u result →
      Stands l load u events acts

theorem Stands.course (h : Stands l load u events acts) : Course l load u events acts := by
  cases h with
  | @dialing guard cache _ _ hu hnone =>
    subst hu
    refine .dialing rfl hnone (fun result => ?_) ?_
    · simp only [machine, step, place_toDial]
      rfl
    · simp only [machine, step, cancel, place_toDial]
      rfl
  | @handshaking guard _ _ delivery _ hname _ _ hu hnone =>
    subst hu
    refine .handshaking (by rw [hname]; rfl) rfl hnone (fun fault => ?_) ?_
    · simp only [machine, step, place_toShake]
      rfl
    · simp only [machine, step, cancel, place_toShake, leg_toShake]
      rfl
  | ended result _ hended houtcome => exact .ended result hended houtcome

/-- The opening begins. -/
theorem stands_beginOpening (hstate : l.connection.state = .disconnected)
    (hstream : l.connection.stream = none) (load : Trust.Outcome Trust.Context) :
    Stands l load (l.beginOpening load).1 (l.beginOpening load).2 [] := by
  rcases htrust : Opening.askTrust l.connection.transport l.cache load with ⟨fault | guard, cache⟩
  · rw [beginOpening_untrusted hstate htrust]
    have hsetbacks : l.setbacks load [] = [{ fault }] := by
      rw [setbacks, htrust]
      rfl
    refine .ended (.failed _) (Or.inl (List.getElem?_eq_none (Nat.le_refl _))) rfl ?_
    exact ⟨⟨hstate, hstream, [], (List.append_nil _).symm, rfl, nofun⟩, nofun, _, hsetbacks,
      Opening.raises_raised _⟩
  · rw [beginOpening_dial hstate htrust]
    exact .dialing (by rw [htrust]) (Opening.serverName_of_askTrust htrust) rfl rfl

/-! ## How it ends -/

theorem setbacks_of_trusted
    (h : (Opening.askTrust l.connection.transport l.cache load).1 = .ok guard) (acts : List Act) :
    l.setbacks load acts = acts.filterMap (Act.setback? l.connection.transport) := by
  rw [setbacks, h]
  rfl

theorem closed_covered (transport : Transport) (leg : Leg) :
    (covered transport leg).closed = leg.closed := by
  unfold covered
  split <;> rfl

/-- The stream of the last stage is what the connection holds. -/
theorem stands_opened {v : Lifecycle} {place : Task} {before : Leg}
    {stage : Opening.Result × List Opening.Event} {told : List Opening.Event}
    (hstage : stage = (.opened (covered l.connection.transport delivery.leg), told))
    (htasks : v.tasks = l.tasks ++ [place]) (hstreams : v.streams = l.streams ++ [before])
    (hends : endings events = []) (hdelivery : deliveries acts = [delivery])
    (hsetbacks : l.setbacks load acts = []) (hcancel : .cancel l.tasks.length ∉ acts) :
    Stands l load (v.afterStage l.tasks.length l.streams.length stage).1
      (events ++ (v.afterStage l.tasks.length l.streams.length stage).2) acts := by
  subst hstage
  refine .ended .done (Or.inr ?_) ?_ ⟨⟨rfl, rfl, delivery, hdelivery, ?_, ?_⟩, hsetbacks, hcancel⟩
  · simp [afterStage, endCall, setState, moveTask, htasks]
  · simp only [afterStage]
    rw [endings_append, hends, endings_ending]
    rfl
  · simp [afterStage, endCall, setState, moveTask, hstreams]
  · simp [afterStage, endCall, setState, moveTask, hstreams, isClosed?, closed_covered]

/-- The leg of a stage that fails is closed, and the connection holds none. -/
theorem stands_discarded {v : Lifecycle} {place : Task} {before leg : Leg} {fault : Fault}
    {stage : Opening.Result × List Opening.Event} {told : List Opening.Event}
    {setback : Opening.Setback} (hclosable : leg.Closable)
    (hstage : stage = ((Opening.discard leg fault).1, told ++ (Opening.discard leg fault).2))
    (htasks : v.tasks = l.tasks ++ [place]) (hstreams : v.streams = l.streams ++ [before])
    (hempty : v.connection.stream = none) (hends : endings events = [])
    (hdelivery : deliveries acts = [delivery]) (hsetbacks : l.setbacks load acts = [setback])
    (hcancel : .cancel l.tasks.length ∉ acts) (hraised : Opening.report fault = setback.raised) :
    Stands l load (v.afterStage l.tasks.length l.streams.length stage).1
      (events ++ (v.afterStage l.tasks.length l.streams.length stage).2) acts := by
  subst hstage
  -- closing does not fail, so the fault of the stage is the one that is raised
  have hnone : leg.closeFault? = none := Leg.closeFault?_eq_none hclosable.noFault
  simp only [Opening.discard, hnone, Option.getD_none, afterStage, failOpening, Option.elim_some]
  refine .ended (.failed (Opening.report fault)) (Or.inr ?_) ?_
    ⟨⟨rfl, hempty, [leg.closeNow], ?_, ?_, ?_⟩, hcancel, setback, hsetbacks, ?_⟩
  · simp [endCall, setState, moveTask, htasks]
  · rw [endings_append, hends, endings_ending]
    rfl
  · simp [endCall, setState, moveTask, hstreams]
  · rw [hdelivery]
    rfl
  · exact List.forall_mem_singleton.mpr hclosable.closed_closeNow
  · rw [hraised]
    exact Opening.raises_raised setback

/-- The dial gives its result. -/
theorem stands_deliver (hstream : l.connection.stream = none)
    (htrust : (Opening.askTrust l.connection.transport l.cache load).1 = .ok guard)
    (hname : l.connection.transport.serverName? = guard.map (·.serverName))
    (hends : endings events = []) (result : Except Fault Delivery)
    (hreliable : ∀ delivery, result = .ok delivery → delivery.Reliable) :
    Stands l load ((l.toDial guard cache).deliver l.tasks.length guard result).1
      (events ++ ((l.toDial guard cache).deliver l.tasks.length guard result).2)
      [.delivered l.tasks.length result] := by
  have hpending : .cancel l.tasks.length ∉ [Act.delivered l.tasks.length result] := by simp
  have hsetbacks := setbacks_of_trusted htrust [.delivered l.tasks.length result]
  cases result with
  | error fault =>
    refine .ended (.failed (Opening.report fault)) (Or.inr ?_) ?_
      ⟨⟨rfl, hstream, [], (List.append_nil _).symm, rfl, nofun⟩, hpending, { fault }, hsetbacks,
        Opening.raises_raised _⟩
    · simp [deliver, failOpening, endCall, setState, moveTask, toDial]
    · rw [endings_append, hends]
      exact endings_endCall _ _ _ _
  | ok delivery =>
    have hdelivery := hreliable delivery rfl
    simp only [deliver]
    split
    · rename_i fault hpeer
      exact absurd hpeer (Opening.peerAfter_ne_error hdelivery.named _ _ fault)
    · rename_i peer hpeer
      -- only a server that has something to prove keeps the opening waiting
      cases guard with
      | none =>
        have hleg : covered l.connection.transport delivery.leg = delivery.leg := by
          simp [covered, hname]
        have hstage : Opening.afterDelivery none delivery =
            (.opened (covered l.connection.transport delivery.leg), []) := by
          rw [hleg]
          rfl
        exact stands_opened hstage rfl rfl hends rfl
          (by simpa [Act.setback?, hname] using hsetbacks) hpending
      | some guard =>
        cases hcover : delivery.coverFault with
        | none =>
          simp only [Opening.afterDelivery, hcover, afterStage]
          refine @Stands.handshaking l load _ _ guard cache peer delivery htrust hname hdelivery
            hcover ?_ ?_
          · simp [toDial, toShake, moveTask]
          · rw [endings_append, hends]
            exact endings_map_opening _
        | some fault =>
          have hstage : Opening.afterDelivery (some guard) delivery =
              ((Opening.discard delivery.leg (Opening.coverFault guard.serverName fault)).1,
                [.cover guard] ++ (Opening.discard delivery.leg
                  (Opening.coverFault guard.serverName fault)).2) := by
            simp only [Opening.afterDelivery, hcover]
            rfl
          exact stands_discarded hdelivery.closable hstage rfl rfl hstream hends rfl
            (by simpa [Act.setback?, hname, hcover] using hsetbacks) hpending rfl

/-- The handshake is over. -/
theorem stands_handshake (hstream : l.connection.stream = none) {guard : Opening.Guard}
    (htrust : (Opening.askTrust l.connection.transport l.cache load).1 = .ok (some guard))
    (hname : l.connection.transport.serverName? = some guard.serverName)
    (hdelivery : delivery.Reliable) (hcover : delivery.coverFault = none)
    (hends : endings events = []) (fault : Option Fault) :
    Stands l load
      ((l.toShake guard cache peer { delivery.leg with cover := .tls }).handshake l.tasks.length
        l.streams.length guard fault).1
      (events ++ ((l.toShake guard cache peer { delivery.leg with cover := .tls }).handshake
        l.tasks.length l.streams.length guard fault).2)
      [.delivered l.tasks.length (.ok delivery), .handshaken l.tasks.length fault] := by
  have hsetbacks := setbacks_of_trusted htrust
    [.delivered l.tasks.length (.ok delivery), .handshaken l.tasks.length fault]
  simp only [handshake, leg_toShake]
  cases fault with
  | none =>
    have htls : covered l.connection.transport delivery.leg =
        { delivery.leg with cover := .tls } := by
      simp [covered, hname]
    have hstage : Opening.afterHandshake guard { delivery.leg with cover := .tls } none =
        (.opened (covered l.connection.transport delivery.leg), [.handshake]) := by
      rw [htls]
      rfl
    exact stands_opened hstage rfl rfl hends rfl
      (by simpa [List.filterMap_cons, Act.setback?, hcover] using hsetbacks) (by simp)
  | some fault =>
    have hclosable : ({ delivery.leg with cover := .tls } : Leg).Closable :=
      ⟨hdelivery.closable.noFault, hdelivery.closable.notHeld⟩
    have hstage : Opening.afterHandshake guard { delivery.leg with cover := .tls } (some fault) =
        ((Opening.discard { delivery.leg with cover := .tls }
            (Opening.coverFault guard.serverName fault)).1,
          [] ++ (Opening.discard { delivery.leg with cover := .tls }
            (Opening.coverFault guard.serverName fault)).2) := rfl
    exact stands_discarded hclosable hstage rfl rfl hstream hends rfl
      (by simpa [List.filterMap_cons, Act.setback?, hcover, hname] using hsetbacks) (by simp) rfl

/-- The dial is cancelled. -/
theorem stands_cancel_dial (hstream : l.connection.stream = none)
    (htrust : (Opening.askTrust l.connection.transport l.cache load).1 = .ok guard)
    (hends : endings events = [])
    (hcancel : (l.toDial guard cache).cancel l.tasks.length = some (next, more)) :
    Stands l load next (events ++ more) [.cancel l.tasks.length] := by
  simp only [cancel, place_toDial] at hcancel
  obtain ⟨rfl, rfl⟩ := Prod.mk.inj (Option.some.inj hcancel)
  refine .ended .cancelled (Or.inr ?_) ?_
    ⟨⟨rfl, hstream, [], (List.append_nil _).symm, rfl, nofun⟩, setbacks_of_trusted htrust _,
      List.mem_singleton_self _⟩
  · simp [moveTask, toDial]
  · rw [endings_append, hends]
    exact endings_endCall _ _ _ _

/-- The handshake is cancelled. -/
theorem stands_cancel_handshake (hstream : l.connection.stream = none) {guard : Opening.Guard}
    (htrust : (Opening.askTrust l.connection.transport l.cache load).1 = .ok (some guard))
    (hdelivery : delivery.Reliable) (hcover : delivery.coverFault = none)
    (hends : endings events = [])
    (hcancel : (l.toShake guard cache peer { delivery.leg with cover := .tls }).cancel
      l.tasks.length = some (next, more)) :
    Stands l load next (events ++ more)
      [.delivered l.tasks.length (.ok delivery), .cancel l.tasks.length] := by
  have hclosable : ({ delivery.leg with cover := .tls } : Leg).Closable :=
    ⟨hdelivery.closable.noFault, hdelivery.closable.notHeld⟩
  have hnone := Leg.closeFault?_eq_none hclosable.noFault
  simp only [cancel, place_toShake, leg_toShake, Option.map_some, Opening.cancelHandshake,
    hnone] at hcancel
  obtain ⟨rfl, rfl⟩ := Prod.mk.inj (Option.some.inj hcancel)
  refine .ended .cancelled (Or.inr ?_) ?_
    ⟨⟨rfl, hstream, [({ delivery.leg with cover := .tls } : Leg).closeNow], ?_, rfl, ?_⟩, ?_,
      by simp⟩
  · simp [endCall, setState, moveTask, toShake]
  · rw [endings_append, hends]
    exact endings_ending _ _ _ _ _
  · simp [endCall, setState, moveTask, toShake]
  · exact List.forall_mem_singleton.mpr hclosable.closed_closeNow
  · rw [setbacks_of_trusted htrust]
    simp [List.filterMap_cons, Act.setback?, hcover]

/-- Nothing more happens to a task that has ended, or was never begun. -/
theorem step_eq_none (hdone : u.tasks[task]? = none ∨ u.tasks[task]? = some .finished)
    (hown : act.task? = some task) : machine.step u act = none := by
  cases act with
  | delivered other | handshaken other | closed other | cancel other =>
    obtain rfl : other = task := Option.some.inj hown
    obtain hnone | hfinished := hdone
    · simp [machine, step, cancel, hnone]
    · simp [machine, step, cancel, hfinished]
  | start | shut | detach | release => cases hown

/-- **Whatever happens to the task, the opening stands where it should.** -/
theorem stands_step (hstream : l.connection.stream = none) (h : Stands l load u events acts)
    (hstep : machine.step u act = some (next, more)) (hown : act.task? = some l.tasks.length)
    (hreliable : ∀ delivery, act.delivery? = some delivery → delivery.Reliable) :
    Stands l load next (events ++ more) (acts ++ [act]) := by
  cases h with
  | @dialing guard cache htrust hname hu hends =>
    subst hu
    cases act with
    | delivered other result =>
      obtain rfl : other = l.tasks.length := Option.some.inj hown
      simp only [machine, step, place_toDial] at hstep
      obtain ⟨rfl, rfl⟩ := Prod.mk.inj (Option.some.inj hstep)
      exact stands_deliver hstream htrust hname hends result fun delivery hresult =>
        hreliable delivery (by rw [hresult]; rfl)
    | cancel other =>
      obtain rfl : other = l.tasks.length := Option.some.inj hown
      exact stands_cancel_dial hstream htrust hends hstep
    | handshaken other | closed other =>
      obtain rfl : other = l.tasks.length := Option.some.inj hown
      simp only [machine, step, place_toDial] at hstep
      cases hstep
    | start | shut | detach | release => cases hown
  | @handshaking guard cache peer delivery htrust hname hdelivery hcover hu hends =>
    subst hu
    cases act with
    | handshaken other fault =>
      obtain rfl : other = l.tasks.length := Option.some.inj hown
      simp only [machine, step, place_toShake] at hstep
      obtain ⟨rfl, rfl⟩ := Prod.mk.inj (Option.some.inj hstep)
      exact stands_handshake hstream htrust hname hdelivery hcover hends fault
    | cancel other =>
      obtain rfl : other = l.tasks.length := Option.some.inj hown
      exact stands_cancel_handshake hstream htrust hdelivery hcover hends hstep
    | delivered other | closed other =>
      obtain rfl : other = l.tasks.length := Option.some.inj hown
      simp only [machine, step, place_toShake] at hstep
      cases hstep
    | start | shut | detach | release => cases hown
  | ended _ hdone =>
    -- its task is over, or was never begun
    rw [step_eq_none hdone hown] at hstep
    cases hstep

/-- **Opening is all or nothing**, whatever the certificates, the dial and the
handshake give, and wherever it is cancelled, as long as nobody else does
anything with the connection. -/
theorem all_or_nothing (hstate : l.connection.state = .disconnected)
    (hstream : l.connection.stream = none)
    (h : machine.run l (.start load :: acts) = some (next, events))
    (hacts : ∀ act ∈ acts, act.task? = some l.tasks.length ∧
      ∀ delivery, act.delivery? = some delivery → delivery.Reliable) :
    Course l load next events acts := by
  obtain ⟨u, first, rest, hstart, hrun, rfl⟩ := Machine.run_cons_iff.mp h
  have hbegun : Stands l load u first [] := by
    have hbegin := stands_beginOpening hstate hstream load
    rw [Option.some.inj hstart] at hbegin
    exact hbegin
  refine Stands.course ?_
  refine Machine.run_induction_of (P := fun v acts events => Stands l load v (first ++ events) acts)
    ?_ ?_ hrun hacts
  · rw [List.append_nil]
    exact hbegun
  · intro v w act acts events more _ hv hstep ⟨hown, hreliable⟩
    rw [← List.append_assoc]
    exact stands_step hstream hv hstep hown hreliable

/-- A leg is delivered, and a certificate refused in the handshake. -/
def refusedCertificate : List Act :=
  [.delivered 0 (.ok { leg := {}, peer := .ok (.ofHostPort "10.0.0.1" 443) }),
    .handshaken 0 (some (.mk (.system .certificate) [.int 1, .string "certificate expired"] none))]

theorem refusedCertificate_leaves_nothing :
    ∃ l events, machine.run (start (.new (.tls "a" (some 443) "b")))
        (.start (.ok .client) :: refusedCertificate) = some (l, events) ∧
      (∀ act ∈ refusedCertificate, act.task? = some 0 ∧
        ∀ delivery, act.delivery? = some delivery → delivery.Reliable) ∧
      Course (start (.new (.tls "a" (some 443) "b"))) (.ok .client) l events refusedCertificate ∧
      l.connection.state = .disconnected ∧ l.isClosed? 0 = some true ∧
      ∃ raised, endings events = [(.opening, .failed raised)] ∧
        raised.message = "invalid TLS server name 'b': certificate expired" := by
  obtain ⟨⟨l, events⟩, h⟩ := Option.isSome_iff_exists.mp
    (show (machine.run (start (.new (.tls "a" (some 443) "b")))
      (.start (.ok .client) :: refusedCertificate)).isSome = true by decide +kernel)
  have hacts : ∀ act ∈ refusedCertificate, act.task? = some 0 ∧
      ∀ delivery, act.delivery? = some delivery → delivery.Reliable := by
    refine List.forall_mem_cons.mpr ⟨⟨rfl, fun delivery hdelivery => ?_⟩,
      List.forall_mem_singleton.mpr ⟨rfl, nofun⟩⟩
    obtain rfl := Option.some.inj hdelivery
    exact ⟨⟨rfl, rfl⟩, trivial⟩
  refine ⟨l, events, h, hacts, all_or_nothing rfl rfl h hacts, ?_⟩
  obtain ⟨rfl, rfl⟩ := Prod.mk.inj (Option.some.inj h)
  exact ⟨rfl, rfl, _, rfl, by decide +kernel⟩

end Lifecycle

end TunnelRelay
