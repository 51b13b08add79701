import TunnelRelay.Proofs.Conservation
import TunnelRelay.Proofs.Passages
import TunnelRelay.Proofs.Responder
/-!
# The ledger of a connection

What can be seen of a connection from outside is entered in a ledger: the bytes
that the peers of its legs have sent, the bytes written on the legs, the faults
of dialing that were told, and whether the dial was said to have succeeded.

A ledger is transparent (`Transparent`) if after a successful dial each leg got
a beginning of what the other peer has sent, and otherwise nothing, but for the
client of a failed dial, who may have got the one response that tells of the
fault. The ledger of every handler is so at every moment. The invariant says
for each stage where the bytes are that were not written yet (`Balanced`), and
every passage keeps it.
-/

namespace TunnelRelay

namespace Handler

variable {h next : Handler} {inbound : Leg} {outbound : Option Leg} {ending : Ending Unit}
variable {events more : List Event} {platform : Platform} {url : String} {t : Turn}
variable {taken : List Turn} {result : Handler × List Event} {side : Side}

/-! ## Entries -/

/-- The bytes that an event shows as written on the leg of a side. -/
def Event.writtenOn (side : Side) : Event → Bytes
  | .leg other _ event => if other = side then event.written else []
  | _ => []

/-- The bytes written on the leg of a side. -/
def writtenOn (side : Side) (events : List Event) : Bytes :=
  events.flatMap (Event.writtenOn side)

/-- The fault of dialing that an event tells of. -/
def Event.dialFault? : Event → Option Fault
  | .dialFailed fault => some fault
  | _ => none

/-- The faults of dialing that were told. -/
def dialFaults (events : List Event) : List Fault := events.filterMap Event.dialFault?

theorem mem_dialFaults {fault : Fault} {events : List Event} :
    fault ∈ dialFaults events ↔ .dialFailed fault ∈ events := by
  rw [dialFaults, List.mem_filterMap]
  constructor
  · rintro ⟨event, hevent, htold⟩
    cases event with
    | dialFailed own => exact Option.some.inj htold ▸ hevent
    | _ => cases htold
  · exact fun h => ⟨_, h, rfl⟩

/-- Whether an event says that the dial has succeeded. -/
def Event.isSuccess : Event → Bool
  | .log record => record.semantics = .string Log.success
  | _ => false

/-- Whether the dial was said to have succeeded. -/
def succeeded (events : List Event) : Bool := events.any Event.isSuccess

/-- The bytes that the peer of a side sends by a turn; those that have come with
a leg are sent by its delivery. -/
def Turn.sent (side : Side) : Turn → Bytes
  | .act (.peer other own) => if other = side then own.sent else []
  | .act (.delivered (.ok delivery)) => if side = .outbound then delivery.leg.queued else []
  | _ => []

/-- What has been seen of a connection. -/
structure Ledger where
  sent : Side → Bytes
  written : Side → Bytes
  faults : List Fault
  succeeded : Bool

/-- The ledger of a handler from its acceptance on. -/
def Ledger.of (start : Handler) (taken : List Turn) (events : List Event) : Ledger where
  sent side := ((start.leg? side).elim [] Leg.queued) ++ taken.flatMap (Turn.sent side)
  written side := writtenOn side events
  faults := dialFaults events
  succeeded := Handler.succeeded events

/-- The entries of one more turn. -/
def Ledger.then (b : Ledger) (t : Turn) (events : List Event) : Ledger where
  sent side := b.sent side ++ t.sent side
  written side := b.written side ++ writtenOn side events
  faults := b.faults ++ dialFaults events
  succeeded := b.succeeded || Handler.succeeded events

variable {b : Ledger}

@[simp] theorem writtenOn_append (side : Side) (events more : List Event) :
    writtenOn side (events ++ more) = writtenOn side events ++ writtenOn side more :=
  List.flatMap_append

@[simp] theorem dialFaults_append (events more : List Event) :
    dialFaults (events ++ more) = dialFaults events ++ dialFaults more :=
  List.filterMap_append

@[simp] theorem succeeded_append (events more : List Event) :
    succeeded (events ++ more) = (succeeded events || succeeded more) :=
  List.any_append

theorem Ledger.of_concat (start : Handler) (taken : List Turn) (t : Turn)
    (events more : List Event) :
    Ledger.of start (taken ++ [t]) (events ++ more) =
      (Ledger.of start taken events).then t more := by
  simp [Ledger.of, Ledger.then, List.flatMap_append]

/-- **Events that make no entry**: nothing is written, no fault of dialing is
told, and no success. -/
structure Silent (events : List Event) : Prop where
  written : ∀ side, writtenOn side events = []
  faults : dialFaults events = []
  succeeded : Handler.succeeded events = false

theorem silent_nil : Silent [] := ⟨fun _ => rfl, rfl, rfl⟩

theorem Silent.append (h : Silent events) (h' : Silent more) : Silent (events ++ more) := by
  refine ⟨fun side => ?_, ?_, ?_⟩
  · rw [writtenOn_append, h.written, h'.written, List.append_nil]
  · rw [dialFaults_append, h.faults, h'.faults, List.append_nil]
  · rw [succeeded_append, h.succeeded, h'.succeeded, Bool.or_false]

/-- Silent events change nothing of a ledger. -/
theorem Silent.then_append (h : Silent more) (b : Ledger) (t : Turn) (events : List Event) :
    b.then t (events ++ more) = b.then t events := by
  simp [Ledger.then, h.written, h.faults, h.succeeded]

/-- Each of the events makes no entry. -/
theorem silent_of_forall
    (hall : ∀ e ∈ events, (∀ side, e.writtenOn side = []) ∧ e.dialFault? = none ∧
      e.isSuccess = false) : Silent events := by
  refine ⟨fun side => ?_, ?_, ?_⟩
  · exact List.flatMap_eq_nil_iff.mpr fun e he => (hall e he).1 side
  · exact List.filterMap_eq_nil_iff.mpr fun e he => (hall e he).2.1
  · exact List.any_eq_false.mpr fun e he => by rw [(hall e he).2.2]; exact nofun

theorem silent_legs {quiet : List Leg.Event} (cover : Cover) (hquiet : ∀ e ∈ quiet, e.written = [])
    (side : Side) : Silent (quiet.map (.leg side cover)) := by
  refine silent_of_forall fun e he => ?_
  obtain ⟨event, hevent, rfl⟩ := List.mem_map.mp he
  refine ⟨fun other => ?_, rfl, rfl⟩
  simp [Event.writtenOn, hquiet event hevent]

theorem silent_closeEvents (leg : Leg) (side : Side) (cover : Cover) :
    Silent (leg.closeEvents.map (.leg side cover)) :=
  silent_legs cover (fun _ => Leg.written_closeEvents) side

theorem silent_apply (leg : Leg) (act : Leg.Act) (side : Side) (cover : Cover) :
    Silent ((leg.apply act).2.map (.leg side cover)) :=
  silent_legs cover (fun _ => Leg.written_apply) side

theorem silent_records {records : List Log.Record}
    (hrecords : ∀ record ∈ records, record.semantics ≠ .string Log.success) :
    Silent (records.map .log) := by
  refine silent_of_forall fun e he => ?_
  obtain ⟨record, hrecord, rfl⟩ := List.mem_map.mp he
  exact ⟨fun _ => rfl, rfl, decide_eq_false (hrecords record hrecord)⟩

/-- **The end of a handler makes no entry.** -/
theorem silent_finish (h : Handler) (inbound : Leg) (outbound : Option Leg) (ending : Ending Unit)
    (events : List Event) :
    ∃ last, Silent last ∧ (h.finish inbound outbound ending events).2 = events ++ last := by
  have hsaid : Silent
      (ending.faultName?.map (h.noteUnexpected "forwarding connection")).toList := by
    cases ending.faultName? with
    | none => exact silent_nil
    | some name => exact silent_of_forall (by simp [noteUnexpected, Event.writtenOn,
        Event.dialFault?, Event.isSuccess, Log.sayUnexpected, Log.say, Log.sayOf, Value.ofOption])
  exact ⟨_, hsaid.append (silent_closeEvents inbound .inbound inbound.cover),
    List.append_assoc _ _ _⟩

theorem then_finish (b : Ledger) (t : Turn) :
    b.then t (h.finish inbound outbound ending events).2 = b.then t events := by
  obtain ⟨last, hlast, heq⟩ := h.silent_finish inbound outbound ending events
  rw [heq, hlast.then_append]

theorem writtenOn_finish (side : Side) :
    writtenOn side (h.finish inbound outbound ending events).2 = writtenOn side events := by
  obtain ⟨last, hlast, heq⟩ := h.silent_finish inbound outbound ending events
  rw [heq, writtenOn_append, hlast.written, List.append_nil]

/-- A failed dial is entered as one fault. -/
theorem then_dialFailed (b : Ledger) (t : Turn) (fault : Fault) :
    b.then t (events ++ [h.dialRecord fault, .dialFailed fault]) =
      { b.then t events with faults := (b.then t events).faults ++ [fault] } := by
  -- whichever record is written, it does not tell of a success
  have hrecord : ∃ record, h.dialRecord fault = .log record ∧
      record.semantics ≠ .string Log.success := by
    unfold dialRecord
    split
    · exact ⟨_, rfl, by simp [Log.say, Log.sayOf, Value.ofOption, Log.failure, Log.success]⟩
    · exact ⟨_, rfl, by simp [Log.sayUnexpected, Log.say, Log.sayOf, Value.ofOption]⟩
  obtain ⟨record, hrecord, hsemantics⟩ := hrecord
  rw [hrecord]
  have hfaults : dialFaults [.log record, .dialFailed fault] = [fault] := rfl
  simp [Ledger.then, writtenOn, Event.writtenOn, hfaults, succeeded, Event.isSuccess, hsemantics]

/-- What is said of the end of a relay has the semantics of its subject. -/
theorem semantics_of_join {subject : Log.Subject} {ending : Ending Relay.Outcome}
    {record : Log.Record} (h : record ∈ (Relay.join subject ending).2) :
    record.semantics = subject.semantics := by
  unfold Relay.join at h
  split at h
  · rw [List.mem_singleton.mp h]
    rfl
  · split at h
    · rw [List.mem_singleton.mp h]
      rfl
    · cases h
  · cases h

theorem silent_conclude (ending : Ending Relay.Outcome) : Silent (h.conclude ending).2 := by
  have hrecords : Silent ((Relay.join h.conn.subject ending).2.map .log) :=
    silent_records fun record hrecord => by
      rw [semantics_of_join hrecord]
      exact nofun
  simp only [conclude]
  split
  · rename_i outcome _
    have hclosed : Silent [.relayClosed outcome] := ⟨fun _ => rfl, rfl, rfl⟩
    exact hrecords.append hclosed
  · exact hrecords

/-- The events of a relay show what it writes, and no more. -/
theorem writtenOn_ofRelay (side : Side) (own : List Relay.Event) :
    writtenOn side (own.map ofRelay) = Relay.writtenOn side own := by
  rw [writtenOn, List.flatMap_map]
  rfl

theorem dialFaults_ofRelay (own : List Relay.Event) : dialFaults (own.map ofRelay) = [] := by
  rw [dialFaults, List.filterMap_map]
  exact List.filterMap_eq_nil_iff.mpr fun _ _ => rfl

theorem succeeded_ofRelay (own : List Relay.Event) : succeeded (own.map ofRelay) = false := by
  rw [succeeded, List.any_map]
  exact List.any_eq_false.mpr fun _ _ => nofun

/-- The events of a responder show what it writes on the inbound leg. -/
theorem writtenOn_ofGateway (side : Side) (cover : Cover) (own : List Gateway.Event) :
    writtenOn side (own.map (ofGateway cover)) =
      if side = .inbound then Gateway.written own else [] := by
  rw [writtenOn, List.flatMap_map]
  cases side with
  | inbound =>
    congr
    funext e
    cases e <;> rfl
  | outbound =>
    refine List.flatMap_eq_nil_iff.mpr fun e _ => ?_
    cases e <;> rfl

theorem dialFaults_ofGateway (cover : Cover) (own : List Gateway.Event) :
    dialFaults (own.map (ofGateway cover)) = [] := by
  rw [dialFaults, List.filterMap_map]
  refine List.filterMap_eq_nil_iff.mpr fun e _ => ?_
  cases e <;> rfl

theorem succeeded_ofGateway (cover : Cover) {own : List Gateway.Event}
    (hown : ∀ record, .log record ∈ own → record.semantics ≠ .string Log.success) :
    succeeded (own.map (ofGateway cover)) = false := by
  rw [succeeded, List.any_map]
  refine List.any_eq_false.mpr fun e he => ?_
  cases e with
  | leg event => exact nofun
  | log record => simpa [ofGateway, Event.isSuccess] using hown record he

/-! ## Transparency -/

/-- **A transparent ledger.** After a successful dial, each leg got a beginning
of what the other peer has sent. Otherwise nothing was written on the outbound
leg, and on the inbound one at most the response to the head of its client's
request that tells of the fault of dialing, if clients of the protocol are
told of such a fault. -/
structure Transparent (protocol : String) (b : Ledger) : Prop where
  once : b.faults.length ≤ 1
  relayed : b.succeeded = true → b.faults = [] ∧ ∀ side, b.written side.other <+: b.sent side
  unrelayed : b.succeeded = false → b.written .outbound = [] ∧
    (b.written .inbound = [] ∨ ∃ fault, b.faults = [fault] ∧ isDialFault fault = true ∧
      Gateway.answers protocol = true ∧
      Gateway.Answer fault.message (b.sent .inbound) (b.written .inbound))

/-- A ledger of a connection on which nothing has been written and nothing
told. -/
structure Ledger.Quiet (b : Ledger) : Prop where
  written : ∀ side, b.written side = []
  faults : b.faults = []
  succeeded : b.succeeded = false

/-- **Where the bytes are.** Until the dial has succeeded or failed they wait on
the legs; a relay conserves them; a responder follows what its client sends;
and in the end the ledger is transparent. -/
def Balanced (h : Handler) (b : Ledger) : Prop :=
  match h.stage with
  | .starting inbound | .dialing inbound _ _ =>
    b.sent .inbound = inbound.queued ∧ b.sent .outbound = [] ∧ b.Quiet
  | .handshaking inbound _ _ outbound =>
    b.sent .inbound = inbound.queued ∧ b.sent .outbound = outbound.queued ∧ b.Quiet
  | .relaying relay =>
    relay.Conserves b.sent b.written ∧ b.faults = [] ∧ b.succeeded = true
  | .answering gateway _ =>
    gateway.Responds (b.sent .inbound) (b.written .inbound) ∧ gateway.subject = h.conn.subject ∧
      b.written .outbound = [] ∧ b.succeeded = false ∧
      ∃ fault, b.faults = [fault] ∧ isDialFault fault = true ∧
        Gateway.answers h.conn.protocol = true ∧ gateway.reason = fault.message
  | .ended _ _ _ => Transparent h.conn.protocol b
  | .dropped _ => b.Quiet

/-- A quiet ledger is transparent, and so it is with a fault. -/
theorem transparent_of_silent {protocol : String} (hwritten : ∀ side, b.written side = [])
    (hfaults : b.faults.length ≤ 1) (hsucceeded : b.succeeded = false) :
    Transparent protocol b := by
  refine ⟨hfaults, fun hyes => ?_, fun _ => ⟨hwritten .outbound, Or.inl (hwritten .inbound)⟩⟩
  rw [hsucceeded] at hyes
  cases hyes

theorem Ledger.Quiet.transparent {protocol : String} (hquiet : b.Quiet) :
    Transparent protocol b :=
  transparent_of_silent hquiet.written (by rw [hquiet.faults]; exact Nat.zero_le _)
    hquiet.succeeded

theorem transparent_of_conserves {protocol : String} {relay : Relay}
    (hrelay : relay.Conserves b.sent b.written) (hfaults : b.faults = [])
    (hsucceeded : b.succeeded = true) : Transparent protocol b := by
  refine ⟨by rw [hfaults]; exact Nat.zero_le _, fun _ => ⟨hfaults, fun side => ?_⟩,
    fun hno => ?_⟩
  · obtain ⟨held, -, hsent⟩ := (hrelay side).kept
    rw [hsent, List.append_assoc]
    exact List.prefix_append _ _
  · rw [hsucceeded] at hno
    cases hno

/-- A responder tells its client what a transparent ledger allows. -/
theorem transparent_of_responds {protocol : String} {gateway : Gateway} {fault : Fault}
    (hresponds : gateway.Responds (b.sent .inbound) (b.written .inbound))
    (hout : b.written .outbound = []) (hsucceeded : b.succeeded = false)
    (hfaults : b.faults = [fault]) (hdial : isDialFault fault = true)
    (hanswers : Gateway.answers protocol = true) (hreason : gateway.reason = fault.message) :
    Transparent protocol b := by
  refine ⟨Nat.le_of_eq (congrArg List.length hfaults), fun hyes => ?_, fun _ => ⟨hout, ?_⟩⟩
  · rw [hsucceeded] at hyes
    cases hyes
  · rcases hresponds.answer with hnothing | ⟨-, hanswer⟩
    · exact Or.inl hnothing
    · exact Or.inr ⟨fault, hfaults, hdial, hanswers, hreason ▸ hanswer⟩

/-- **A balanced ledger is transparent.** -/
theorem Balanced.transparent (hb : h.Balanced b) : Transparent h.conn.protocol b := by
  unfold Balanced at hb
  cases hstage : h.stage with
  | starting | dialing | handshaking =>
    simp only [hstage] at hb
    exact hb.2.2.transparent
  | relaying relay =>
    simp only [hstage] at hb
    exact transparent_of_conserves hb.1 hb.2.1 hb.2.2
  | answering gateway outbound =>
    simp only [hstage] at hb
    obtain ⟨hresponds, -, hout, hsucceeded, fault, hfaults, hdial, hanswers, hreason⟩ := hb
    exact transparent_of_responds hresponds hout hsucceeded hfaults hdial hanswers hreason
  | ended =>
    simp only [hstage] at hb
    exact hb
  | dropped =>
    simp only [hstage] at hb
    exact hb.transparent

/-- More is sent, and nothing else happens. -/
theorem Transparent.arrive {protocol : String} (ht : Transparent protocol b)
    (sent : Side → Bytes) (hsent : ∀ side, b.sent side <+: sent side) :
    Transparent protocol { b with sent } := by
  refine ⟨ht.once, fun hyes => ?_, fun hno => ?_⟩
  · obtain ⟨hfaults, hbegun⟩ := ht.relayed hyes
    exact ⟨hfaults, fun side => (hbegun side).trans (hsent side)⟩
  · obtain ⟨hout, hin | ⟨fault, hfaults, hdial, hanswers, hanswer⟩⟩ := ht.unrelayed hno
    · exact ⟨hout, Or.inl hin⟩
    · exact ⟨hout, Or.inr ⟨fault, hfaults, hdial, hanswers, hanswer.mono (hsent .inbound)⟩⟩

/-! ## Every passage keeps the balance -/

theorem then_of_silent (hevents : Silent events) (b : Ledger) (t : Turn) :
    b.then t events = { b with sent := fun side => b.sent side ++ t.sent side } := by
  simp [Ledger.then, hevents.written, hevents.faults, hevents.succeeded]

theorem balanced_finish (ht : Transparent h.conn.protocol (b.then t events)) :
    (h.finish inbound outbound ending events).1.Balanced
      (b.then t (h.finish inbound outbound ending events).2) := by
  rw [then_finish]
  exact ht

theorem balanced_dialFailed {fault : Fault} (hquiet : (b.then t events).Quiet)
    (hsent : (b.then t events).sent .inbound = inbound.queued) :
    (h.dialFailed inbound outbound fault events).1.Balanced
      (b.then t (h.dialFailed inbound outbound fault events).2) := by
  rcases h.dialFailed_cases inbound outbound fault events with
    ⟨-, hdial, hanswers, heq⟩ | ⟨-, ending, -, heq⟩
  · rw [heq, then_dialFailed]
    refine ⟨⟨hsent, Or.inl (hquiet.written _)⟩, rfl, hquiet.written _, hquiet.succeeded, fault, ?_,
      hdial, hanswers, rfl⟩
    · rw [hquiet.faults, List.nil_append]
  · rw [heq]
    refine balanced_finish ?_
    rw [then_dialFailed]
    refine transparent_of_silent hquiet.written ?_ hquiet.succeeded
    rw [hquiet.faults]
    exact Nat.le_refl 1

theorem balanced_peer {leg : Leg} (hb : h.Balanced b) (hleg : h.leg? side = some leg)
    (act : Leg.Act) :
    (h.withLeg side (leg.apply act).1).Balanced
      (b.then (.act (.peer side act)) ((leg.apply act).2.map (.leg side leg.cover))) := by
  rw [then_of_silent (silent_apply leg act side leg.cover)]
  unfold Balanced at hb
  cases hstage : h.stage with
  | starting inbound | dialing inbound =>
    simp only [hstage] at hb
    obtain ⟨hin, hout, hquiet⟩ := hb
    cases side with
    | inbound =>
      obtain rfl : inbound = leg := by simpa [leg?, hstage] using hleg
      simp only [withLeg, hstage, Balanced]
      exact ⟨by rw [Leg.queued_apply, hin]; rfl, by rw [hout]; rfl, hquiet.1, hquiet.2, hquiet.3⟩
    | outbound => simp [leg?, hstage] at hleg
  | handshaking inbound guard peer outbound =>
    simp only [hstage] at hb
    obtain ⟨hin, hout, hquiet⟩ := hb
    cases side with
    | inbound =>
      obtain rfl : inbound = leg := by simpa [leg?, hstage] using hleg
      simp only [withLeg, hstage, Balanced]
      exact ⟨by rw [Leg.queued_apply, hin]; rfl, by rw [hout]; exact List.append_nil _,
        hquiet.1, hquiet.2, hquiet.3⟩
    | outbound =>
      obtain rfl : outbound = leg := by simpa [leg?, hstage] using hleg
      simp only [withLeg, hstage, Balanced]
      exact ⟨by rw [hin]; exact List.append_nil _, by rw [Leg.queued_apply, hout]; rfl,
        hquiet.1, hquiet.2, hquiet.3⟩
  | relaying relay =>
    simp only [hstage] at hb
    obtain rfl : relay.legs.get side = leg := by simpa [leg?, hstage] using hleg
    simp only [withLeg, hstage, Balanced]
    exact ⟨Relay.conserves_peer hb.1 side act, hb.2⟩
  | answering gateway outbound =>
    simp only [hstage] at hb
    obtain ⟨hresponds, hrest⟩ := hb
    cases side with
    | inbound =>
      obtain rfl : gateway.leg = leg := by simpa [leg?, hstage] using hleg
      simp only [withLeg, hstage, Balanced]
      exact ⟨hresponds.arrive Leg.queued_apply, hrest⟩
    | outbound =>
      obtain rfl : outbound = some leg := by simpa [leg?, hstage] using hleg
      simp only [withLeg, hstage, Balanced]
      refine ⟨?_, hrest⟩
      exact (List.append_nil (b.sent .inbound)).symm ▸ hresponds
  | ended inbound outbound ending =>
    simp only [hstage] at hb
    have harrive := hb.arrive (fun s => b.sent s ++ Turn.sent s (.act (.peer side act)))
      fun s => List.prefix_append _ _
    cases side <;> cases outbound <;> simp only [withLeg, hstage, Balanced] <;> exact harrive
  | dropped inbound =>
    simp only [hstage] at hb
    cases side <;> simp only [withLeg, hstage, Balanced] <;> exact ⟨hb.1, hb.2, hb.3⟩

/-- The peers of a relay send by what happens to its legs, and by nothing that
the relay does itself. -/
theorem sent_of_onRelay {act : Act} {own : Relay.Act} (h : act.onRelay = some own) (side : Side) :
    Turn.sent side (.act act) = [] ∧ own.sent side = [] := by
  cases act with
  | advance | abandon | closeLegs | cancel =>
    obtain rfl := Option.some.inj h
    exact ⟨rfl, rfl⟩
  | peer | delivered | handshaken | answer => cases h

theorem sent_of_onGateway {act : Act} {own : Gateway.Act} (h : act.onGateway = some own)
    (side : Side) : Turn.sent side (.act act) = [] := by
  cases act with
  | answer | cancel => rfl
  | peer | delivered | handshaken | advance | abandon | closeLegs => cases h

/-- A relay by itself enters what it writes, and nothing else. -/
theorem then_ofRelay {act : Act} {own : Relay.Act} (hown : act.onRelay = some own) (b : Ledger)
    (events : List Relay.Event) :
    b.then (.act act) (events.map ofRelay) =
      { b with written := fun side => b.written side ++ Relay.writtenOn side events } := by
  simp [Ledger.then, sent_of_onRelay hown, writtenOn_ofRelay, dialFaults_ofRelay,
    succeeded_ofRelay]

/-- So does a responder, and it writes on the inbound leg. -/
theorem then_ofGateway {act : Act} {own : Gateway.Act} (hown : act.onGateway = some own)
    (b : Ledger) (cover : Cover) {events : List Gateway.Event}
    (hevents : ∀ record, .log record ∈ events → record.semantics ≠ .string Log.success) :
    b.then (.act act) (events.map (ofGateway cover)) =
      { b with
          written := fun side =>
            b.written side ++ if side = .inbound then Gateway.written events else [] } := by
  simp [Ledger.then, sent_of_onGateway hown, writtenOn_ofGateway, dialFaults_ofGateway,
    succeeded_ofGateway cover hevents]

theorem balanced_withRelay {relay : Relay} {act : Act} {own : Relay.Act}
    {step : Relay × List Relay.Event} (hrelay : relay.Conserves b.sent b.written)
    (hfaults : b.faults = []) (hsucceeded : b.succeeded = true) (hown : act.onRelay = some own)
    (hstep : relay.step own = some step) :
    (h.withRelay step).1.Balanced (b.then (.act act) (h.withRelay step).2) := by
  have hnext : step.1.Conserves b.sent
      (fun side => b.written side ++ Relay.writtenOn side step.2) := by
    simpa [sent_of_onRelay hown] using
      Relay.conserves_step hrelay (Relay.passage_of_step hstep)
  rcases h.withRelay_cases step.1 step.2 with ⟨-, heq⟩ | ⟨ending, -, heq⟩
  · rw [heq, then_ofRelay hown]
    exact ⟨hnext, hfaults, hsucceeded⟩
  · rw [heq]
    refine balanced_finish ?_
    rw [(silent_conclude ending).then_append, then_ofRelay hown]
    exact transparent_of_conserves hnext hfaults hsucceeded

theorem balanced_withGateway {gateway : Gateway} {act : Act} {own : Gateway.Act}
    {step : Gateway × List Gateway.Event} (hb : h.Balanced b)
    (hstage : h.stage = .answering gateway outbound) (hown : act.onGateway = some own)
    (hstep : gateway.step own = some step) :
    (h.withGateway outbound step).1.Balanced
      (b.then (.act act) (h.withGateway outbound step).2) := by
  simp only [Balanced, hstage] at hb
  obtain ⟨hresponds, hsubject, hout, hsucceeded, fault, hfaults, hdial, hanswers, hreason⟩ := hb
  have hp := Gateway.passage_of_step (Act.onGateway_ne_peer hown) hstep
  have hnext := hresponds.step hp
  have hkept := Gateway.reason_of_passage hp
  obtain ⟨hsame, hrecords⟩ := Gateway.records_of_passage hp
  have hentered := then_ofGateway hown b step.1.leg.cover fun record hrecord => by
    rw [hrecords record hrecord, hsubject]
    exact nofun
  have houtbound : b.written .outbound ++ [] = [] := by rw [hout, List.append_nil]
  rcases h.withGateway_cases outbound step.1 step.2 with ⟨-, heq⟩ | ⟨ending, -, heq⟩
  · rw [heq, hentered]
    exact ⟨hnext, hsame.trans hsubject, houtbound, hsucceeded, fault, hfaults, hdial, hanswers,
      hkept.trans hreason⟩
  · rw [heq]
    refine balanced_finish ?_
    rw [hentered]
    exact transparent_of_responds hnext houtbound hsucceeded hfaults hdial hanswers
      (hkept.trans hreason)

theorem Ledger.Quiet.then (hquiet : b.Quiet) (hevents : Silent events) (t : Turn) :
    (b.then t events).Quiet := by
  rw [then_of_silent hevents]
  exact ⟨hquiet.1, hquiet.2, hquiet.3⟩

theorem silent_discarded (leg : Leg) : Silent (discarded leg) :=
  silent_closeEvents leg .outbound leg.cover

/-- The relay starts with what has been sent so far on its legs. -/
theorem balanced_established {leg : Leg} {peer : Option String} (hquiet : b.Quiet)
    (hevents : Silent events)
    (hin : b.sent .inbound ++ t.sent .inbound = inbound.queued)
    (hout : b.sent .outbound ++ t.sent .outbound = leg.queued) :
    (h.established inbound leg peer events).1.Balanced
      (b.then t (h.established inbound leg peer events).2) := by
  have hsaid (message : String) :
      b.then t (events ++ [h.note .debug message Log.success]) =
        { b.then t events with succeeded := true } := by
    simp [Ledger.then, writtenOn, Event.writtenOn, dialFaults, Event.dialFault?, succeeded,
      Event.isSuccess, note, Log.say, Log.sayOf, Value.ofOption]
  have hnext := hquiet.then hevents t
  simp only [established, hsaid, Balanced]
  refine ⟨?_, hnext.faults, trivial⟩
  have hsent : (b.then t events).sent =
      fun side => ((⟨inbound, leg⟩ : Both Leg).get side).queued := by
    funext side
    cases side with
    | inbound => exact hin
    | outbound => exact hout
  have hwritten : (b.then t events).written = fun _ => [] := funext hnext.written
  rw [hsent, hwritten]
  exact Relay.conserves_start ⟨inbound, leg⟩

/-- **Every passage keeps the balance.** -/
theorem balanced_step (hb : h.Balanced b) (hp : Passage h t result) :
    result.1.Balanced (b.then t result.2) := by
  cases hp with
  | peer hleg => exact balanced_peer hb hleg _
  | unresolved hstage | refused hstage | unnamed hstage =>
    simp only [Balanced, hstage] at hb
    exact balanced_dialFailed (hb.2.2.then silent_nil _) ((List.append_nil _).trans hb.1)
  | dial hstage =>
    simp only [Balanced, hstage] at hb
    obtain ⟨hin, hout, hquiet⟩ := hb
    exact ⟨(List.append_nil _).trans hin, (List.append_nil _).trans hout,
      hquiet.then ⟨fun _ => rfl, rfl, rfl⟩ _⟩
  | connected hstage =>
    simp only [Balanced, hstage] at hb
    obtain ⟨hin, hout, hquiet⟩ := hb
    refine balanced_established hquiet silent_nil ((List.append_nil _).trans hin) ?_
    rw [hout]
    rfl
  | covered hstage =>
    simp only [Balanced, hstage] at hb
    obtain ⟨hin, hout, hquiet⟩ := hb
    refine ⟨(List.append_nil _).trans hin, ?_, hquiet.then ⟨fun _ => rfl, rfl, rfl⟩ _⟩
    simp only [Ledger.then, hout]
    rfl
  | @uncovered inbound transport guard delivery fault hstage =>
    simp only [Balanced, hstage] at hb
    have hcover : Silent [.cover guard] := ⟨fun _ => rfl, rfl, rfl⟩
    exact balanced_dialFailed (hb.2.2.then (hcover.append (silent_discarded delivery.leg)) _)
      ((List.append_nil _).trans hb.1)
  | shaken hstage =>
    simp only [Balanced, hstage] at hb
    obtain ⟨hin, hout, hquiet⟩ := hb
    exact balanced_established hquiet ⟨fun _ => rfl, rfl, rfl⟩ ((List.append_nil _).trans hin)
      ((List.append_nil _).trans hout)
  | unshaken hstage | cancelFailed hstage =>
    simp only [Balanced, hstage] at hb
    exact balanced_dialFailed (hb.2.2.then (silent_discarded _) _)
      ((List.append_nil _).trans hb.1)
  | cancelDial hstage =>
    simp only [Balanced, hstage] at hb
    exact balanced_finish (hb.2.2.then silent_nil _).transparent
  | cancelHandshake hstage =>
    simp only [Balanced, hstage] at hb
    exact balanced_finish (hb.2.2.then (silent_discarded _) _).transparent
  | relay hstage hown hstep =>
    simp only [Balanced, hstage] at hb
    exact balanced_withRelay hb.1 hb.2.1 hb.2.2 hown hstep
  | gateway hstage hown hstep => exact balanced_withGateway hb hstage hown hstep

/-- Nothing has happened to a handler that is accepted. -/
theorem balanced_accepted (conn : Inbound) (leg : Leg) (receivers : Receivers) :
    (accepted conn leg receivers).Balanced (.of (accepted conn leg receivers) [] []) := by
  unfold accepted
  split
  · exact ⟨List.append_nil _, rfl, fun _ => rfl, rfl, rfl⟩
  · exact ⟨fun _ => rfl, rfl, rfl⟩

/-- **The ledger of every handler is balanced.** -/
theorem balanced_run {conn : Inbound} {leg : Leg} {receivers : Receivers}
    (h' : (life platform url).run (accepted conn leg receivers) taken = some (h, events)) :
    h.Balanced (.of (accepted conn leg receivers) taken events) := by
  refine Machine.run_induction (P := fun k taken events =>
    k.Balanced (.of (accepted conn leg receivers) taken events)) ?_ ?_ h'
  · exact balanced_accepted conn leg receivers
  · intro k next t taken events more _ hk hstep
    rw [Ledger.of_concat]
    exact balanced_step hk (passage_of_turn hstep)

end Handler

end TunnelRelay
