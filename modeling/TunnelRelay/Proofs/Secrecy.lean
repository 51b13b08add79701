import TunnelRelay.Proofs.Lanes
import TunnelRelay.Proofs.Shielding
/-!
# Secrecy towards destinations that need TLS

Every connection that is forwarded to an HTTPS destination is guarded: that is
an invariant of the handlers of a forwarder together with the trust cache that
they share, since what the cache has answered to one of them it answers to all.
Where the cache remembers a fault, no context is known, and so no milestone can
have been made by any handler: nothing is dialed.
-/

namespace TunnelRelay

namespace Forwarder

open Handler (Turn Progress Guarded Shielded Plain milestones steps transportOf dialFaults writtenOn
  isDialFault)

variable {f next : Forwarder} {act : Act} {acts later : List Act} {events more : List Event}
variable {result : Forwarder × List Event} {i : Nat} {h k : Handler} {host : String}
variable {port : Option Int} {load : Trust.Outcome Trust.Context} {fault : Fault}
variable {url sourceId : String} {platform : Platform} {cache : Trust.Cache Trust.Context}

/-! ## The trust cache of a forwarder -/

/-- A handler that begins. -/
theorem begin_of_step (hstep : machine.step f (.begin i load) = some result) :
    ∃ h inbound, f.handlers[i]? = some h ∧ h.stage = .starting inbound ∧
      result = { f with cache := (h.start f.platform f.url f.cache load inbound).2 }.withHandler i h
        (h.start f.platform f.url f.cache load inbound).1 := by
  obtain ⟨h, hget, hbegin⟩ := Option.bind_eq_some_iff.mp hstep
  unfold begin at hbegin
  split at hbegin
  · rename_i inbound hstage
    exact ⟨h, inbound, hget, hstage, (Option.some.inj hbegin).symm⟩
  · cases hbegin

/-- **Only a handler that begins asks the trust cache.** -/
theorem cache_of_step (hstep : machine.step f act = some result)
    (hact : ∀ i load, act ≠ .begin i load) : result.1.cache = f.cache := by
  simp only [machine] at hstep
  cases act with
  | begin i load => exact absurd rfl (hact i load)
  | supplied supply receivers =>
    simp only [step] at hstep
    split at hstep
    · obtain rfl := Option.some.inj hstep
      cases supply with
      | exhausted | failed => rfl
      | connection conn leg =>
        simp only [Forwarder.supply, accept]
        split <;> rfl
    · cases hstep
  | handler i own =>
    simp only [step, handle] at hstep
    split at hstep
    · split at hstep
      · obtain ⟨h, -, hmap⟩ := Option.bind_eq_some_iff.mp hstep
        obtain ⟨_, -, rfl⟩ := Option.map_eq_some_iff.mp hmap
        rfl
      · cases hstep
    · obtain ⟨h, -, hmap⟩ := Option.bind_eq_some_iff.mp hstep
      obtain ⟨_, -, rfl⟩ := Option.map_eq_some_iff.mp hmap
      rfl
  | cancel =>
    obtain ⟨_, -, rfl⟩ := Option.map_eq_some_iff.mp hstep
    rfl
  | finish =>
    simp only [step, finish] at hstep
    split at hstep
    · obtain ⟨_, -, rfl⟩ := Option.map_eq_some_iff.mp hstep
      rfl
    · cases hstep

theorem begin_of_turn? (h : act.turn? i = some (.begin {} load)) : act = .begin i load := by
  cases act with
  | begin j own =>
    simp only [Act.turn?, Option.ite_none_right_eq_some, Option.some.injEq] at h
    obtain ⟨rfl, hload⟩ := h
    injection hload with _ hload
    rw [hload]
  | handler j own =>
    simp [Act.turn?] at h
  | supplied | cancel | finish => cases h

/-- **What the cache remembers it keeps**, through every action. -/
theorem cache_kept (htransport : transportOf f.platform f.url = .ok (.tls host port host))
    {outcome : Trust.Outcome Trust.Context} (hstep : machine.step f act = some result)
    (h : f.cache.outcome = some outcome) : result.1.cache.outcome = some outcome := by
  cases act with
  | begin i load =>
    obtain ⟨k, inbound, -, -, rfl⟩ := begin_of_step hstep
    rw [Handler.start_tls htransport]
    exact Trust.Cache.get_kept h load
  | supplied | handler | cancel | finish =>
    rw [cache_of_step hstep fun _ _ => nofun]
    exact h

/-! ## Guarded connections -/

/-- **Every handler of the forwarder is guarded.** -/
def Guards (host : String) (port : Option Int) (f : Forwarder) (events : List Event) : Prop :=
  ∀ (i : Nat) (h : Handler), f.handlers[i]? = some h →
    h.Guarded f.cache host port (eventsOf i events)

/-- An action that is nobody's turn. -/
theorem Guards.of_same (hg : Guards host port f events) (hhandlers : next.handlers = f.handlers)
    (hcache : next.cache = f.cache) (hevents : ∀ i, eventsOf i more = []) :
    Guards host port next (events ++ more) := by
  intro i h hget
  rw [hhandlers] at hget
  rw [hcache, eventsOf_append_of_nil events (hevents i)]
  exact hg i h hget

/-- A turn of a handler, by which the cache keeps a context that it has. -/
theorem Guards.of_turn {own : List Handler.Event} (hg : Guards host port f events)
    (hget : f.handlers[i]? = some h) (hhandlers : next.handlers = f.handlers.set i k)
    (hkept : ∀ context, f.cache.outcome = some (.ok context) →
      next.cache.outcome = some (.ok context))
    (hk : k.Guarded next.cache host port (eventsOf i events ++ own)) :
    Guards host port next (events ++ own.map (.handler i)) := by
  have hlt : i < f.handlers.length := (List.getElem?_eq_some_iff.mp hget).1
  intro j other hother
  rw [hhandlers] at hother
  rw [eventsOf_append, eventsOf_map]
  rcases eq_or_ne i j with rfl | hne
  · obtain rfl : k = other := by simpa [hlt] using hother
    rw [if_pos rfl]
    exact hk
  · rw [List.getElem?_set_ne hne] at hother
    rw [if_neg hne, List.append_nil]
    exact (hg j other hother).later hkept

theorem guards_step (htransport : transportOf f.platform f.url = .ok (.tls host port host))
    (hbeyond : ∀ i, f.handlers.length ≤ i → eventsOf i events = [])
    (hg : Guards host port f events) (hstep : machine.step f act = some result) :
    Guards host port result.1 (events ++ result.2) := by
  have hkept (context : Trust.Context) (hcontext : f.cache.outcome = some (.ok context)) :=
    cache_kept htransport hstep hcontext
  by_cases hact : ∃ i load, act = .begin i load
  · obtain ⟨i, load, rfl⟩ := hact
    obtain ⟨h, inbound, hget, hstage, rfl⟩ := begin_of_step hstep
    have hstart := Handler.guarded_start htransport (hg i h hget) hstage load
    exact hg.of_turn hget rfl hkept hstart
  · have hother : ∀ i load, act ≠ .begin i load := fun i load heq => hact ⟨i, load, heq⟩
    have hcache := cache_of_step hstep hother
    have hp := passage_of_step hstep
    cases hp with
    | @accept conn leg receivers =>
      intro i h hget
      rw [eventsOf_append_of_nil events rfl]
      -- a handler that was there, or the new one, of which nothing was heard yet
      rcases Nat.lt_or_ge i f.handlers.length with hlt | hge
      · rw [List.getElem?_append_left hlt] at hget
        exact hg i h hget
      · rw [hbeyond i hge]
        rw [List.getElem?_append_right hge, List.getElem?_singleton] at hget
        split at hget
        · obtain rfl := Option.some.inj hget
          exact Handler.guarded_accepted conn leg receivers
        · cases hget
    | exhausted | failed | cancel => exact hg.of_same rfl rfl fun _ => rfl
    | @turn act i h t cache next hget hturn _ hlife =>
      cases t with
      | begin found load => exact absurd (begin_of_turn? hturn) (hother i load)
      | act own =>
        have hown := Handler.guarded_act (hg i h hget) (Handler.passage_of_turn hlife)
        exact hg.of_turn hget rfl hkept (hcache ▸ hown)
    | finish _ hconclude => exact hg.of_same rfl rfl fun i => (eventsOf_conclude hconclude).1

theorem guards_run (htransport : transportOf platform url = .ok (.tls host port host))
    (h : machine.run (new url sourceId platform cache) acts = some (f, events)) :
    Guards host port f events := by
  refine Machine.run_induction (P := fun f _ events => Guards host port f events) ?_ ?_ h
  · intro i h hget
    simp [new] at hget
  · intro f next act acts events more hrun hg hstep
    obtain ⟨rfl, rfl, hlanes⟩ := lanes_of_run hrun
    exact guards_step htransport (fun i hi => (hlanes.beyond i hi).2) hg hstep

/-- What has been seen of a connection is shielded, and so it is if nothing has
been seen. -/
theorem shielded_of_run (htransport : transportOf platform url = .ok (.tls host port host))
    (h : machine.run (new url sourceId platform cache) acts = some (f, events)) (i : Nat) :
    Shielded f.cache host port (eventsOf i events) := by
  rcases Nat.lt_or_ge i f.handlers.length with hlt | hge
  · exact (guards_run htransport h i _ (List.getElem?_eq_getElem hlt)).shielded
  · obtain ⟨-, -, hlanes⟩ := lanes_of_run h
    rw [(hlanes.beyond i hge).2]
    exact Handler.shielded_nil

/-! ## Openings that are over -/

/-- **An opening that is over stays so**: nothing is sent, and no milestone is
made any more. -/
theorem over_run (hget : f.handlers[i]? = some h) (hover : h.isOver = true)
    (hrun : machine.run f later = some (next, more)) : Plain (eventsOf i more) := by
  suffices hall : (∃ k, next.handlers[i]? = some k ∧ k.isOver = true) ∧ Plain (eventsOf i more)
    from hall.2
  refine Machine.run_induction (P := fun u _ more =>
    (∃ k, u.handlers[i]? = some k ∧ k.isOver = true) ∧ Plain (eventsOf i more))
    ⟨⟨h, hget, hover⟩, Handler.plain_nil⟩ ?_ hrun
  rintro u v act later more own - ⟨⟨k, hk, hkover⟩, hplain⟩ hstep
  have hp := passage_of_step hstep
  cases hp with
  | accept =>
    rw [eventsOf_append_of_nil more rfl]
    have hlt := (List.getElem?_eq_some_iff.mp hk).1
    exact ⟨⟨k, (List.getElem?_append_left hlt).trans hk, hkover⟩, hplain⟩
  | exhausted | failed | cancel =>
    rw [eventsOf_append_of_nil more rfl]
    exact ⟨⟨k, hk, hkover⟩, hplain⟩
  | finish _ hconclude =>
    rw [eventsOf_append_of_nil more (eventsOf_conclude hconclude).1]
    exact ⟨⟨k, hk, hkover⟩, hplain⟩
  | @turn _ j other t _ last hother _ _ hlife =>
    rw [eventsOf_append, eventsOf_map]
    rcases eq_or_ne j i with rfl | hne
    · obtain rfl : k = other := Option.some.inj (hk.symm.trans hother)
      have hlt := (List.getElem?_eq_some_iff.mp hk).1
      obtain ⟨hlast, hown⟩ := Handler.over_step hkover (Handler.passage_of_turn hlife)
      rw [if_pos rfl]
      exact ⟨⟨last.1, by simp [hlt], hlast⟩, hplain.append hown⟩
    · rw [if_neg hne, List.append_nil]
      exact ⟨⟨k, (List.getElem?_set_ne hne).trans hk, hkover⟩, hplain⟩

/-! ## Faults of dialing -/

/-- No connection is told of two faults of dialing, and if it is told of one,
nothing has been written on its outbound leg. -/
theorem faults_of_run
    (h : machine.run (new url sourceId platform cache) acts = some (f, events)) (i : Nat) :
    (dialFaults (eventsOf i events)).length ≤ 1 ∧
      (dialFaults (eventsOf i events) ≠ [] → writtenOn .outbound (eventsOf i events) = []) := by
  rcases Nat.lt_or_ge i f.handlers.length with hlt | hge
  · obtain ⟨-, -, hlanes⟩ := lanes_of_run h
    obtain ⟨start, taken, hstart, -, hrun⟩ := hlanes.lane i _ (List.getElem?_eq_getElem hlt)
    obtain ⟨conn, leg, receivers, -, rfl⟩ := mem_arrivals (List.mem_of_getElem? hstart)
    have hledger := (Handler.balanced_run hrun).transparent
    refine ⟨hledger.once, fun hfault => ?_⟩
    cases hsucceeded : Handler.succeeded (eventsOf i events) with
    | true => exact absurd (hledger.relayed hsucceeded).1 hfault
    | false => exact (hledger.unrelayed hsucceeded).1
  · obtain ⟨-, -, hlanes⟩ := lanes_of_run h
    rw [(hlanes.beyond i hge).2]
    exact ⟨Nat.zero_le 1, fun hfault => absurd rfl hfault⟩

/-- **A connection asks the trust cache as it begins.** It dials the destination
if it is given a context. Otherwise it tells of the fault and dials nothing, and
its opening is over. -/
structure Begins (host : String) (port : Option Int) (f next : Forwarder) (i : Nat)
    (load : Trust.Outcome Trust.Context) (more : List Event) : Prop where
  asked : next.cache = (f.cache.get load).2
  trusted : ∀ context, (f.cache.get load).1 = .ok context →
    more = [.handler i (.dial (.tcp host port))]
  untrusted : ∀ fault, (f.cache.get load).1 = .error fault →
    (∀ target, .dial target ∉ eventsOf i more) ∧
      dialFaults (eventsOf i more) = [Opening.report fault] ∧
      ∃ k, next.handlers[i]? = some k ∧ k.isOver = true

theorem begins_of_step (htransport : transportOf f.platform f.url = .ok (.tls host port host))
    (hstep : machine.step f (.begin i load) = some (next, more)) :
    Begins host port f next i load more := by
  obtain ⟨h, inbound, hget, -, heq⟩ := begin_of_step hstep
  have hlt : i < f.handlers.length := (List.getElem?_eq_some_iff.mp hget).1
  rw [Handler.start_tls htransport, Prod.mk.injEq] at heq
  obtain ⟨rfl, rfl⟩ := heq
  refine ⟨rfl, fun context hcontext => ?_, fun fault hfault => ?_⟩
  · rw [hcontext]
    rfl
  · have hevents : eventsOf i ((h.dialFailed inbound none (Opening.report fault) []).2.map
        (.handler i)) = (h.dialFailed inbound none (Opening.report fault) []).2 := by
      rw [eventsOf_map, if_pos rfl]
    obtain ⟨hover, last, hlast, hfailed⟩ :=
      h.over_dialFailed inbound none (Opening.report fault) []
    have hquiet := h.dialFaults_dialFailed inbound none (Opening.report fault) []
    rw [hfault]
    refine ⟨fun target => ?_, (congrArg dialFaults hevents).trans hquiet, _,
      List.getElem?_set_self hlt, hover⟩
    refine Handler.not_mem_of_milestones ?_ rfl
    exact (congrArg milestones (hevents.trans hfailed)).trans hlast.milestones

/-! ## After the certificates could not be loaded -/

/-- The fault that everybody is told of who asks for certificates that could not
be loaded. -/
def untrustedFault (fault : Fault) : Fault :=
  .dialFailure ("failed to load native root certificates: " ++ fault.message) fault

/-- The url, the platform and what the cache remembers are the same after a
run. -/
theorem kept_run (htransport : transportOf f.platform f.url = .ok (.tls host port host))
    {outcome : Trust.Outcome Trust.Context} (h : f.cache.outcome = some outcome)
    (hrun : machine.run f later = some (next, more)) :
    next.url = f.url ∧ next.platform = f.platform ∧ next.cache.outcome = some outcome := by
  refine Machine.run_induction (P := fun u _ _ =>
    u.url = f.url ∧ u.platform = f.platform ∧ u.cache.outcome = some outcome) ⟨rfl, rfl, h⟩ ?_ hrun
  rintro u v act later more own - ⟨hurl, hplatform, houtcome⟩ hstep
  rw [← hurl, ← hplatform] at htransport
  have hkept := cache_kept htransport hstep houtcome
  have hsame : v.url = u.url ∧ v.platform = u.platform := by
    have hp := passage_of_step hstep
    cases hp <;> exact ⟨rfl, rfl⟩
  exact ⟨hsame.1.trans hurl, hsame.2.trans hplatform, hkept⟩

/-- **A connection that begins after the certificates could not be loaded is
told so**, and of nothing else. -/
theorem untrusted_of_broken (htransport : transportOf platform url = .ok (.tls host port host))
    (h : machine.run (new url sourceId platform cache) acts = some (f, events))
    (hbroken : f.cache.outcome = some (.error fault))
    (hrun : machine.run f later = some (next, more)) (hbegin : .begin i load ∈ later) :
    dialFaults (eventsOf i more) = [untrustedFault fault] := by
  obtain ⟨first, last, rfl⟩ := List.append_of_mem hbegin
  obtain ⟨u, before, rest, hfirst, hlater, rfl⟩ := Machine.run_append_iff.mp hrun
  obtain ⟨v, now, after, hstep, -, rfl⟩ := Machine.run_cons_iff.mp hlater
  obtain ⟨rfl, rfl, -⟩ := lanes_of_run h
  obtain ⟨hurl, hplatform, houtcome⟩ := kept_run htransport hbroken hfirst
  rw [← hurl, ← hplatform] at htransport
  have hget := Trust.Cache.get_of_some houtcome load
  obtain ⟨-, hnow, -⟩ := (begins_of_step htransport hstep).untrusted (untrustedFault fault)
    (by rw [hget]; rfl)
  -- no connection is told of two faults, so this is all that is told
  have hwhole : machine.run (new f.url sourceId f.platform cache)
      (acts ++ (first ++ .begin i load :: last)) =
        some (next, events ++ (before ++ (now ++ after))) :=
    Machine.run_append_iff.mpr ⟨f, _, _, h, hrun, rfl⟩
  have hcount := (faults_of_run hwhole i).1
  simp only [eventsOf_append, Handler.dialFaults_append, hnow, List.length_append,
    List.length_singleton] at hcount
  have hbefore : dialFaults (eventsOf i before) = [] := List.length_eq_zero_iff.mp (by omega)
  have hafter : dialFaults (eventsOf i after) = [] := List.length_eq_zero_iff.mp (by omega)
  rw [eventsOf_append, eventsOf_append, Handler.dialFaults_append, Handler.dialFaults_append,
    hbefore, hnow, hafter]
  rfl

/-! ## The delivery of a leg -/

/-- The turn of a handler that an action of it is. -/
theorem turn_of_handler {own : Handler.Act}
    (hstep : machine.step f (.handler i own) = some (next, more)) :
    ∃ h k events, f.handlers[i]? = some h ∧ next.handlers[i]? = some k ∧
      Handler.Passage h (.act own) (k, events) := by
  have hp : Passage f (.handler i own) (next, more) := passage_of_step hstep
  generalize hresult : (next, more) = result at hp
  cases hp with
  | @turn _ j h t _ last hget hturn _ hlife =>
    simp only [Act.turn?, Option.ite_none_right_eq_some, Option.some.injEq] at hturn
    obtain ⟨rfl, hown⟩ := hturn
    cases t with
    | begin => cases hown
    | act other =>
      obtain rfl : own = other := by simpa [Turn.bare] using hown
      obtain ⟨rfl, -⟩ := Prod.mk.inj hresult
      have hlt := (List.getElem?_eq_some_iff.mp hget).1
      exact ⟨h, last.1, last.2, hget, by simp [hlt], Handler.passage_of_turn hlife⟩

/-! ## Secrecy -/

/-- **What holds of a forwarder to a destination that needs TLS at the given
host and port**, at every moment of every run. -/
structure Secret (host : String) (port : Option Int) (f : Forwarder) (events : List Event) :
    Prop where
  /-- A connection that begins asks the trust cache first, and dials the
  destination only with the context that it is given. -/
  begins : ∀ (i : Nat) (load : Trust.Outcome Trust.Context) (u : Forwarder) (more : List Event),
    machine.step f (.begin i load) = some (u, more) → Begins host port f u i load more
  /-- TLS is put on the very leg that the dial delivers. -/
  covers : ∀ (i : Nat) (delivery : Delivery) (u : Forwarder) (more : List Event) (k : Handler),
    machine.step f (.handler i (.delivered (.ok delivery))) = some (u, more) →
    u.handlers[i]? = some k →
    k.isOver = true ∨ k.leg? .outbound = some { delivery.leg with cover := .tls }
  /-- The opening is over once the dial or the handshake fails or is cancelled. -/
  stops : ∀ (i : Nat) (own : Handler.Act) (u : Forwarder) (more : List Event) (h k : Handler),
    machine.step f (.handler i own) = some (u, more) → own.isFailure = true →
    f.handlers[i]? = some h → h.isOpening = true → u.handlers[i]? = some k → k.isOver = true
  /-- The milestones of each connection come in their order: the dial, the cover
  with the context of the cache and the name of the host, and the handshake. -/
  stages : ∀ i, milestones (eventsOf i events) = [] ∨ ∃ context,
    f.cache.outcome = some (.ok context) ∧
      milestones (eventsOf i events) <+: steps host port context
  /-- What is written on an outbound leg is written under TLS, after the
  handshake. -/
  veiled : ∀ (i : Nat) (before : List Handler.Event) (cover : Cover) (data : Bytes)
    (after : List Handler.Event),
    eventsOf i events = before ++ .leg .outbound cover (.wrote data) :: after →
    cover = .tls ∧ ∃ context, f.cache.outcome = some (.ok context) ∧
      milestones before = steps host port context
  /-- If a stage of the opening has failed, nothing is written on the outbound
  leg. -/
  failed : ∀ i, dialFaults (eventsOf i events) ≠ [] →
    writtenOn .outbound (eventsOf i events) = []
  /-- If the opening is over without a handshake, nothing will ever be written on
  the outbound leg. -/
  stopped : ∀ (i : Nat) (h : Handler), f.handlers[i]? = some h → h.isOver = true →
    .handshake ∉ eventsOf i events → ∀ later u more, machine.run f later = some (u, more) →
    writtenOn .outbound (eventsOf i (events ++ more)) = []
  /-- A fault of the system or of a value that keeps the certificates from being
  loaded is remembered. -/
  remembered : ∀ (i : Nat) (fault : Fault) (u : Forwarder) (more : List Event),
    f.cache.outcome = none → Trust.isKept fault = true →
    machine.step f (.begin i (.error fault)) = some (u, more) →
    u.cache.outcome = some (.error fault)
  /-- Once such a fault is remembered, nothing is dialed any more, and each
  connection that begins is told of it. -/
  broken : ∀ fault, f.cache.outcome = some (.error fault) → ∀ later u more,
    machine.run f later = some (u, more) → u.cache.outcome = some (.error fault) ∧
      (∀ i target, .dial target ∉ eventsOf i more) ∧
      ∀ i load, .begin i load ∈ later →
        dialFaults (eventsOf i more) = [untrustedFault fault]

/-- **Forwarding to an HTTPS destination keeps it secret**: whatever connections
arrive, whatever loading the certificates, the dials, the covers and the
handshakes give, and whatever is cancelled. -/
theorem https_forwarding_secret {destination : Destination}
    (hparse : Destination.parse platform url = .ok destination)
    (hkind : destination.kind = .https)
    (h : machine.run (new url sourceId platform cache) acts = some (f, events)) :
    ∃ host port, destination.host = some host ∧ destination.port = some port ∧
      Secret host (some port) f events := by
  obtain ⟨host, port, hhost, hport, htransport⟩ := Handler.transportOf_https hparse hkind
  obtain ⟨hurl, hplatform, -⟩ := lanes_of_run h
  have hhere : transportOf f.platform f.url = .ok (.tls host (some port) host) := by
    rw [hurl, hplatform]
    exact htransport
  have hshielded := shielded_of_run htransport h
  refine ⟨host, port, hhost, hport, ?_⟩
  constructor
  case begins => exact fun i load u more hstep => begins_of_step hhere hstep
  case covers =>
    intro i delivery u more k hstep hget
    obtain ⟨before, after, own, hbefore, hafter, hp⟩ := turn_of_handler hstep
    obtain rfl : k = after := Option.some.inj (hget.symm.trans hafter)
    exact Handler.covered_of_delivered (guards_run htransport h i before hbefore) hp
  case stops =>
    intro i own u more k k' hstep hfailure hget hopening hget'
    obtain ⟨before, after, events, hbefore, hafter, hp⟩ := turn_of_handler hstep
    obtain rfl : k = before := Option.some.inj (hget.symm.trans hbefore)
    obtain rfl : k' = after := Option.some.inj (hget'.symm.trans hafter)
    exact Handler.over_of_failure hopening hfailure hp
  case stages => exact fun i => (hshielded i).stages
  case veiled => exact fun i => (hshielded i).veiled
  case failed => exact fun i => (faults_of_run h i).2
  case stopped =>
    intro i k hget hover hunshaken later u more hrun
    have hplain := over_run hget hover hrun
    have hwhole := Machine.run_append_iff.mpr ⟨f, _, _, h, hrun, rfl⟩
    refine (shielded_of_run htransport hwhole i).writtenOn_eq_nil ?_
    rw [eventsOf_append, List.mem_append, not_or]
    exact ⟨hunshaken, Handler.not_mem_of_milestones hplain.milestones rfl⟩
  case remembered =>
    intro i fault u more hnone hfault hstep
    rw [(begins_of_step hhere hstep).asked]
    simp only [Trust.Cache.get, hnone, Trust.Cache.afterLoad, if_pos hfault]
  case broken =>
    intro fault hbroken later u more hrun
    obtain ⟨-, -, hkept⟩ := kept_run hhere hbroken hrun
    refine ⟨hkept, fun i target hmem => ?_, fun i load hbegin =>
      untrusted_of_broken htransport h hbroken hrun hbegin⟩
    -- where a fault is remembered there is no context, and so no milestone
    have hwhole := Machine.run_append_iff.mpr ⟨f, _, _, h, hrun, rfl⟩
    obtain hnone | ⟨context, hcontext, -⟩ := (shielded_of_run htransport hwhole i).stages
    · refine Handler.not_mem_of_milestones hnone rfl (e := .dial target) ?_
      rw [eventsOf_append]
      exact List.mem_append_right _ hmem
    · rw [hkept] at hcontext
      cases hcontext

/-- A client sends a byte to a server that makes its handshake. -/
def shaken : List Act :=
  [.supplied (.connection {} {}) {}, .begin 0 (.ok .client),
    .handler 0 (.peer .inbound (.deliver [7])), .handler 0 (.delivered (.ok { leg := {} })),
    .handler 0 (.handshaken none), .handler 0 (.advance .inbound),
    .handler 0 (.advance .inbound)]

theorem shaken_secret :
    ∃ destination f events, Destination.parse .posix "https://a" = .ok destination ∧
      destination.kind = .https ∧
      machine.run (new "https://a" "s" .posix {}) shaken = some (f, events) ∧
      (∃ host port, destination.host = some host ∧ destination.port = some port ∧
        Secret host (some port) f events) ∧
      writtenOn .outbound (eventsOf 0 events) = [7] := by
  have hparse : Destination.parse .posix "https://a" =
      .ok { kind := .https, url := "https://a", host := some "a", port := some 443 } := by
    decide +kernel
  obtain ⟨⟨f, events⟩, h⟩ := Option.isSome_iff_exists.mp
    (show (machine.run (new "https://a" "s" .posix {}) shaken).isSome = true by decide +kernel)
  have hseen : (machine.run (new "https://a" "s" .posix {}) shaken).all (fun r =>
      writtenOn .outbound (eventsOf 0 r.2) = [7]) = true := by
    decide +kernel
  rw [h, Option.all_some, decide_eq_true_eq] at hseen
  exact ⟨_, f, events, hparse, rfl, h, https_forwarding_secret hparse rfl h, hseen⟩

end Forwarder

end TunnelRelay
