import TunnelRelay.Forwarder.Loop
import TunnelRelay.Proofs.Passages
/-!
# The lanes of a forwarder

A run of a forwarder is the loop and its handlers, interleaved. This file takes
it apart: the connections that arrive (`arrivals`), and for each number the
turns and the events of the handler with this number (`turns`, `eventsOf`).
Each handler of a run lives a life of its own: it is what its turns make of it
from its acceptance on, and its events are those of its turns
(`lanes_of_run`). What it has not to itself is the trust cache, as it is at its
start.
-/

namespace TunnelRelay

namespace Handler

/-- A turn without the trust cache that it finds. -/
def Turn.bare : Turn → Turn
  | .begin _ load => .begin {} load
  | .act own => .act own

end Handler

namespace Forwarder

open Handler (Turn life)

/-! ## Lanes -/

/-- The handler of the connection that an action brings. -/
def Act.arrival? : Act → Option Handler
  | .supplied (.connection conn leg) receivers => some (.accepted conn leg receivers)
  | _ => none

/-- The handlers of all connections that have arrived, as they were accepted. -/
def arrivals (acts : List Act) : List Handler := acts.filterMap Act.arrival?

/-- What an action is to the handler with a number. -/
def Act.turn? (i : Nat) : Act → Option Turn
  | .begin j load => if j = i then some (.begin {} load) else none
  | .handler j act => if j = i then some (.act act) else none
  | .supplied _ _ | .cancel | .finish => none

/-- The turns of the handler with a number. -/
def turns (i : Nat) (acts : List Act) : List Turn := acts.filterMap (Act.turn? i)

/-- What an event is of the handler with a number. -/
def Event.of? (i : Nat) : Event → Option Handler.Event
  | .handler j event => if j = i then some event else none
  | .log _ | .accepted _ => none

/-- The events of the handler with a number. -/
def eventsOf (i : Nat) (events : List Event) : List Handler.Event :=
  events.filterMap (Event.of? i)

theorem mem_eventsOf {i : Nat} {event : Handler.Event} {events : List Event} :
    event ∈ eventsOf i events ↔ .handler i event ∈ events := by
  rw [eventsOf, List.mem_filterMap]
  constructor
  · rintro ⟨own, hown, hof⟩
    cases own with
    | handler j other =>
      simp only [Event.of?] at hof
      split at hof
      · obtain rfl := Option.some.inj hof
        exact ‹_ = i› ▸ hown
      · cases hof
    | log | accepted => cases hof
  · exact fun h => ⟨_, h, if_pos rfl⟩

/-- The connection of which an event tells that it was accepted. -/
def Event.announced? : Event → Option Inbound
  | .accepted conn => some conn
  | .log _ | .handler _ _ => none

/-- The connections of which was told that they were accepted, in order. -/
def announced (events : List Event) : List Inbound := events.filterMap Event.announced?

/-- What an event has of the loop to say. -/
def Event.said? : Event → Option Log.Record
  | .log record => some record
  | .accepted _ | .handler _ _ => none

/-- What the loop has said, in order. -/
def said (events : List Event) : List Log.Record := events.filterMap Event.said?

variable {f : Forwarder} {act : Act} {acts : List Act} {events : List Event}
variable {result : Forwarder × List Event} {i j : Nat} {t : Turn}

@[simp] theorem arrivals_append (acts later : List Act) :
    arrivals (acts ++ later) = arrivals acts ++ arrivals later :=
  List.filterMap_append

@[simp] theorem turns_append (i : Nat) (acts later : List Act) :
    turns i (acts ++ later) = turns i acts ++ turns i later :=
  List.filterMap_append

@[simp] theorem eventsOf_append (i : Nat) (events later : List Event) :
    eventsOf i (events ++ later) = eventsOf i events ++ eventsOf i later :=
  List.filterMap_append

@[simp] theorem announced_append (events later : List Event) :
    announced (events ++ later) = announced events ++ announced later :=
  List.filterMap_append

@[simp] theorem said_append (events later : List Event) :
    said (events ++ later) = said events ++ said later :=
  List.filterMap_append

theorem arrivals_singleton (act : Act) : arrivals [act] = act.arrival?.toList := by
  unfold arrivals
  cases h : act.arrival? <;> simp [h]

theorem turns_singleton (i : Nat) (act : Act) : turns i [act] = (act.turn? i).toList := by
  unfold turns
  cases h : act.turn? i <;> simp [h]

/-- An action that brings no connection. -/
theorem arrivals_concat_of_none (acts : List Act) (h : act.arrival? = none) :
    arrivals (acts ++ [act]) = arrivals acts := by
  rw [arrivals_append, arrivals_singleton, h, Option.toList_none, List.append_nil]

/-- An action that is no turn of the handler. -/
theorem turns_concat_of_none (acts : List Act) (h : act.turn? i = none) :
    turns i (acts ++ [act]) = turns i acts := by
  rw [turns_append, turns_singleton, h, Option.toList_none, List.append_nil]

/-- Events that are not the handler's. -/
theorem eventsOf_append_of_nil (events : List Event) {more : List Event}
    (h : eventsOf i more = []) :
    eventsOf i (events ++ more) = eventsOf i events := by
  rw [eventsOf_append, h, List.append_nil]

/-- The events of a handler are all in its lane. -/
theorem eventsOf_map (i j : Nat) (own : List Handler.Event) :
    eventsOf j (own.map (.handler i)) = if i = j then own else [] := by
  rw [eventsOf, List.filterMap_map]
  split
  · rename_i h
    subst h
    simp [Function.comp_def, Event.of?]
  · rename_i h
    simp [Function.comp_def, Event.of?, h]

@[simp] theorem announced_map (i : Nat) (own : List Handler.Event) :
    announced (own.map (.handler i)) = [] := by
  simp [announced, List.filterMap_map, Function.comp_def, Event.announced?]

@[simp] theorem said_map (i : Nat) (own : List Handler.Event) :
    said (own.map (.handler i)) = [] := by
  simp [said, List.filterMap_map, Function.comp_def, Event.said?]

theorem mem_arrivals {start : Handler} (h : start ∈ arrivals acts) :
    ∃ conn leg receivers, .supplied (.connection conn leg) receivers ∈ acts ∧
      start = .accepted conn leg receivers := by
  obtain ⟨act, hmem, harrival⟩ := List.mem_filterMap.mp h
  cases act with
  | supplied supply receivers =>
    cases supply with
    | connection conn leg => exact ⟨conn, leg, receivers, hmem, (Option.some.inj harrival).symm⟩
    | exhausted | failed => cases harrival
  | begin | handler | cancel | finish => cases harrival

/-- An action is a turn of one handler at most, and then it brings no
connection. -/
theorem Act.alone_of_turn? (h : act.turn? i = some t) :
    act.arrival? = none ∧ ∀ j, j ≠ i → act.turn? j = none := by
  cases act with
  | begin k load | handler k own =>
    obtain ⟨rfl, -⟩ : k = i ∧ _ := by simpa [Act.turn?] using h
    exact ⟨rfl, fun j hj => if_neg (Ne.symm hj)⟩
  | supplied | cancel | finish => cases h

/-! ## Steps -/

/-- **What an action of a forwarder can do.** -/
inductive Passage (f : Forwarder) : Act → Forwarder × List Event → Prop
  /-- A connection is accepted. -/
  | accept {conn : Inbound} {leg : Leg} {receivers : Receivers} : f.loop = .accepting →
      Passage f (.supplied (.connection conn leg) receivers)
        ({ f with
            handlers := f.handlers ++ [.accepted conn leg receivers]
            loop := receivers.accepted.elim .accepting fun fault =>
              .breaking { faults := [fault] } },
          [.log (acceptRecord conn), .accepted conn])
  /-- The source is exhausted. -/
  | exhausted {receivers : Receivers} : f.loop = .accepting →
      Passage f (.supplied .exhausted receivers) ({ f with loop := .draining }, [])
  /-- The source fails. -/
  | failed {fault : Fault} {receivers : Receivers} : f.loop = .accepting →
      Passage f (.supplied (.failed fault) receivers) ({ f with loop := .failing fault }, [])
  /-- A handler takes a turn. -/
  | turn {act : Act} {i : Nat} {h : Handler} {t : Turn} {cache : Trust.Cache Trust.Context}
      {next : Handler × List Handler.Event} : f.handlers[i]? = some h →
      act.turn? i = some t.bare → (t = .act .cancel → f.loop.isCancelling) →
      (life f.platform f.url).step h t = some next →
      Passage f act
        ({ f with cache, handlers := f.handlers.set i next.1, loop := f.loopAfter h next.1 },
          next.2.map (.handler i))
  /-- The forwarder is cancelled. -/
  | cancel {loop : Loop} : f.loop.cancel? = some loop → Passage f .cancel ({ f with loop }, [])
  /-- The forwarder ends. -/
  | finish {ending : Ending Unit} {events : List Event} : f.handlers.all (·.isEnded) →
      f.conclude = some (ending, events) →
      Passage f .finish ({ f with loop := .ended ending }, events)

theorem loop_eq_accepting (h : f.loop.isAccepting = true) : f.loop = .accepting := by
  cases hloop : f.loop with
  | accepting => rfl
  | draining | failing | breaking | cancelled | ended =>
    rw [hloop] at h
    cases h

/-- A loop that is cancelled ends so, unless faults break it: then its ending is that
of the faults, as one beside which something was cancelled. -/
theorem Loop.cancel?_cases {loop next : Loop} (h : loop.cancel? = some next) :
    next = .cancelled ∧ (loop = .accepting ∨ loop = .draining ∨ ∃ fault, loop = .failing fault) ∨
      ∃ faults, loop = .breaking { faults } ∧ next = .breaking { faults, cancelled := true } := by
  unfold cancel? at h
  split at h
  · exact Or.inl ⟨(Option.some.inj h).symm, Or.inl rfl⟩
  · exact Or.inl ⟨(Option.some.inj h).symm, Or.inr (Or.inl rfl)⟩
  · exact Or.inl ⟨(Option.some.inj h).symm, Or.inr (Or.inr ⟨_, rfl⟩)⟩
  · exact Or.inr ⟨_, rfl, (Option.some.inj h).symm⟩
  all_goals cases h

/-- A loop that is cancelled cancels its handlers. -/
theorem Loop.isCancelling_cancel? {loop next : Loop} (h : loop.cancel? = some next) :
    next.isCancelling = true := by
  rcases cancel?_cases h with ⟨rfl, -⟩ | ⟨faults, -, rfl⟩ <;> rfl

theorem passage_of_supply {supply : Supply} {receivers : Receivers} (hloop : f.loop = .accepting) :
    Passage f (.supplied supply receivers) (f.supply receivers supply) := by
  cases supply with
  | exhausted => exact .exhausted hloop
  | failed fault => exact .failed hloop
  | connection conn leg =>
    have hp := @Passage.accept f conn leg receivers hloop
    simp only [supply, accept]
    split
    · rename_i haccepted
      simpa [Handler.accepted, haccepted, hloop] using hp
    · rename_i fault haccepted
      simpa [Handler.accepted, haccepted, hloop, Loop.brokenBy] using hp

/-- **Every action of a forwarder is one of its passages.** -/
theorem passage_of_step (hstep : f.step act = some result) : Passage f act result := by
  cases act with
  | supplied supply receivers =>
    simp only [step] at hstep
    split at hstep
    · rename_i hloop
      obtain rfl := Option.some.inj hstep
      exact passage_of_supply (loop_eq_accepting hloop)
    · cases hstep
  | begin i load =>
    obtain ⟨h, hget, hbegin⟩ := Option.bind_eq_some_iff.mp hstep
    unfold begin at hbegin
    split at hbegin
    · rename_i inbound hstage
      cases hstart : h.start f.platform f.url f.cache load inbound with
      | mk next cache =>
        rw [hstart] at hbegin
        obtain rfl := Option.some.inj hbegin
        refine .turn (t := .begin f.cache load) hget (if_pos rfl) nofun ?_
        simp [life, Handler.turn, hstage, hstart]
    · cases hbegin
  | handler i own =>
    -- its cancellation is for the loop to allow, all else for the handler
    have hown : ∃ h, f.handlers[i]? = some h ∧
        (own = .cancel → f.loop.isCancelling) ∧
        (h.step own).map (f.withHandler i h) = some result := by
      simp only [step, handle] at hstep
      split at hstep
      · split at hstep
        · rename_i hcancelling
          obtain ⟨h, hget, hmap⟩ := Option.bind_eq_some_iff.mp hstep
          exact ⟨h, hget, fun _ => hcancelling, hmap⟩
        · cases hstep
      · rename_i hother
        obtain ⟨h, hget, hmap⟩ := Option.bind_eq_some_iff.mp hstep
        exact ⟨h, hget, fun heq => absurd heq hother, hmap⟩
    obtain ⟨h, hget, hcancelling, hmap⟩ := hown
    obtain ⟨next, hnext, rfl⟩ := Option.map_eq_some_iff.mp hmap
    have hcancel (heq : Turn.act own = .act .cancel) : f.loop.isCancelling :=
      hcancelling (by simpa using heq)
    exact .turn (t := .act own) hget (if_pos rfl) hcancel hnext
  | cancel =>
    obtain ⟨loop, hloop, rfl⟩ := Option.map_eq_some_iff.mp hstep
    exact .cancel hloop
  | finish =>
    simp only [step, finish] at hstep
    split at hstep
    · rename_i hall
      obtain ⟨⟨ending, events⟩, hconclude, rfl⟩ := Option.map_eq_some_iff.mp hstep
      exact .finish hall hconclude
    · cases hstep

/-! ## Runs -/

/-- **The lanes of a forwarder**: there is a handler for each connection that
has arrived, and it has come as far as its own turns have brought it. -/
structure Lanes (f : Forwarder) (acts : List Act) (events : List Event) : Prop where
  count : f.handlers.length = (arrivals acts).length
  lane : ∀ i h, f.handlers[i]? = some h → ∃ start taken, (arrivals acts)[i]? = some start ∧
    taken.map Turn.bare = turns i acts ∧
    (life f.platform f.url).run start taken = some (h, eventsOf i events)
  beyond : ∀ i, f.handlers.length ≤ i → turns i acts = [] ∧ eventsOf i events = []

namespace Lanes

/-- An action that is nobody's turn leaves the lanes as they are. -/
theorem of_same {next : Forwarder} {more : List Event} (h : Lanes f acts events)
    (hhandlers : next.handlers = f.handlers) (hurl : next.url = f.url)
    (hplatform : next.platform = f.platform) (harrival : act.arrival? = none)
    (hturn : ∀ i, act.turn? i = none) (hevents : ∀ i, eventsOf i more = []) :
    Lanes next (acts ++ [act]) (events ++ more) := by
  have harrivals := arrivals_concat_of_none acts harrival
  have hturns (i : Nat) := turns_concat_of_none acts (hturn i)
  have hall (i : Nat) := eventsOf_append_of_nil events (hevents i)
  refine ⟨?_, fun i h' hget => ?_, fun i hi => ?_⟩
  · rw [hhandlers, harrivals]
    exact h.count
  · rw [hhandlers] at hget
    rw [harrivals, hturns, hall, hurl, hplatform]
    exact h.lane i h' hget
  · rw [hhandlers] at hi
    rw [hturns, hall]
    exact h.beyond i hi

/-- A connection that arrives gets a lane of its own, on which nothing has
happened. -/
theorem of_arrival {next : Forwarder} {more : List Event} {start : Handler}
    (h : Lanes f acts events) (hhandlers : next.handlers = f.handlers ++ [start])
    (hurl : next.url = f.url) (hplatform : next.platform = f.platform)
    (harrival : act.arrival? = some start)
    (hturn : ∀ i, act.turn? i = none) (hevents : ∀ i, eventsOf i more = []) :
    Lanes next (acts ++ [act]) (events ++ more) := by
  have harrivals : arrivals (acts ++ [act]) = arrivals acts ++ [start] := by
    rw [arrivals_append, arrivals_singleton, harrival, Option.toList_some]
  have hturns (i : Nat) := turns_concat_of_none acts (hturn i)
  have hall (i : Nat) := eventsOf_append_of_nil events (hevents i)
  refine ⟨?_, fun i h' hget => ?_, fun i hi => ?_⟩
  · rw [hhandlers, harrivals, List.length_append, List.length_append, h.count]
  · rw [hhandlers] at hget
    rw [harrivals, hturns, hall, hurl, hplatform]
    -- a lane that was there, or the new one, with the number that comes next
    rcases Nat.lt_or_ge i f.handlers.length with hlt | hge
    · rw [List.getElem?_append_left hlt] at hget
      rw [List.getElem?_append_left (h.count ▸ hlt)]
      exact h.lane i h' hget
    · obtain ⟨hnone, hquiet⟩ := h.beyond i hge
      rw [List.getElem?_append_right hge] at hget
      rw [List.getElem?_append_right (h.count ▸ hge), ← h.count, hnone, hquiet]
      obtain ⟨hi, rfl⟩ : i - f.handlers.length = 0 ∧ start = h' := by
        cases hk : i - f.handlers.length with
        | zero => simpa [hk] using hget
        | succ k => simp [hk] at hget
      exact ⟨start, [], by rw [hi]; rfl, rfl, rfl⟩
  · rw [hhandlers, List.length_append] at hi
    rw [hturns, hall]
    exact h.beyond i (Nat.le_of_succ_le hi)

/-- A turn of a handler moves its lane and no other. -/
theorem of_turn {next : Forwarder} {h h' : Handler} {own : List Handler.Event}
    (hl : Lanes f acts events) (hget : f.handlers[i]? = some h)
    (hturn : act.turn? i = some t.bare)
    (hstep : (life f.platform f.url).step h t = some (h', own))
    (hhandlers : next.handlers = f.handlers.set i h') (hurl : next.url = f.url)
    (hplatform : next.platform = f.platform) :
    Lanes next (acts ++ [act]) (events ++ own.map (.handler i)) := by
  obtain ⟨harrival, hothers⟩ := Act.alone_of_turn? hturn
  have hlt : i < f.handlers.length := (List.getElem?_eq_some_iff.mp hget).1
  have harrivals := arrivals_concat_of_none acts harrival
  have hsame (j : Nat) (hj : j ≠ i) : turns j (acts ++ [act]) = turns j acts ∧
      eventsOf j (events ++ own.map (.handler i)) = eventsOf j events := by
    have hquiet : eventsOf j (own.map (.handler i)) = [] := by
      rw [eventsOf_map, if_neg (Ne.symm hj)]
    exact ⟨turns_concat_of_none acts (hothers j hj), eventsOf_append_of_nil events hquiet⟩
  refine ⟨?_, fun j k hk => ?_, fun j hj => ?_⟩
  · rw [hhandlers, List.length_set, harrivals]
    exact hl.count
  · rw [hhandlers] at hk
    rw [harrivals, hurl, hplatform]
    rcases eq_or_ne j i with rfl | hne
    · -- its own lane gets the turn as its last
      obtain rfl : h' = k := by simpa [hlt] using hk
      obtain ⟨start, taken, hstart, htaken, hrun⟩ := hl.lane j h hget
      refine ⟨start, taken ++ [t], hstart, ?_, ?_⟩
      · rw [List.map_append, htaken, turns_append, turns_singleton, hturn]
        rfl
      · rw [eventsOf_append, eventsOf_map, if_pos rfl]
        exact Machine.run_concat_iff.mpr ⟨h, _, own, hrun, hstep, rfl⟩
    · rw [List.getElem?_set_ne (Ne.symm hne)] at hk
      rw [(hsame j hne).1, (hsame j hne).2]
      exact hl.lane j k hk
  · rw [hhandlers, List.length_set] at hj
    have hne : j ≠ i := by omega
    rw [(hsame j hne).1, (hsame j hne).2]
    exact hl.beyond j hj

end Lanes

/-- What a forwarder says at its end is in nobody's lane. -/
theorem eventsOf_conclude {ending : Ending Unit} (h : f.conclude = some (ending, events)) :
    eventsOf i events = [] ∧ announced events = [] := by
  unfold conclude at h
  split at h
  · cases h
  · cases h
  all_goals
    cases h
    exact ⟨rfl, rfl⟩

theorem lanes_step (h : Lanes f acts events) (hp : Passage f act result) :
    result.1.url = f.url ∧ result.1.platform = f.platform ∧
      Lanes result.1 (acts ++ [act]) (events ++ result.2) := by
  cases hp with
  | accept hloop =>
    exact ⟨rfl, rfl, h.of_arrival rfl rfl rfl rfl (fun _ => rfl) fun _ => rfl⟩
  | exhausted | failed | cancel =>
    exact ⟨rfl, rfl, h.of_same rfl rfl rfl rfl (fun _ => rfl) fun _ => rfl⟩
  | turn hget hturn _ hstep => exact ⟨rfl, rfl, h.of_turn hget hturn hstep rfl rfl rfl⟩
  | finish hall hconclude =>
    exact ⟨rfl, rfl, h.of_same rfl rfl rfl rfl (fun _ => rfl) fun i =>
      (eventsOf_conclude hconclude).1⟩

/-- **Each handler of a run lives a life of its own**: what has become of it,
and its events, are what its own turns make of it from its acceptance on. -/
theorem lanes_of_run {url sourceId : String} {platform : Platform}
    {cache : Trust.Cache Trust.Context}
    (h : machine.run (new url sourceId platform cache) acts = some (f, events)) :
    f.url = url ∧ f.platform = platform ∧ Lanes f acts events := by
  refine Machine.run_induction
    (P := fun f acts events => f.url = url ∧ f.platform = platform ∧ Lanes f acts events) ?_ ?_ h
  · refine ⟨rfl, rfl, rfl, fun i h hget => ?_, fun _ _ => ⟨rfl, rfl⟩⟩
    simp [new] at hget
  · rintro f next act acts events more _ ⟨rfl, rfl, hlanes⟩ hstep
    exact lanes_step hlanes (passage_of_step hstep)

/-- So has the handler of each connection that has arrived. -/
theorem lane_of_run {url sourceId : String} {platform : Platform}
    {cache : Trust.Cache Trust.Context} {start : Handler}
    (h : machine.run (new url sourceId platform cache) acts = some (f, events))
    (hstart : (arrivals acts)[i]? = some start) :
    ∃ k taken, f.handlers[i]? = some k ∧ taken.map Turn.bare = turns i acts ∧
      (life platform url).run start taken = some (k, eventsOf i events) := by
  obtain ⟨rfl, rfl, hlanes⟩ := lanes_of_run h
  have hi : i < f.handlers.length := by
    rw [hlanes.count]
    exact (List.getElem?_eq_some_iff.mp hstart).1
  have hget : f.handlers[i]? = some f.handlers[i] := List.getElem?_eq_getElem hi
  obtain ⟨first, taken, hfirst, htaken, hrun⟩ := hlanes.lane i _ hget
  obtain rfl : start = first := Option.some.inj (hstart.symm.trans hfirst)
  exact ⟨_, taken, hget, htaken, hrun⟩

/-- What the loop tells of the connections that have arrived: each is told of
as it arrives, and before the loop says anything else. -/
structure Told (f : Forwarder) (acts : List Act) (events : List Event) : Prop where
  announced : announced events = (arrivals acts).map (·.conn)
  said : ∃ last, said events = (arrivals acts).map (acceptRecord ·.conn) ++ last ∧
    (f.loop = .accepting → last = [])

/-- An action that brings no connection tells of none. -/
theorem Told.of_same {next : Forwarder} {more : List Event} (h : Told f acts events)
    (harrival : act.arrival? = none) (hquiet : Forwarder.announced more = [])
    (hloop : next.loop = .accepting → f.loop = .accepting ∧ Forwarder.said more = []) :
    Told next (acts ++ [act]) (events ++ more) := by
  obtain ⟨hannounced, last, hsaid, hlast⟩ := h
  have harrivals := arrivals_concat_of_none acts harrival
  refine ⟨?_, last ++ Forwarder.said more, ?_, fun hnext => ?_⟩
  · rw [announced_append, hquiet, List.append_nil, hannounced, harrivals]
  · rw [said_append, hsaid, List.append_assoc, harrivals]
  · obtain ⟨hbefore, hmore⟩ := hloop hnext
    rw [hlast hbefore, hmore]
    rfl

/-- What was told of a connection that has arrived. -/
theorem Told.at (h : Told f acts events) {start : Handler}
    (hstart : (arrivals acts)[i]? = some start) :
    (Forwarder.announced events)[i]? = some start.conn ∧
      (Forwarder.said events)[i]? = some (acceptRecord start.conn) := by
  obtain ⟨hannounced, last, hsaid, -⟩ := h
  have hi : i < ((arrivals acts).map (acceptRecord ·.conn)).length := by
    rw [List.length_map]
    exact (List.getElem?_eq_some_iff.mp hstart).1
  rw [hannounced, hsaid, List.getElem?_append_left hi, List.getElem?_map, List.getElem?_map, hstart]
  exact ⟨rfl, rfl⟩

/-- A handler that takes a turn leaves an accepting loop only by breaking it. -/
theorem loopAfter_eq_accepting {old new : Handler} (h : f.loopAfter old new = .accepting) :
    f.loop = .accepting := by
  unfold loopAfter at h
  split at h
  · exact h
  · cases hescaped : new.escaped? with
    | none => simpa [hescaped] using h
    | some fault =>
      rw [hescaped] at h
      cases hloop : f.loop <;> simp [hloop, Loop.brokenBy] at h

theorem told_step (h : Told f acts events) (hp : Passage f act result) :
    Told result.1 (acts ++ [act]) (events ++ result.2) := by
  cases hp with
  | accept hloop =>
    obtain ⟨hannounced, last, hsaid, hlast⟩ := h
    refine ⟨?_, [], ?_, fun _ => rfl⟩
    · rw [announced_append, arrivals_append, List.map_append, hannounced]
      rfl
    · rw [said_append, arrivals_append, List.map_append, hsaid, hlast hloop, List.append_nil,
        List.append_nil]
      rfl
  | exhausted | failed => exact h.of_same rfl rfl nofun
  | @cancel loop hloop =>
    refine h.of_same rfl rfl fun hnext => ?_
    obtain rfl : loop = .accepting := hnext
    cases Loop.isCancelling_cancel? hloop
  | turn _ hturn =>
    exact h.of_same (Act.alone_of_turn? hturn).1 (announced_map _ _)
      fun hnext => ⟨loopAfter_eq_accepting hnext, said_map _ _⟩
  | finish _ hconclude => exact h.of_same rfl (eventsOf_conclude (i := 0) hconclude).2 nofun

/-- **Each connection is told of as it arrives.** -/
theorem told_of_run {url sourceId : String} {platform : Platform}
    {cache : Trust.Cache Trust.Context}
    (h : machine.run (new url sourceId platform cache) acts = some (f, events)) :
    Told f acts events := by
  refine Machine.run_induction (P := Told) ?_ ?_ h
  · exact ⟨rfl, [], rfl, fun _ => rfl⟩
  · intro f next act acts events more _ htold hstep
    exact told_step htold (passage_of_step hstep)

end Forwarder

end TunnelRelay
