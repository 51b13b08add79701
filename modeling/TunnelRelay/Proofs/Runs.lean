import Mathlib.Data.List.Induction
import Mathlib.Data.List.Perm.Basic
import TunnelRelay.Machine
/-!
# Runs

A run is taken from its first action on, but what it has come to is told from
its last: an invariant of all runs relates the state to everything that has
happened so far, and one more action at the end has to keep it. This file
turns the one reading into the other (`run_concat_iff`) and packages the
induction once (`run_induction`), also for runs of which every action keeps a
promise (`run_induction_of`), which may depend on the state in which the action
is taken (`run_induction_along`). What an observer gathers on the way, who looks at
each action and at the state in which it is taken, is a history too
(`Machine.gather`).

A state may consist of many like parts, of which an action replaces one: what is picked
of the others is the same before and after (`perm_set`).
-/

namespace TunnelRelay

/-- **Another part takes the place of one.** -/
theorem perm_set {α β : Type} {parts : List α} {i : Nat} {old : α} (hget : parts[i]? = some old)
    (new : α) (pick : α → Option β) :
    ∃ others, (parts.filterMap pick).Perm ((pick old).toList ++ others) ∧
      ((parts.set i new).filterMap pick).Perm ((pick new).toList ++ others) := by
  obtain ⟨hi, rfl⟩ := List.getElem?_eq_some_iff.mp hget
  have hcons (part : α) (rest : List α) :
      (part :: rest).filterMap pick = (pick part).toList ++ rest.filterMap pick := by
    rw [List.filterMap_cons]
    cases pick part <;> rfl
  refine ⟨(parts.eraseIdx i).filterMap pick, ?_, ?_⟩
  · rw [← hcons]
    exact (List.getElem_cons_eraseIdx_perm hi).symm.filterMap pick
  · rw [← hcons]
    exact (List.set_perm_cons_eraseIdx hi new).filterMap pick

namespace Machine

variable {σ α ε : Type} {m : Machine σ α ε}
variable {s t : σ} {a : α} {acts later : List α} {events : List ε}

@[simp] theorem run_nil : m.run s [] = some (s, []) := rfl

/-- A run from its first action on. -/
theorem run_cons_iff :
    m.run s (a :: acts) = some (t, events) ↔
      ∃ u first rest, m.step s a = some (u, first) ∧ m.run u acts = some (t, rest) ∧
        events = first ++ rest := by
  simp only [run, Option.bind_eq_some_iff, Option.map_eq_some_iff, Prod.exists, Prod.mk.injEq]
  constructor
  · rintro ⟨u, first, hstep, v, rest, hrun, rfl, rfl⟩
    exact ⟨u, first, rest, hstep, hrun, rfl⟩
  · rintro ⟨u, first, rest, hstep, hrun, rfl⟩
    exact ⟨u, first, hstep, t, rest, hrun, rfl, rfl⟩

/-- **Runs compose.** A run of two lists of actions is a run of the first
followed by one of the second. -/
theorem run_append_iff :
    m.run s (acts ++ later) = some (t, events) ↔
      ∃ u first rest, m.run s acts = some (u, first) ∧ m.run u later = some (t, rest) ∧
        events = first ++ rest := by
  -- on the first list, from the front, as `run` takes it
  induction acts generalizing s events with
  | nil =>
    rw [List.nil_append]
    constructor
    · intro h
      exact ⟨s, [], events, rfl, h, rfl⟩
    · rintro ⟨u, first, rest, h, hrest, rfl⟩
      obtain ⟨rfl, rfl⟩ : s = u ∧ [] = first := by simpa using h
      exact hrest
  | cons a acts ih =>
    rw [List.cons_append, run_cons_iff]
    constructor
    · rintro ⟨u, first, more, hstep, hrun, rfl⟩
      obtain ⟨v, second, rest, hacts, hlater, rfl⟩ := ih.mp hrun
      exact ⟨v, first ++ second, rest, run_cons_iff.mpr ⟨u, first, second, hstep, hacts, rfl⟩,
        hlater, (List.append_assoc first second rest).symm⟩
    · rintro ⟨v, both, rest, hacts, hlater, rfl⟩
      obtain ⟨u, first, second, hstep, hrun, rfl⟩ := run_cons_iff.mp hacts
      exact ⟨u, first, second ++ rest, hstep, ih.mpr ⟨v, second, rest, hrun, hlater, rfl⟩,
        List.append_assoc first second rest⟩

theorem run_singleton_iff :
    m.run s [a] = some (t, events) ↔ m.step s a = some (t, events) := by
  rw [run_cons_iff]
  constructor
  · rintro ⟨u, first, rest, hstep, hrun, rfl⟩
    obtain ⟨rfl, rfl⟩ : u = t ∧ [] = rest := by simpa using hrun
    rw [hstep, List.append_nil]
  · intro h
    exact ⟨t, events, [], h, rfl, (List.append_nil events).symm⟩

/-- A run up to its last action. -/
theorem run_concat_iff :
    m.run s (acts ++ [a]) = some (t, events) ↔
      ∃ u first last, m.run s acts = some (u, first) ∧ m.step u a = some (t, last) ∧
        events = first ++ last := by
  rw [run_append_iff]
  simp only [run_singleton_iff]

/-- **The induction on runs.** What holds before anything has happened, and is
kept by one more action at the end of every run, holds after every run. -/
theorem run_induction {P : σ → List α → List ε → Prop} (nil : P s [] [])
    (concat : ∀ {u t a acts events more}, m.run s acts = some (u, events) → P u acts events →
      m.step u a = some (t, more) → P t (acts ++ [a]) (events ++ more))
    (h : m.run s acts = some (t, events)) : P t acts events := by
  induction acts using List.reverseRecOn generalizing t events with
  | nil =>
    obtain ⟨rfl, rfl⟩ : s = t ∧ [] = events := by simpa using h
    exact nil
  | append_singleton acts a ih =>
    obtain ⟨u, first, last, hrun, hstep, rfl⟩ := run_concat_iff.mp h
    exact concat hrun (ih hrun) hstep

/-- The induction on runs of which every action keeps a promise. -/
theorem run_induction_of {P : σ → List α → List ε → Prop} {Q : α → Prop} (nil : P s [] [])
    (concat : ∀ {u t a acts events more}, m.run s acts = some (u, events) → P u acts events →
      m.step u a = some (t, more) → Q a → P t (acts ++ [a]) (events ++ more))
    (h : m.run s acts = some (t, events)) (hacts : ∀ a ∈ acts, Q a) : P t acts events := by
  refine run_induction (P := fun u acts events => (∀ a ∈ acts, Q a) → P u acts events) ?_ ?_ h hacts
  · exact fun _ => nil
  · intro u t a acts events more hrun hu hstep hall
    have hbefore : ∀ b ∈ acts, Q b := fun b hb => hall b (List.mem_append_left _ hb)
    have hlast : Q a := hall a (List.mem_append_right _ (List.mem_singleton_self a))
    exact concat hrun (hu hbefore) hstep hlast

/-- Whether each action of a run is allowed in the state in which it is taken. -/
def allows (m : Machine σ α ε) (allowed : σ → α → Bool) (s : σ) : List α → Bool
  | [] => true
  | a :: as => allowed s a && (m.step s a).elim true fun next => m.allows allowed next.1 as

theorem allows_concat {allowed : σ → α → Bool} (h : m.run s acts = some (t, events))
    (hall : m.allows allowed s (acts ++ [a]) = true) :
    m.allows allowed s acts = true ∧ allowed t a = true := by
  induction acts generalizing s events with
  | nil =>
    obtain ⟨rfl, -⟩ : s = t ∧ [] = events := by simpa using h
    rw [List.nil_append, allows, Bool.and_eq_true] at hall
    exact ⟨rfl, hall.1⟩
  | cons b acts ih =>
    obtain ⟨u, first, rest, hstep, hrun, -⟩ := run_cons_iff.mp h
    rw [List.cons_append, allows, hstep, Option.elim_some, Bool.and_eq_true] at hall
    obtain ⟨hrest, hlast⟩ := ih hrun hall.2
    refine ⟨?_, hlast⟩
    rw [allows, hstep, Option.elim_some, hall.1, hrest]
    rfl

/-- The induction on runs of which every action is allowed where it is taken. -/
theorem run_induction_along {P : σ → List α → List ε → Prop} {allowed : σ → α → Bool}
    (nil : P s [] [])
    (concat : ∀ {u t a acts events more}, m.run s acts = some (u, events) → P u acts events →
      m.step u a = some (t, more) → allowed u a = true → P t (acts ++ [a]) (events ++ more))
    (h : m.run s acts = some (t, events)) (hacts : m.allows allowed s acts = true) :
    P t acts events := by
  refine run_induction
    (P := fun u acts events => m.allows allowed s acts = true → P u acts events) ?_ ?_ h hacts
  · exact fun _ => nil
  · intro u t a acts events more hrun hu hstep hall
    obtain ⟨hbefore, hlast⟩ := allows_concat hrun hall
    exact concat hrun (hu hbefore) hstep hlast

/-! ## Histories -/

variable {β : Type} {look : σ → α → List β}

/-- What an observer gathers along a run who looks at each action and at the
state in which it is taken. -/
def gather (m : Machine σ α ε) (look : σ → α → List β) (s : σ) : List α → List β
  | [] => []
  | a :: as => look s a ++ (m.step s a).elim [] fun next => m.gather look next.1 as

@[simp] theorem gather_nil (s : σ) : m.gather look s [] = [] := rfl

/-- What is gathered of two runs after each other. -/
theorem gather_append (h : m.run s acts = some (t, events)) :
    m.gather look s (acts ++ later) = m.gather look s acts ++ m.gather look t later := by
  induction acts generalizing s events with
  | nil =>
    obtain ⟨rfl, -⟩ : s = t ∧ [] = events := by simpa using h
    rfl
  | cons a acts ih =>
    obtain ⟨u, first, rest, hstep, hrun, -⟩ := run_cons_iff.mp h
    simp only [List.cons_append, gather, hstep, Option.elim_some, ih hrun, List.append_assoc]

/-- What is gathered of one more action. -/
theorem gather_concat (h : m.run s acts = some (t, events)) (a : α) :
    m.gather look s (acts ++ [a]) = m.gather look s acts ++ look t a := by
  rw [gather_append h]
  cases hstep : m.step t a <;> simp [gather, hstep]

/-- What is gathered was seen at one of the actions. -/
theorem mem_gather {b : β} (h : b ∈ m.gather look s acts) : ∃ t, ∃ a ∈ acts, b ∈ look t a := by
  induction acts generalizing s with
  | nil => cases h
  | cons a acts ih =>
    rcases List.mem_append.mp h with hfirst | hrest
    · exact ⟨s, a, List.mem_cons_self, hfirst⟩
    · cases hstep : m.step s a with
      | none => simp [hstep] at hrest
      | some next =>
        rw [hstep] at hrest
        obtain ⟨t, own, hown, hlook⟩ := ih hrest
        exact ⟨t, own, List.mem_cons_of_mem _ hown, hlook⟩

end Machine

end TunnelRelay
