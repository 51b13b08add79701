import TunnelRelay.Proofs.Runs
import TunnelRelay.Trust.Threads
/-!
# The certificates are loaded once

Threads that ask for the certificates read the outcome without the lock first,
so a thread may find it missing and another store it before the lock is taken.
What keeps loading from happening again is the second reading: the thread that
has the lock loads only where nothing is stored, and nobody else stores
meanwhile. The invariant says for each place of a thread who has the lock, what
is stored, and what the thread has loaded itself (`Place.Fits`); every step of
every thread keeps it (`coherent_step`), and so does every interleaving.

An outcome that is kept is final: there is at most one, no loading begins after
it, and it is what all requests answer, but those whose own loading met a fault
that is not kept.
-/

namespace TunnelRelay.Trust

variable {α : Type}

/-- Whether an outcome of loading is kept. -/
def isFinal : Outcome α → Bool
  | .ok _ => true
  | .error fault => isKept fault

/-! ## Places -/

/-- **What is true of a thread at a place**: whether it has the lock, what is
stored, and what it has loaded itself. Between the second reading and the
storing nothing is stored, and no outcome is final but the one in hand. -/
def Place.Fits (lock : Option Nat) (stored : Option (Outcome α)) (finals : List (Outcome α))
    (own : Option (Outcome α)) (i : Nat) : Place α → Prop
  | .idle => lock ≠ some i
  | .wantsLock => lock ≠ some i ∧ own = none
  | .hasLock => lock = some i ∧ own = none ∧ finals = stored.toList
  | .calling | .loading => lock = some i ∧ own = none ∧ stored = none ∧ finals = []
  | .storing outcome => lock = some i ∧ own = some outcome ∧ stored = none ∧ finals = [outcome]
  | .releasing none => lock = some i ∧
      ∃ kept, stored = some kept ∧ ∀ outcome, own = some outcome → outcome = kept
  | .releasing (some fault) => lock = some i ∧ own = some (.error fault) ∧
      isKept fault = false ∧ stored = none ∧ finals = []
  | .answering => lock ≠ some i ∧
      ∃ kept, stored = some kept ∧ ∀ outcome, own = some outcome → outcome = kept

/-- A thread without the lock does not see what the one that has it does, as
long as what is stored stays. -/
theorem Place.Fits.elsewhere {place : Place α} {lock lock' : Option Nat}
    {stored stored' own : Option (Outcome α)} {finals finals' : List (Outcome α)} {j : Nat}
    (h : place.Fits lock stored finals own j)
    (hlock : lock ≠ some j) (hlock' : lock' ≠ some j)
    (hstored : ∀ outcome, stored = some outcome → stored' = some outcome) :
    place.Fits lock' stored' finals' own j := by
  cases place with
  | idle => exact hlock'
  | wantsLock => exact ⟨hlock', h.2⟩
  | answering =>
    obtain ⟨-, kept, hkept, hown⟩ := h
    exact ⟨hlock', kept, hstored kept hkept, hown⟩
  | hasLock | calling | loading | storing => exact absurd h.1 hlock
  | releasing fault =>
    cases fault with
    | none => exact absurd h.1 hlock
    | some fault => exact absurd h.1 hlock

namespace Threads

variable {t next : Threads α} {act : Act α} {acts later : List (Act α)} {i j : Nat}
variable {events more : List (Event α)} {place other : Place α} {outcome : Outcome α}
variable {result : Threads α × List (Event α)}

/-- Threads that have not asked yet, around an empty cache. -/
def idle (n : Nat) : Threads α := { places := List.replicate n .idle }

/-! ## What has been loaded -/

/-- The outcome that an action gives, if it is kept. -/
def Act.final? : Act α → Option (Outcome α)
  | .loaded _ outcome => if isFinal outcome then some outcome else none
  | .request _ | .proceed _ => none

/-- The outcomes of loading that are kept. -/
def finals (acts : List (Act α)) : List (Outcome α) := acts.filterMap Act.final?

/-- What a thread has loaded itself after an action, given what it had before;
a request begins with nothing. -/
def Act.ownAfter (i : Nat) (own : Option (Outcome α)) : Act α → Option (Outcome α)
  | .request thread => if thread = i then none else own
  | .loaded thread outcome => if thread = i then some outcome else own
  | .proceed _ => own

/-- What a thread has loaded itself since it last asked. -/
def ownLoad (i : Nat) (acts : List (Act α)) : Option (Outcome α) :=
  acts.foldl (Act.ownAfter i) none

/-- The thread that acts. -/
def Act.thread : Act α → Nat
  | .request thread | .proceed thread | .loaded thread _ => thread

theorem finals_concat (acts : List (Act α)) (act : Act α) :
    finals (acts ++ [act]) = finals acts ++ act.final?.toList := by
  unfold finals
  cases h : act.final? <;> simp [List.filterMap_append, h]

theorem finals_concat_of_none (acts : List (Act α)) (h : act.final? = none) :
    finals (acts ++ [act]) = finals acts := by
  rw [finals_concat, h, Option.toList_none, List.append_nil]

theorem ownLoad_concat (i : Nat) (acts : List (Act α)) (act : Act α) :
    ownLoad i (acts ++ [act]) = act.ownAfter i (ownLoad i acts) := by
  rw [ownLoad, List.foldl_append]
  rfl

/-- What a thread has loaded does not depend on what others do. -/
theorem ownLoad_concat_of_ne (acts : List (Act α)) (h : j ≠ act.thread) :
    ownLoad j (acts ++ [act]) = ownLoad j acts := by
  rw [ownLoad_concat]
  cases act with
  | proceed thread => rfl
  | request thread | loaded thread => exact if_neg (Ne.symm h)

theorem isFinal_of_mem_finals (h : outcome ∈ finals acts) : isFinal outcome = true := by
  obtain ⟨act, -, hfinal⟩ := List.mem_filterMap.mp h
  cases act with
  | request | proceed => cases hfinal
  | loaded thread given =>
    simp only [Act.final?] at hfinal
    split at hfinal
    · rename_i hgiven
      exact Option.some.inj hfinal ▸ hgiven
    · cases hfinal

/-! ## Steps -/

/-- Where a thread goes on from loading. -/
theorem afterLoad_cases (outcome : Outcome α) :
    (isFinal outcome = true ∧ afterLoad outcome = .storing outcome) ∨
      ∃ fault, outcome = .error fault ∧ isKept fault = false ∧
        afterLoad outcome = .releasing (some fault) := by
  cases outcome with
  | ok value => exact Or.inl ⟨rfl, rfl⟩
  | error fault =>
    cases hkept : isKept fault with
    | true => exact Or.inl ⟨hkept, by simp [afterLoad, hkept]⟩
    | false => exact Or.inr ⟨fault, rfl, hkept, by simp [afterLoad, hkept]⟩

/-- **What a step of a thread can do.** -/
inductive Passage (t : Threads α) : Act α → Threads α × List (Event α) → Prop
  /-- The outcome is read without the lock. -/
  | request {i : Nat} : t.places[i]? = some .idle → Passage t (.request i) (t.request i, [])
  /-- The lock is taken. -/
  | acquire {i : Nat} : t.places[i]? = some .wantsLock → t.lock = none →
      Passage t (.proceed i) ({ t.moved i .hasLock with lock := some i }, [])
  /-- The outcome is read again. -/
  | reread {i : Nat} : t.places[i]? = some .hasLock →
      Passage t (.proceed i)
        (t.moved i (if t.cache.initialized then .releasing none else .calling), [])
  /-- Loading begins. -/
  | call {i : Nat} : t.places[i]? = some .calling →
      Passage t (.proceed i)
        ({ t.moved i .loading with loads := t.loads + 1 }, [.loadStarted i])
  /-- Loading gives an outcome that is kept. -/
  | final {i : Nat} {outcome : Outcome α} : t.places[i]? = some .loading →
      isFinal outcome = true → Passage t (.loaded i outcome) (t.moved i (.storing outcome), [])
  /-- Loading meets a fault that is not kept. -/
  | fault {i : Nat} {fault : Fault} : t.places[i]? = some .loading → isKept fault = false →
      Passage t (.loaded i (.error fault)) (t.moved i (.releasing (some fault)), [])
  /-- The outcome is stored. -/
  | store {i : Nat} {outcome : Outcome α} : t.places[i]? = some (.storing outcome) →
      Passage t (.proceed i)
        ({ t.moved i (.releasing none) with cache := { outcome := some outcome } }, [])
  /-- The lock is given back. -/
  | release {i : Nat} : t.places[i]? = some (.releasing none) →
      Passage t (.proceed i) ({ t.moved i .answering with lock := none }, [])
  /-- The lock is given back, and the fault of loading is passed on. -/
  | pass {i : Nat} {fault : Fault} : t.places[i]? = some (.releasing (some fault)) →
      Passage t (.proceed i)
        ({ t.moved i .idle with lock := none }, [.answered i (.error fault)])
  /-- The request answers from the stored outcome. -/
  | answer {i : Nat} {outcome : Outcome α} : t.places[i]? = some .answering →
      t.cache.outcome = some outcome →
      Passage t (.proceed i) (t.moved i .idle, [.answered i (answer outcome)])

theorem passage_of_proceed (hplace : t.places[i]? = some place)
    (hstep : t.proceed i place = some result) : Passage t (.proceed i) result := by
  cases place with
  | idle | loading => cases hstep
  | wantsLock =>
    simp only [proceed, Option.isNone_iff_eq_none] at hstep
    split at hstep
    · rename_i hlock
      obtain rfl := Option.some.inj hstep
      exact .acquire hplace hlock
    · cases hstep
  | hasLock =>
    obtain rfl := Option.some.inj hstep
    exact .reread hplace
  | calling =>
    obtain rfl := Option.some.inj hstep
    exact .call hplace
  | storing outcome =>
    obtain rfl := Option.some.inj hstep
    exact .store hplace
  | releasing fault =>
    cases fault with
    | none =>
      obtain rfl := Option.some.inj hstep
      exact .release hplace
    | some fault =>
      obtain rfl := Option.some.inj hstep
      exact .pass hplace
  | answering =>
    obtain ⟨outcome, houtcome, rfl⟩ := Option.map_eq_some_iff.mp hstep
    exact .answer hplace houtcome

/-- **Every step of a thread is one of its passages.** -/
theorem passage_of_step (hstep : t.step act = some result) : Passage t act result := by
  cases act with
  | request i =>
    simp only [step] at hstep
    split at hstep
    · rename_i hplace
      obtain rfl := Option.some.inj hstep
      exact .request hplace
    · cases hstep
  | proceed i =>
    obtain ⟨place, hplace, hproceed⟩ := Option.bind_eq_some_iff.mp hstep
    exact passage_of_proceed hplace hproceed
  | loaded i outcome =>
    simp only [step] at hstep
    split at hstep
    · rename_i hplace
      obtain rfl := Option.some.inj hstep
      rcases afterLoad_cases outcome with ⟨hfinal, heq⟩ | ⟨fault, rfl, hkept, heq⟩
      · rw [heq]
        exact .final hplace hfinal
      · rw [heq]
        exact .fault hplace hkept
    · cases hstep

/-! ## The invariant -/

/-- **The threads are coherent**: each fits its place, an outcome that is stored
is the one that is final, and so is, while the lock is free, one that is final
stored. -/
structure Coherent (t : Threads α) (acts : List (Act α)) : Prop where
  once : (finals acts).length ≤ 1
  stored : ∀ outcome, t.cache.outcome = some outcome → finals acts = [outcome]
  free : t.lock = none → finals acts = t.cache.outcome.toList
  places : ∀ (i : Nat) (place : Place α), t.places[i]? = some place →
    place.Fits t.lock t.cache.outcome (finals acts) (ownLoad i acts) i

theorem coherent_idle (n : Nat) : Coherent (idle n : Threads α) [] := by
  refine ⟨Nat.zero_le 1, nofun, fun _ => rfl, fun i place hplace => ?_⟩
  obtain ⟨-, rfl⟩ : i < n ∧ Place.idle = place := by
    simpa [idle, List.getElem?_replicate] using hplace
  exact nofun

/-- A step moves one thread, and the others still fit their places. -/
theorem fits_moved {places : List (Place α)} {lock : Option Nat} {stored : Option (Outcome α)}
    {acts : List (Act α)} (hact : act.thread = i)
    (hthread : place.Fits lock stored (finals (acts ++ [act])) (ownLoad i (acts ++ [act])) i)
    (hothers : ∀ j other, j ≠ i → places[j]? = some other →
      other.Fits lock stored (finals (acts ++ [act])) (ownLoad j acts) j)
    (j : Nat) (other : Place α) (hother : (places.set i place)[j]? = some other) :
    other.Fits lock stored (finals (acts ++ [act])) (ownLoad j (acts ++ [act])) j := by
  rcases eq_or_ne j i with rfl | hne
  · obtain ⟨-, rfl⟩ : j < places.length ∧ place = other := by
      simpa [List.getElem?_set] using hother
    exact hthread
  · rw [List.getElem?_set_ne (Ne.symm hne)] at hother
    rw [ownLoad_concat_of_ne acts (hact ▸ hne)]
    exact hothers j other hne hother

/-- A step by which neither the lock nor what is stored or final changes. -/
theorem Coherent.of_same (h : Coherent t acts) (hact : act.thread = i)
    (hfinal : act.final? = none) (hplaces : next.places = t.places.set i place)
    (hlock : next.lock = t.lock) (hcache : next.cache = t.cache)
    (hfits : place.Fits t.lock t.cache.outcome (finals acts) (act.ownAfter i (ownLoad i acts)) i) :
    Coherent next (acts ++ [act]) := by
  have hfinals := finals_concat_of_none acts hfinal
  refine ⟨?_, ?_, ?_, ?_⟩
  · rw [hfinals]
    exact h.once
  · rw [hfinals, hcache]
    exact h.stored
  · rw [hfinals, hcache, hlock]
    exact h.free
  · rw [hplaces, hlock, hcache]
    refine fits_moved hact ?_ fun j other _ hother => ?_
    · rw [hfinals, ownLoad_concat]
      exact hfits
    · rw [hfinals]
      exact h.places j other hother

/-- A step of the thread that has the lock, or that takes it. -/
theorem Coherent.of_locked (h : Coherent t acts) (hact : act.thread = i)
    (hplaces : next.places = t.places.set i place) (hlock : ∀ j, j ≠ i → t.lock ≠ some j)
    (hlock' : ∀ j, j ≠ i → next.lock ≠ some j)
    (hkeeps : ∀ outcome, t.cache.outcome = some outcome → next.cache.outcome = some outcome)
    (honce : (finals (acts ++ [act])).length ≤ 1)
    (hstored : ∀ outcome, next.cache.outcome = some outcome → finals (acts ++ [act]) = [outcome])
    (hfree : next.lock = none → finals (acts ++ [act]) = next.cache.outcome.toList)
    (hfits : place.Fits next.lock next.cache.outcome (finals (acts ++ [act]))
      (act.ownAfter i (ownLoad i acts)) i) :
    Coherent next (acts ++ [act]) := by
  refine ⟨honce, hstored, hfree, ?_⟩
  rw [hplaces]
  refine fits_moved hact ?_ fun j other hne hother => ?_
  · rw [ownLoad_concat]
    exact hfits
  · exact (h.places j other hother).elsewhere (hlock j hne) (hlock' j hne) hkeeps

/-- The lock belongs to one thread. -/
theorem lock_ne (hlock : t.lock = some i) (j : Nat) (hne : j ≠ i) : t.lock ≠ some j := by
  rw [hlock]
  exact fun h => hne (Option.some.inj h).symm

/-- **Every step of every thread keeps the threads coherent.** -/
theorem coherent_step (h : Coherent t acts) (hp : Passage t act result) :
    Coherent result.1 (acts ++ [act]) := by
  cases hp with
  | @request i hplace =>
    have hlock : t.lock ≠ some i := h.places i _ hplace
    have hown : (Act.request i).ownAfter i (ownLoad i acts) = none := if_pos rfl
    refine h.of_same (i := i) rfl rfl rfl rfl rfl ?_
    rw [hown]
    split
    · rename_i hinit
      obtain ⟨kept, hkept⟩ := Option.isSome_iff_exists.mp hinit
      exact ⟨hlock, kept, hkept, nofun⟩
    · exact ⟨hlock, rfl⟩
  | @acquire i hplace hfree =>
    obtain ⟨-, hown⟩ := h.places i _ hplace
    have hfinals : finals (acts ++ [.proceed i]) = finals acts := finals_concat_of_none acts rfl
    refine h.of_locked (i := i) rfl rfl (fun j _ => by rw [hfree]; exact nofun) (lock_ne rfl)
      (fun _ => id) ?_ ?_ nofun ?_
    · rw [hfinals]
      exact h.once
    · rw [hfinals]
      exact h.stored
    · rw [hfinals]
      exact ⟨rfl, hown, h.free hfree⟩
  | @reread i hplace =>
    obtain ⟨hlock, hown, hfinals⟩ := h.places i _ hplace
    refine h.of_same (i := i) rfl rfl rfl rfl rfl ?_
    split
    · rename_i hinit
      obtain ⟨kept, hkept⟩ := Option.isSome_iff_exists.mp hinit
      refine ⟨hlock, kept, hkept, fun outcome houtcome => ?_⟩
      rw [Act.ownAfter, hown] at houtcome
      cases houtcome
    · -- nothing is stored, and so nothing is final
      rename_i hinit
      have hnone : t.cache.outcome = none := by simpa [Cache.initialized] using hinit
      rw [hnone] at hfinals
      exact ⟨hlock, hown, hnone, hfinals⟩
  | @call i hplace =>
    have hfits := h.places i _ hplace
    exact h.of_same (i := i) rfl rfl rfl rfl rfl hfits
  | @final i outcome hplace hfinal =>
    obtain ⟨hlock, -, hnone, hempty⟩ := h.places i _ hplace
    have hfinals : finals (acts ++ [.loaded i outcome]) = [outcome] := by
      simp [finals_concat, hempty, Act.final?, hfinal]
    refine h.of_locked (i := i) rfl rfl (lock_ne hlock) (lock_ne hlock) (fun _ => id) ?_ ?_ ?_ ?_
    · rw [hfinals]
      exact Nat.le_refl 1
    · intro stored hstored
      rw [show t.cache.outcome = some stored from hstored] at hnone
      cases hnone
    · intro hfree
      rw [show t.lock = none from hfree] at hlock
      cases hlock
    · rw [hfinals]
      exact ⟨hlock, if_pos rfl, hnone, rfl⟩
  | @fault i fault hplace hkept =>
    obtain ⟨hlock, -, hnone, hempty⟩ := h.places i _ hplace
    refine h.of_same (i := i) rfl (by simp [Act.final?, isFinal, hkept]) rfl rfl rfl ?_
    exact ⟨hlock, if_pos rfl, hkept, hnone, hempty⟩
  | @store i outcome hplace =>
    obtain ⟨hlock, hown, hnone, hone⟩ := h.places i _ hplace
    have hfinals : finals (acts ++ [.proceed i]) = [outcome] :=
      (finals_concat_of_none acts rfl).trans hone
    refine h.of_locked (i := i) rfl rfl (lock_ne hlock) (lock_ne hlock)
      (fun stored hstored => ?_) ?_ ?_ ?_ ?_
    · rw [hnone] at hstored
      cases hstored
    · rw [hfinals]
      exact Nat.le_refl 1
    · rintro stored ⟨⟩
      exact hfinals
    · intro hfree
      rw [show t.lock = none from hfree] at hlock
      cases hlock
    · refine ⟨hlock, outcome, rfl, fun other hother => ?_⟩
      rw [Act.ownAfter, hown] at hother
      exact (Option.some.inj hother).symm
  | @release i hplace =>
    obtain ⟨hlock, kept, hkept, hown⟩ := h.places i _ hplace
    have hfinals : finals (acts ++ [.proceed i]) = [kept] :=
      (finals_concat_of_none acts rfl).trans (h.stored kept hkept)
    refine h.of_locked (i := i) rfl rfl (lock_ne hlock) (fun j _ => nofun) (fun _ => id)
      ?_ ?_ (fun _ => ?_) ?_
    · rw [hfinals]
      exact Nat.le_refl 1
    · intro stored hstored
      rw [finals_concat_of_none acts rfl]
      exact h.stored stored hstored
    · rw [hfinals]
      exact (congrArg Option.toList hkept).symm
    · exact ⟨nofun, kept, hkept, hown⟩
  | @pass i fault hplace =>
    obtain ⟨hlock, -, -, hnone, hempty⟩ := h.places i _ hplace
    have hfinals : finals (acts ++ [.proceed i]) = [] :=
      (finals_concat_of_none acts rfl).trans hempty
    refine h.of_locked (i := i) rfl rfl (lock_ne hlock) (fun j _ => nofun) (fun _ => id)
      ?_ ?_ (fun _ => ?_) ?_
    · rw [hfinals]
      exact Nat.zero_le 1
    · intro stored hstored
      rw [show t.cache.outcome = some stored from hstored] at hnone
      cases hnone
    · rw [hfinals]
      exact (congrArg Option.toList hnone).symm
    · exact nofun
  | @answer i outcome hplace hstored =>
    exact h.of_same (i := i) rfl rfl rfl rfl rfl (h.places i _ hplace).1

/-- **All interleavings keep the threads coherent.** -/
theorem coherent_run {n : Nat} (h : machine.run (idle n) acts = some (t, events)) :
    Coherent t acts := by
  refine Machine.run_induction (P := fun t acts _ => Coherent t acts) (coherent_idle n) ?_ h
  intro t next act acts events more _ ht hstep
  exact coherent_step ht (passage_of_step hstep)

/-! ## One loading -/

/-- The lock keeps the others from loading. -/
theorem Coherent.alone (h : Coherent t acts) (hi : t.places[i]? = some .loading)
    (hj : t.places[j]? = some .loading) : i = j := by
  obtain ⟨hlock, -⟩ := h.places i _ hi
  obtain ⟨hlock', -⟩ := h.places j _ hj
  exact Option.some.inj (hlock.symm.trans hlock')

/-- No loading begins after an outcome that is kept. -/
theorem Coherent.last (h : Coherent t acts) (hfinals : finals acts ≠ [])
    (hrun : machine.run t later = some (next, more)) :
    ∀ i, .loadStarted i ∉ more := by
  suffices hall : Coherent next (acts ++ later) ∧ ∀ i, .loadStarted i ∉ more from hall.2
  refine Machine.run_induction
    (P := fun u later more => Coherent u (acts ++ later) ∧ ∀ i, Event.loadStarted i ∉ more)
    ⟨(List.append_nil acts).symm ▸ h, fun _ => nofun⟩ ?_ hrun
  rintro u v act later more own - ⟨hu, hquiet⟩ hstep
  have hp := passage_of_step hstep
  refine ⟨by rw [← List.append_assoc]; exact coherent_step hu hp, fun i hmem => ?_⟩
  rcases List.mem_append.mp hmem with hbefore | hnow
  · exact hquiet i hbefore
  · cases hp with
    | @call k hplace =>
      -- a thread that is about to load fits its place only where nothing is final
      obtain ⟨-, -, -, hempty⟩ := hu.places k _ hplace
      rw [finals, List.filterMap_append] at hempty
      exact hfinals (List.append_eq_nil_iff.mp hempty).1
    | request | acquire | reread | final | fault | store | release => cases hnow
    | pass | answer => simp at hnow

/-! ## Answers -/

/-- **What a request answers.** Where its own loading met a fault that is not
kept, this fault. Everybody else gets the outcome that is kept: its value, or
that the certificates could not be loaded, with its fault as the cause. -/
inductive Answers (finals : List (Outcome α)) (own : Option (Outcome α)) : Outcome α → Prop
  | value {value : α} : finals = [.ok value] →
      (∀ outcome, own = some outcome → outcome = .ok value) →
      Answers finals own (.ok value)
  | failure {fault : Fault} : finals = [.error fault] → isKept fault = true →
      (∀ outcome, own = some outcome → outcome = .error fault) →
      Answers finals own (.error (.dialFailure
        ("failed to load native root certificates: " ++ fault.message) fault))
  | passed {fault : Fault} : own = some (.error fault) → isKept fault = false →
      Answers finals own (.error fault)

theorem Coherent.answers (h : Coherent t acts) (hp : Passage t act result)
    (hmem : .answered i outcome ∈ result.2) : Answers (finals acts) (ownLoad i acts) outcome := by
  cases hp with
  | @pass k fault hplace =>
    obtain ⟨rfl, rfl⟩ : i = k ∧ outcome = .error fault := by simpa using hmem
    obtain ⟨-, hown, hkept, -⟩ := h.places i _ hplace
    exact .passed hown hkept
  | @answer k stored hplace hstored =>
    obtain ⟨rfl, rfl⟩ : i = k ∧ outcome = Trust.answer stored := by simpa using hmem
    obtain ⟨-, kept, hkept, hown⟩ := h.places i _ hplace
    obtain rfl : stored = kept := Option.some.inj (hstored.symm.trans hkept)
    have hone := h.stored stored hstored
    cases stored with
    | ok value => exact .value hone hown
    | error fault =>
      have hfinal : isFinal (.error fault : Outcome α) = true :=
        isFinal_of_mem_finals (hone ▸ List.mem_singleton_self _)
      exact .failure hone hfinal hown
  | request | acquire | reread | final | fault | store | release => cases hmem
  | call => simp at hmem

/-! ## Faults that are not kept -/

/-- A thread that is about to give the lock back stays there until it does. -/
theorem releasing_of_run {fault : Option Fault} (hplace : t.places[i]? = some (.releasing fault))
    (hlater : .proceed i ∉ later) (hrun : machine.run t later = some (next, more)) :
    next.places[i]? = some (.releasing fault) := by
  refine Machine.run_induction_of (Q := fun act => act ≠ .proceed i)
    (P := fun u _ _ => u.places[i]? = some (.releasing fault)) hplace ?_ hrun
    fun act hact heq => hlater (heq ▸ hact)
  intro u v act later more own _ hu hstep hact
  have hother {k : Nat} {place other : Place α} (hk : u.places[k]? = some other)
      (hne : other ≠ .releasing fault) : (u.places.set k place)[i]? = u.places[i]? := by
    refine List.getElem?_set_ne ?_
    rintro rfl
    exact hne (Option.some.inj (hk.symm.trans hu))
  rw [← hu]
  have hp := passage_of_step hstep
  cases hp with
  | request hk | final hk | fault hk => exact hother hk nofun
  | @acquire k | @reread k | @call k | @store k | @release k | @pass k | @answer k =>
    exact List.getElem?_set_ne fun heq => hact (by rw [heq])

/-- **A fault that is not kept leaves nothing behind.** Until its thread goes
on nothing is stored; then the thread gives the lock back and answers with the
fault. -/
theorem Coherent.passed {fault : Fault} {middle : List (Event α)} (h : Coherent t acts)
    (hkept : isKept fault = false) (hstep : t.step (.loaded i (.error fault)) = some (next, middle))
    {last : Threads α} (hrun : machine.run next later = some (last, more))
    (hlater : .proceed i ∉ later) :
    last.cache.outcome = none ∧
      ∃ u, last.step (.proceed i) = some (u, [.answered i (.error fault)]) ∧
        u.lock = none ∧ u.cache.outcome = none := by
  have hp := passage_of_step hstep
  have hnext : Coherent next (acts ++ [.loaded i (.error fault)]) := coherent_step h hp
  have hplace : next.places[i]? = some (.releasing (some fault)) := by
    cases hp with
    | final _ hfinal => rw [isFinal, hkept] at hfinal; cases hfinal
    | fault hplace => simp [moved, (List.getElem?_eq_some_iff.mp hplace).1]
  have hthere := releasing_of_run hplace hlater hrun
  have hlast : Coherent last (acts ++ [.loaded i (.error fault)] ++ later) := by
    refine Machine.run_induction
      (P := fun u later _ => Coherent u (acts ++ [.loaded i (.error fault)] ++ later)) ?_ ?_ hrun
    · rw [List.append_nil]
      exact hnext
    · intro u v act later more own _ hu hstep
      rw [← List.append_assoc]
      exact coherent_step hu (passage_of_step hstep)
  obtain ⟨-, -, -, hnone, -⟩ := hlast.places i _ hthere
  refine ⟨hnone, { last.moved i .idle with lock := none }, ?_, rfl, hnone⟩
  simp [step, hthere, proceed]

/-- **What holds of threads that have asked for the certificates so far**, by
the given actions. -/
structure LoadedOnce (t : Threads α) (acts : List (Act α)) : Prop where
  /-- No two threads load at a time. -/
  alone : ∀ i j : Nat, t.places[i]? = some .loading → t.places[j]? = some .loading → i = j
  /-- At most one loading gives an outcome that is kept. -/
  once : (finals acts).length ≤ 1
  /-- After it no loading begins. -/
  last : finals acts ≠ [] → ∀ later u more, machine.run t later = some (u, more) →
    ∀ i, .loadStarted i ∉ more
  /-- What is answered next. -/
  answers : ∀ act u more, t.step act = some (u, more) → ∀ i outcome,
    .answered i outcome ∈ more → Answers (finals acts) (ownLoad i acts) outcome
  /-- If loading meets a fault next that is not kept, then nothing is stored
  until the thread goes on; it answers with the fault, and the lock is free. -/
  passed : ∀ i fault u middle, isKept fault = false →
    t.step (.loaded i (.error fault)) = some (u, middle) →
    ∀ later v more, machine.run u later = some (v, more) → .proceed i ∉ later →
      v.cache.outcome = none ∧ ∃ w, v.step (.proceed i) = some (w, [.answered i (.error fault)]) ∧
        w.lock = none ∧ w.cache.outcome = none

/-- **The certificates are loaded once**, however many threads ask for them how
often, whatever loading gives, and however the steps of the threads are
interleaved. -/
theorem certificates_loaded_once {n : Nat}
    (h : machine.run (idle n) acts = some (t, events)) : LoadedOnce t acts := by
  have hc := coherent_run h
  refine ⟨fun i j hi hj => hc.alone hi hj, hc.once, ?_, ?_, ?_⟩
  · exact fun hfinals later u more hrun => hc.last hfinals hrun
  · exact fun act u more hstep i outcome hmem => hc.answers (passage_of_step hstep) hmem
  · exact fun i fault u middle hkept hstep later v more hrun hlater =>
      hc.passed hkept hstep hrun hlater

/-- The first of two threads meets a fault that is not kept. The second waits
for the lock meanwhile, and then loads itself. -/
def contested : List (Act Nat) :=
  [.request 0, .request 1, .proceed 0, .proceed 0, .proceed 0,
    .loaded 0 (.error (.ofText .runtime "out of memory")), .proceed 0,
    .proceed 1, .proceed 1, .proceed 1, .loaded 1 (.ok 7), .proceed 1, .proceed 1]

theorem contested_loaded_once :
    ∃ t events, machine.run (idle 2) contested = some (t, events) ∧ LoadedOnce t contested ∧
      finals contested = [.ok 7] ∧ t.lock = none ∧
      ∃ u, t.step (.proceed 1) = some (u, [.answered 1 (.ok 7)]) := by
  obtain ⟨⟨t, events⟩, h⟩ := Option.isSome_iff_exists.mp
    (show (machine.run (idle 2) contested).isSome = true by decide +kernel)
  refine ⟨t, events, h, certificates_loaded_once h, rfl, ?_⟩
  obtain ⟨rfl, -⟩ := Prod.mk.inj (Option.some.inj h)
  exact ⟨rfl, _, rfl⟩

end Threads

end TunnelRelay.Trust
