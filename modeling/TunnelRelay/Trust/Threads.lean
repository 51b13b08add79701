import TunnelRelay.Machine
import TunnelRelay.Trust.Cache
/-!
# The trust cache among threads

Several threads may ask for the certificates at the same time. Each request
reads the outcome; where there is none it takes the lock, reads again, loads
and stores, gives the lock back, and answers from the stored outcome. The
machine makes each of these a step of its own, and loading takes two, its
beginning and its end. So its runs are all interleavings of any number of
threads.
-/

namespace TunnelRelay.Trust

/-- Where a thread is in its request. -/
inductive Place (α : Type) where
  | idle
  | wantsLock
  | hasLock
  | calling
  | loading
  | storing (outcome : Outcome α)
  | releasing (fault : Option Fault)
  | answering

/-- Threads around one cache. -/
structure Threads (α : Type) where
  cache : Cache α := {}
  lock : Option Nat := none
  places : List (Place α)
  /-- The number of times that loading has begun. -/
  loads : Nat := 0

namespace Threads

variable {α : Type}

/-- The actions of threads. -/
inductive Act (α : Type) where
  /-- A thread begins a request. -/
  | request (thread : Nat)
  /-- A thread makes its next step, where loading is not what it waits for. -/
  | proceed (thread : Nat)
  /-- Loading gives its outcome to the thread that waits for it. -/
  | loaded (thread : Nat) (outcome : Outcome α)

/-- The events of threads. -/
inductive Event (α : Type) where
  | loadStarted (thread : Nat)
  | answered (thread : Nat) (outcome : Outcome α)

/-- The threads with one of them at another place. -/
def moved (t : Threads α) (thread : Nat) (place : Place α) : Threads α :=
  { t with places := t.places.set thread place }

/-- A thread reads the outcome without the lock. -/
def request (t : Threads α) (thread : Nat) : Threads α :=
  t.moved thread (if t.cache.initialized then .answering else .wantsLock)

/-- The next step of a thread that does not wait for loading. -/
def proceed (t : Threads α) (thread : Nat) : Place α → Option (Threads α × List (Event α))
  | .idle | .loading => none
  | .wantsLock =>
    if t.lock.isNone then some ({ t.moved thread .hasLock with lock := some thread }, []) else none
  | .hasLock =>
    some (t.moved thread (if t.cache.initialized then .releasing none else .calling), [])
  | .calling =>
    some ({ t.moved thread .loading with loads := t.loads + 1 }, [.loadStarted thread])
  | .storing outcome =>
    some ({ t.moved thread (.releasing none) with cache := { outcome := some outcome } }, [])
  | .releasing none => some ({ t.moved thread .answering with lock := none }, [])
  | .releasing (some fault) =>
    some ({ t.moved thread .idle with lock := none }, [.answered thread (.error fault)])
  | .answering =>
    t.cache.outcome.map fun outcome =>
      (t.moved thread .idle, [.answered thread (answer outcome)])

/-- Where a thread goes on once loading has given an outcome: the outcome is
stored unless it is a fault that is not kept. -/
def afterLoad : Outcome α → Place α
  | .ok value => .storing (.ok value)
  | .error fault => if isKept fault then .storing (.error fault) else .releasing (some fault)

/-- One step of one thread. -/
def step (t : Threads α) : Act α → Option (Threads α × List (Event α))
  | .request thread =>
    match t.places[thread]? with
    | some .idle => some (t.request thread, [])
    | _ => none
  | .proceed thread => t.places[thread]?.bind (t.proceed thread)
  | .loaded thread outcome =>
    match t.places[thread]? with
    | some .loading => some (t.moved thread (afterLoad outcome), [])
    | _ => none

/-- The threads as a machine. -/
def machine : Machine (Threads α) (Act α) (Event α) := ⟨step⟩

/-- The steps of the threads in turn, where the `n`-th loading gives the `n`-th
outcome of the plan, and `missing` after its end. -/
def own (plan : List (Outcome α)) (missing : Outcome α) (t : Threads α) : List (Act α) :=
  (List.range t.places.length).flatMap fun thread =>
    [.proceed thread, .loaded thread (plan.getD (t.loads - 1) missing)]

/-- Lets so many idle threads ask at once, and answers all of them. -/
def askAll (plan : List (Outcome α)) (missing : Outcome α) (cache : Cache α) (loads n : Nat) :
    Threads α × List (Outcome α) :=
  let asked := (List.range n).foldl request
    { cache, loads, places := List.replicate n .idle }
  let (t, events) := machine.settle (own plan missing) (8 * n + 8) asked
  (t, events.filterMap fun | .answered _ outcome => some outcome | _ => none)

end Threads

end TunnelRelay.Trust
