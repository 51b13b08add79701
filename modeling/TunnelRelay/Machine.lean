/-!
# Machines

The parts of the forwarder that wait for the outside world are machines: a
partial function gives the next state and the events of an action, or nothing
where the action cannot happen. A run is a list of actions in any order, so
what holds of all runs holds of every interleaving. `settle` is the run that
takes the machine's own actions until none of them can happen.
-/

namespace TunnelRelay

variable {σ α ε : Type}

/-- A machine with states `σ`, actions `α` and events `ε`. -/
structure Machine (σ α ε : Type) where
  step : σ → α → Option (σ × List ε)

namespace Machine

/-- The state and the events after a list of actions, if each can happen. -/
def run (m : Machine σ α ε) (s : σ) : List α → Option (σ × List ε)
  | [] => some (s, [])
  | a :: as =>
    (m.step s a).bind fun (s, first) => (m.run s as).map fun (s, rest) => (s, first ++ rest)

/-- The first of the actions that can happen, taken. -/
def stepAny (m : Machine σ α ε) (s : σ) (acts : List α) : Option (σ × List ε) :=
  acts.findSome? (m.step s)

/-- Takes the machine's own actions until none can happen, at most `fuel` of
them. -/
def settle (m : Machine σ α ε) (own : σ → List α) : Nat → σ → σ × List ε
  | 0, s => (s, [])
  | fuel + 1, s =>
    match m.stepAny s (own s) with
    | none => (s, [])
    | some (s, first) =>
      let (s, rest) := m.settle own fuel s
      (s, first ++ rest)

/-- Lets an action happen if it can, and settles. -/
def act (m : Machine σ α ε) (own : σ → List α) (work : σ → Nat) (s : σ) (a : α) : σ × List ε :=
  let (s, first) := (m.step s a).getD (s, [])
  let (s, rest) := m.settle own (work s) s
  (s, first ++ rest)

end Machine

end TunnelRelay
