import TunnelRelay.Fault
/-!
# The trust cache

TLS towards a destination needs the root certificates of the system, which
are loaded once. The first outcome is kept for good: the certificates, or the
fault of the system or of a value that kept them from being loaded. Any other
fault leaves the cache as it was.
-/

namespace TunnelRelay.Trust

/-- What loading the certificates gives. -/
abbrev Outcome (α : Type) := Except Fault α

/-- Whether a fault of loading is remembered. -/
def isKept (fault : Fault) : Bool := fault.kind.isSystem || fault.kind.isValue

/-- The answer given to everybody who meets a remembered outcome. -/
def answer {α : Type} : Outcome α → Outcome α
  | .ok value => .ok value
  | .error fault =>
    .error (.dialFailure ("failed to load native root certificates: " ++ fault.message) fault)

/-- The holder of the first outcome. -/
structure Cache (α : Type) where
  outcome : Option (Outcome α) := none

namespace Cache

variable {α : Type}

/-- Whether an outcome is remembered. -/
def initialized (c : Cache α) : Bool := c.outcome.isSome

/-- The cache after loading has given an outcome. -/
def afterLoad (c : Cache α) : Outcome α → Cache α
  | .ok value => { outcome := some (.ok value) }
  | .error fault => if isKept fault then { outcome := some (.error fault) } else c

/-- Asks for the certificates, where loading them would give `load`: the
answer and the cache after it. -/
def get (c : Cache α) (load : Outcome α) : Outcome α × Cache α :=
  match c.outcome with
  | some outcome => (answer outcome, c)
  | none =>
    match load with
    | .ok value => (.ok value, c.afterLoad load)
    | .error fault => (if isKept fault then answer load else load, c.afterLoad load)

end Cache

end TunnelRelay.Trust
