import TunnelRelay.Fault
/-!
# Endings

A piece of work ends in one of four ways: it returns something, a single fault
ends it, several pieces of it end by faults, or it is cancelled. Beside pieces
that end by faults others may be cancelled; such a group is a cancellation too,
so nobody deals with its faults on the way out.
-/

namespace TunnelRelay

/-- The faults of pieces of work that have ended together. -/
structure Fault.Group where
  faults : List Fault
  /-- Whether a piece of work beside them has ended by its cancellation. -/
  cancelled : Bool := false

namespace Fault.Group

/-- What is made of each fault of a group. -/
def map {β : Type} (g : Group) (f : Fault → β) : List β := g.faults.map f

/-- What a group is called. -/
def name (g : Group) : String := if g.cancelled then "BaseExceptionGroup" else "ExceptionGroup"

/-- The group with one fault more. -/
def add (g : Group) (fault : Fault) : Group := { g with faults := g.faults ++ [fault] }

/-- The faults of a group as one fault, as which they are part of another
group. Cancellations are told of by the outermost group only. -/
def asFault (g : Group) : Fault :=
  let parts := g.faults.length
  .ofText (.other "ExceptionGroup") ("Exceptions from Trio nursery (" ++ toString parts ++
    (if parts = 1 then " sub-exception)" else " sub-exceptions)"))

end Fault.Group

/-- How a piece of work that returns an `α` ends. -/
inductive Ending (α : Type) where
  | returned (value : α)
  | raised (fault : Fault)
  | group (faults : Fault.Group)
  | cancelled

namespace Ending

variable {α : Type}

/-- The name of a group of faults beside which nothing was cancelled. -/
def groupName : String := Fault.Group.name { faults := [] }

/-- Whether the piece of work was cancelled, or some of it was. -/
def isCancelled : Ending α → Bool
  | .cancelled => true
  | .group faults => faults.cancelled
  | .returned _ | .raised _ => false

/-- The same ending, of a piece of work whose value nobody asks for. -/
def void : Ending α → Ending Unit
  | .returned _ => .returned ()
  | .raised fault => .raised fault
  | .group faults => .group faults
  | .cancelled => .cancelled

/-- The name of what went wrong, if something did that can be dealt with. -/
def faultName? : Ending α → Option String
  | .raised fault => some fault.kind.name
  | .group faults => if faults.cancelled then none else some groupName
  | .returned _ | .cancelled => none

/-- What is left of an ending once its faults have been dealt with: a
cancellation stays, with the faults beside it. -/
def contained (ending : Ending Unit) : Ending Unit :=
  if ending.isCancelled then ending else .returned ()

end Ending

end TunnelRelay
