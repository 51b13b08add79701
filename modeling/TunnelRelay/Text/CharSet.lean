/-!
# Sets of characters

A property of characters that follows no formula is a table. `CharSet` keeps
the code points at which membership changes, so a run of any length takes two
entries.
-/

namespace TunnelRelay.Text

/-- A set of characters, given by the code points at which membership
changes, in increasing order; code point 0 is outside unless it is listed. -/
structure CharSet where
  edges : List Nat

/-- Whether an odd number of the edges lie at or below `n`, which for
increasing edges says that `n` is inside. -/
def CharSet.inside : List Nat → Nat → Bool
  | [], _ => false
  | e :: rest, n => if n < e then false else !inside rest n

/-- Whether the character is in the set. -/
def CharSet.holds (s : CharSet) (c : Char) : Bool := inside s.edges c.toNat

end TunnelRelay.Text
