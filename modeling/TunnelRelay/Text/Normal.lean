import TunnelRelay.Text.CompatibleForms
import TunnelRelay.Text.Composition
/-!
# Normal texts

Two texts that differ only in how their characters are written have the same
normal text. It is made in three steps: each character is brought to its
compatible form and taken apart; marks after a character are put in the order
of their classes; and what can be composed is composed again.
-/

namespace TunnelRelay.Text.Normal

/-- The characters that make a composed one, taken apart at most `depth`
times. -/
def takeApart : Nat → Nat → List Nat
  | 0, n => [n]
  | depth + 1, n =>
    match decompose? n with
    | some (a, b) => takeApart depth a ++ [b]
    | none => [n]

/-- The number of marks that a composed character has at most. -/
def maxMarks : Nat := 4

/-- The compatible form of a character, taken apart. -/
def parts (c : Char) : List Nat :=
  (compatibleForm c).flatMap fun c => takeApart maxMarks c.toNat

/-- The class of a code point. -/
def classOf (n : Nat) : Nat := markClass (Char.ofNat n)

/-- Puts a character in front of others, behind the marks of lower class. -/
def place (n : Nat) : List Nat → List Nat
  | [] => [n]
  | m :: rest =>
    if 0 < classOf m ∧ classOf m < classOf n then m :: place n rest else n :: m :: rest

/-- The characters with all marks in order. -/
def inOrder (s : List Nat) : List Nat := s.foldr place []

/-- Whether a character after the marks can still join the character before
them: no mark of its class or a higher one stands between. -/
def isFree (marks : List Nat) (n : Nat) : Bool :=
  marks.getLast?.all fun last => classOf last < classOf n

/-- Composes a text, of which the start is the character that marks may join,
if there is one yet, and the marks that have not joined it. -/
def composeFrom (first : Option Nat) (marks : List Nat) : List Nat → List Nat
  | [] => first.toList ++ marks
  | n :: rest =>
    let joined := if isFree marks n then first.bind (compose? · n) else none
    match joined with
    | some both => composeFrom (some both) marks rest
    | none =>
      if classOf n = 0 then first.toList ++ marks ++ composeFrom (some n) [] rest
      else composeFrom first (marks ++ [n]) rest

end TunnelRelay.Text.Normal

namespace TunnelRelay.Text

/-- The normal text of a text. -/
def normal (s : List Char) : List Char :=
  (Normal.composeFrom none [] (Normal.inOrder (s.flatMap Normal.parts))).map Char.ofNat

end TunnelRelay.Text
