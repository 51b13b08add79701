import TunnelRelay.Text.Blank
import TunnelRelay.Text.DecimalDigit
/-!
# Decimal numerals

Reading an integer from text: an optional sign and decimal digits of any
script, with single underscores between digits and blanks around the whole.
Numerals of more than 4300 digits are refused, whatever their value.
-/

namespace TunnelRelay.Text.Numeral

/-- Why a text is not read as an integer. -/
inductive Problem
  | malformed
  | tooLong (digits : Nat)
  deriving DecidableEq, Repr

/-- The greatest number of digits that is read. -/
def maxDigits : Nat := 4300

/-- The digits at the start of a text, with single underscores between them,
and what follows. `none` if an underscore stands where it joins nothing. -/
def digitRun : List Char → Option (List Nat × List Char)
  | [] => some ([], [])
  | c :: rest =>
    match digitValue? c with
    | some d => (digitRun rest).map fun (ds, rest) => (d :: ds, rest)
    | none =>
      if c = '_' then
        if (rest.head?.bind digitValue?).isSome then digitRun rest else none
      else some ([], c :: rest)

/-- The value of a sequence of decimal digits. -/
def value (digits : List Nat) : Nat := digits.foldl (fun n d => 10 * n + d) 0

/-- Reads an unsigned numeral that ends the text but for blanks. -/
def parseNat (s : List Char) : Except Problem Nat :=
  match s with
  | '_' :: _ => .error .malformed
  | _ =>
    match digitRun s with
    | some (d :: ds, rest) =>
      if maxDigits < (d :: ds).length then .error (.tooLong (d :: ds).length)
      else if rest.all isBlank then .ok (value (d :: ds))
      else .error .malformed
    | _ => .error .malformed

/-- Reads an integer. -/
def parse (s : List Char) : Except Problem Int :=
  match s.dropWhile isBlank with
  | '-' :: rest => (parseNat rest).map fun n => -(n : Int)
  | '+' :: rest => (parseNat rest).map fun n => (n : Int)
  | rest => (parseNat rest).map fun n => (n : Int)

/-- Whether the character is one of the ten ASCII digits. -/
def isAsciiDigit (c : Char) : Bool := '0' ≤ c && c ≤ '9'

/-- Reads a number written with ASCII digits only. -/
def parseAscii? (s : List Char) : Option Nat :=
  if s ≠ [] ∧ s.all isAsciiDigit ∧ s.length ≤ maxDigits then
    some (value (s.map fun c => c.toNat - '0'.toNat))
  else none

end TunnelRelay.Text.Numeral
