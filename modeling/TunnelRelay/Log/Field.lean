import TunnelRelay.Fault
import TunnelRelay.Text.Decimal
/-!
# Fields of log lines

A field of a template shows one value in the form that its last letter asks
for: as text, as an integer in one of three bases, as a decimal fraction, or
as a character. Flags, width and precision say how the text is cut, signed and
widened. A value that has no such form is a fault.
-/

namespace TunnelRelay.Log

/-- A size in a field: written there, or taken from the values by a star. -/
inductive Field.Size where
  | written (n : Nat)
  | taken
  deriving DecidableEq, Repr

/-- What is wrong with the way a field is written. -/
inductive Field.Problem where
  | unclosedKey
  | widthTooBig
  | precisionTooBig
  | unfinished
  deriving DecidableEq, Repr

/-- What ends a field: the letter of its form, with its place in the template,
or a problem. -/
inductive Field.Close where
  | letter (letter : Char) (place : Nat)
  | problem (problem : Field.Problem)
  deriving DecidableEq, Repr

/-- A field of a template. -/
structure Field where
  /-- The name of the value to show; a field without one takes what is left. -/
  key : Option String := none
  /-- The characters that say how numbers are signed and texts widened. -/
  flags : List Char := []
  width : Option Field.Size := none
  precision : Option Field.Size := none
  close : Field.Close
  deriving DecidableEq, Repr

namespace Field

/-! ## Faults -/

/-- The fault of a problem. -/
def Problem.fault : Problem → Fault
  | .unclosedKey => .ofText .value "incomplete format key"
  | .widthTooBig => .ofText .value "width too big"
  | .precisionTooBig => .ofText .value "precision too big"
  | .unfinished => .ofText .value "incomplete format"

/-- The fault of a number that is too large. -/
def overflow (text : String) : Fault := .ofText (.other "OverflowError") text

/-- The fault of a text that is too long to be made. -/
def tooLong : Fault := .mk (.other "MemoryError") [] none

/-- The fault of a value that is no number. -/
def notReal (letter : Char) (v : Value) : Fault :=
  .ofText .mismatch
    ("%" ++ letter.toString ++ " format: a real number is required, not " ++ v.kindName)

/-- The fault of a value that is no integer. -/
def notInteger (letter : Char) (v : Value) : Fault :=
  .ofText .mismatch
    ("%" ++ letter.toString ++ " format: an integer is required, not " ++ v.kindName)

/-- The fault of a value that has no decimal fraction. -/
def notFraction (v : Value) : Fault :=
  .ofText .mismatch ("must be real number, not " ++ v.kindName)

/-- The fault of a letter without a form. Letters that cannot be seen, or are
not ASCII, are shown by their code points alone. -/
def unknownLetter (letter : Char) (place : Nat) : Fault :=
  let shown := if 31 ≤ letter.toNat ∧ letter.toNat ≤ 126 then letter else '?'
  .ofText .value ("unsupported format character '" ++ shown.toString ++ "' (0x" ++
    String.ofList (Nat.toDigits 16 letter.toNat) ++ ") at index " ++ toString place)

/-! ## Forms -/

/-- What is shown of a value before it is widened. -/
inductive Shown where
  | text (text : List Char)
  /-- A number: whether it is negative, the mark of its base, and its digits. -/
  | number (negative : Bool) (mark digits : List Char)

/-- Whether the field has a flag. -/
def has (f : Field) (flag : Char) : Bool := f.flags.contains flag

/-- The precision, if it is written. -/
def places? (f : Field) : Option Nat :=
  match f.precision with
  | some (.written n) => some n
  | _ => none

/-- A text, cut to the precision. -/
def showText (f : Field) (s : List Char) : Shown := .text (f.places?.elim s s.take)

/-- The longest text that is made, two to the power of 30. -/
def maxLength : Nat := 1073741824

/-- The greatest precision of an integer, four less than two to the power of
31. -/
def maxDigits : Nat := 2147483644

/-- An integer in a base, with at least as many digits as the precision asks
for. -/
def showInteger (f : Field) (base : Nat) (mark : List Char) (n : Int) : Except Fault Shown :=
  let digits := Nat.toDigits base n.natAbs
  let places := f.places?.getD 0
  if maxDigits < places then .error (overflow "precision too large")
  else if maxLength < places then .error tooLong
  else
    .ok (.number (decide (n < 0)) (if f.has '#' then mark else [])
      (Text.Decimal.zeroDigits (places - digits.length) ++ digits))

/-- A number as a decimal fraction, in the notation of the letter. -/
def showFraction (f : Field) (letter : Char) (n : Int) : Except Fault Shown :=
  let places := f.places?.getD 6
  let point := f.has '#'
  let isGeneral := letter = 'g' || letter = 'G'
  match Text.Decimal.toBinary64? n.natAbs with
  | none => .error (overflow "int too large to convert to float")
  | some m =>
    if maxLength < places && (point || !isGeneral) then .error tooLong
    else
      .ok (.number (decide (n < 0)) []
        (if letter = 'e' ∨ letter = 'E' then Text.Decimal.scientific letter m places point
        else if letter = 'g' then Text.Decimal.general 'e' m places point
        else if letter = 'G' then Text.Decimal.general 'E' m places point
        else Text.Decimal.fixed m places point))

/-- A character, given by itself or by its code point. -/
def showCharacter : Value → Except Fault Shown
  | .string s =>
    match s.toList with
    | [c] => .ok (.text [c])
    | _ => .error (.ofText .mismatch "%c requires int or char")
  | v =>
    match v.number? with
    | none => .error (.ofText .mismatch "%c requires int or char")
    | some n =>
      if 0 ≤ n ∧ n < 0x110000 then .ok (.text [Char.ofNat n.toNat])
      else .error (overflow "%c arg not in range(0x110000)")

/-- A value as an integer in the base of the letter, if the letter has one. -/
def asInteger? (f : Field) (letter : Char) (v : Value) : Option (Except Fault Shown) :=
  let shown (base : Nat) (mark : String) (fault : Fault) : Except Fault Shown :=
    match v.number? with
    | some n => f.showInteger base mark.toList n
    | none => .error fault
  match letter with
  | 'd' | 'i' | 'u' => some (shown 10 "" (notReal letter v))
  | 'o' => some (shown 8 "0o" (notInteger letter v))
  | 'x' => some (shown 16 "0x" (notInteger letter v))
  | 'X' =>
    some ((shown 16 "0X" (notInteger letter v)).map fun
      | .number negative mark digits => .number negative mark (digits.map Char.toUpper)
      | shown => shown)
  | _ => none

/-- What a field with the given letter shows of a value. -/
def shownAs (f : Field) (letter : Char) (place : Nat) (v : Value) : Except Fault Shown :=
  match f.asInteger? letter v with
  | some shown => shown
  | none =>
    match letter with
    | 's' => .ok (f.showText v.text.toList)
    | 'r' => .ok (f.showText v.literal.toList)
    | 'a' => .ok (f.showText (Text.Quoted.toAscii v.literal.toList))
    | 'c' => showCharacter v
    | 'e' | 'E' | 'f' | 'F' | 'g' | 'G' =>
      match v.number? with
      | some n => f.showFraction letter n
      | none => .error (notFraction v)
    | _ => .error (unknownLetter letter place)

/-! ## Widening -/

/-- The sign in front of a number. -/
def sign (f : Field) (negative : Bool) : List Char :=
  if negative then ['-'] else if f.has '+' then ['+'] else if f.has ' ' then [' '] else []

/-- What is shown, widened to the width of the field: to the right of blanks, to
the left of them, or as a number with zeros after its sign. -/
def widen (f : Field) (shown : Shown) : Except Fault (List Char) :=
  let (start, rest, zeros) : List Char × List Char × Bool := match shown with
    | .text s => ([], s, false)
    | .number negative mark digits => (f.sign negative ++ mark, digits, f.has '0')
  let width := match f.width with
    | some (.written n) => n
    | _ => 0
  let missing := width - (start.length + rest.length)
  if maxLength < missing then .error tooLong
  else
    let blanks := List.replicate missing ' '
    .ok (if f.has '-' then start ++ rest ++ blanks
      else if zeros then start ++ Text.Decimal.zeroDigits missing ++ rest
      else blanks ++ start ++ rest)

end Field

end TunnelRelay.Log
