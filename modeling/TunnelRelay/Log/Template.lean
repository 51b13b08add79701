import TunnelRelay.Log.Field
import TunnelRelay.Text.Alphanumeric
import TunnelRelay.Text.DecimalDigit
/-!
# Templates of log lines

A template is text with fields in it. After a percent sign a field gives in
brackets the name of what it shows, then flags, a width, a precision after a
point, and the letter of its form; most of these may be missing:

    %(levelname)-8s %(id)-8.8s %(message)s

Two percent signs stand for one. A template is filled field by field: one with
a name takes the value of that name, and one without takes what is left, which
is the whole record as long as no field has been filled, and nothing after
that.
-/

namespace TunnelRelay.Log

/-- The pieces of a template. -/
inductive Template.Piece where
  | char (c : Char)
  | field (field : Field)
  deriving DecidableEq, Repr

/-- A template of lines. -/
abbrev Template := List Template.Piece

namespace Template

/-! ## Reading templates -/

/-- The flags that a field may have. -/
def isFlag (c : Char) : Bool := c = '#' || c = '0' || c = '+' || c = '-' || c = ' '

/-- The number that digits make. -/
def numberOf (digits : List Char) : Nat :=
  digits.foldl (fun n c => 10 * n + (c.toNat - '0'.toNat)) 0

/-- The name before the bracket that closes it, and what follows; brackets in
the name come in pairs, of which `depth` are open. -/
def readKey (depth : Nat) : List Char → Option (List Char × List Char)
  | [] => none
  | c :: rest =>
    if c = ')' ∧ depth = 0 then some ([], rest)
    else
      let depth := if c = '(' then depth + 1 else if c = ')' then depth - 1 else depth
      (readKey depth rest).map fun (key, after) => (c :: key, after)

/-- A size of at most `limit`, if there is one, and what follows; only the rest
where the size is greater. -/
def readSize (limit : Nat) (s : List Char) : Except Unit (Option Field.Size) × List Char :=
  match s with
  | '*' :: rest => (.ok (some .taken), rest)
  | s =>
    let digits := s.takeWhile Char.isDigit
    let rest := s.dropWhile Char.isDigit
    if digits = [] then (.ok none, rest)
    else if limit < numberOf digits then (.error (), rest)
    else (.ok (some (.written (numberOf digits))), rest)

/-- The greatest width, which is that of a signed word of 64 bits. -/
def maxWidth : Nat := 9223372036854775807

/-- The greatest precision, which is that of a signed word of 32 bits. -/
def maxPrecision : Nat := 2147483647

/-- The precision after a point, which is zero if none is written. -/
def readPrecision (s : List Char) : Except Unit (Option Field.Size) × List Char :=
  match s with
  | '.' :: s =>
    let (size, rest) := readSize maxPrecision s
    (size.map fun size => some (size.getD (.written 0)), rest)
  | s => (.ok none, s)

/-- What follows a letter that only says how long a number is. -/
def skipLength : List Char → List Char
  | c :: rest => if c = 'h' ∨ c = 'l' ∨ c = 'L' then rest else c :: rest
  | [] => []

/-- A field after its name in a template of the given length, and what
follows. -/
def readSpec (length : Nat) (key : Option String) (s : List Char) : Field × List Char :=
  let flags := s.takeWhile isFlag
  let (width, rest) := readSize maxWidth (s.dropWhile isFlag)
  match width with
  | .error () => ({ key, flags, close := .problem .widthTooBig }, rest)
  | .ok width =>
    let (precision, rest) := readPrecision rest
    match precision with
    | .error () => ({ key, flags, width, close := .problem .precisionTooBig }, rest)
    | .ok precision =>
      match skipLength rest with
      | [] => ({ key, flags, width, precision, close := .problem .unfinished }, [])
      | c :: rest =>
        ({ key, flags, width, precision, close := .letter c (length - rest.length - 1) }, rest)

/-- The field after a percent sign, and what follows it. -/
def readField (length : Nat) (s : List Char) : Field × List Char :=
  match s with
  | '(' :: s =>
    match readKey 0 s with
    | none => ({ close := .problem .unclosedKey }, [])
    | some (key, rest) => readSpec length (some (String.ofList key)) rest
  | s => readSpec length none s

/-- Reads what is left of a template of the given length, at most `fuel`
characters. -/
def parseIn (length : Nat) : Nat → List Char → Template
  | 0, _ | _, [] => []
  | fuel + 1, '%' :: '%' :: rest => .char '%' :: parseIn length fuel rest
  | fuel + 1, '%' :: rest =>
    let (field, rest) := readField length rest
    .field field :: parseIn length fuel rest
  | fuel + 1, c :: rest => .char c :: parseIn length fuel rest

/-- Reads a template. -/
def parse (s : String) : Template := parseIn s.length s.length s.toList

/-! ## Templates that show something -/

/-- Whether the character may stand in the name of what is shown. -/
def isWord (c : Char) : Bool := Text.isAlphanumeric c || c = '_'

/-- What follows a star or digits of any script, if one of these is there. -/
def afterSize? (s : List Char) : Option (List Char) :=
  match s with
  | '*' :: rest => some rest
  | s =>
    let isDigit := fun c : Char => (Text.digitValue? c).isSome
    if (s.takeWhile isDigit).isEmpty then none else some (s.dropWhile isDigit)

/-- Whether the character is the letter of a form in upper or lower case, or a
percent sign. -/
def isForm (c : Char) : Bool := "diouxefgcrsa%İıſ".toList.contains c.toLower

/-- Whether a field with a name starts at the percent sign before the text. -/
def startsField (s : List Char) : Bool :=
  match s with
  | '(' :: s =>
    match s.takeWhile isWord, s.dropWhile isWord with
    | _ :: _, ')' :: rest =>
      let rest := rest.dropWhile isFlag
      let rest := (afterSize? rest).getD rest
      let rest := match rest with
        | '.' :: more => (afterSize? more).getD rest
        | _ => rest
      rest.head?.any isForm
    | _, _ => false
  | _ => false

/-- Whether a template shows anything of a record: a text without any field is
refused. -/
def isUseful : List Char → Bool
  | [] => false
  | c :: rest => (c = '%' && startsField rest) || isUseful rest

/-! ## Filling templates -/

/-- The fault of a field that records do not have. -/
def missing (name : String) : Fault :=
  .ofText .value ("Formatting field not found in record: " ++ Text.quoted name)

/-- The fault of a field for which no value is left. -/
def nothingLeft : Fault := .ofText .mismatch "not enough arguments for format string"

/-- The fault of a size that is no integer. -/
def noSize : Fault := .ofText .mismatch "* wants int"

/-- A star takes what is left as its size, a number that a signed word of the
given kind and maximum can hold. -/
def takeSize (kind : String) (max : Nat) (size : Option Field.Size) (left : Option Value) :
    Except Fault (Option Value) :=
  match size, left with
  | some .taken, none => .error nothingLeft
  | some .taken, some v =>
    match v.number? with
    | none => .error noSize
    | some n =>
      if -(max : Int) - 1 ≤ n ∧ n ≤ max then .ok none
      else .error (Field.overflow ("Python int too large to convert to C " ++ kind))
  | _, left => .ok left

/-- What a field shows, given the values of names and what is left. -/
def fillField (values : String → Option Value) (left : Option Value) (f : Field) :
    Except Fault (List Char) := do
  let left ← match f.key with
    | none => pure left
    | some name =>
      match values name with
      | some v => pure (some v)
      | none => throw (missing name)
  let left ← takeSize "ssize_t" maxWidth f.width left
  let left ← takeSize "int" maxPrecision f.precision left
  match f.close, left with
  | .problem problem, _ => throw problem.fault
  | .letter _ _, none => throw nothingLeft
  | .letter letter place, some v => f.widen (← f.shownAs letter place v)

/-- What a template shows, given the values of names and what is left. -/
def fillFrom (values : String → Option Value) : Option Value → Template →
    Except Fault (List Char)
  | _, [] => .ok []
  | left, .char c :: rest => (fillFrom values left rest).map (c :: ·)
  | left, .field f :: rest => do
    let shown ← fillField values left f
    return shown ++ (← fillFrom values none rest)

/-- A template filled with the values of a record, of which `all` is the whole. -/
def fill (t : Template) (all : Value) (values : String → Option Value) : Except Fault String :=
  (fillFrom values (some all) t).map String.ofList

end Template

end TunnelRelay.Log
