import TunnelRelay.Leg
/-!
# The head of a request

The head of an HTTP/1.1 request is a request line and header lines, ended by
an empty line. `examine` looks at what has arrived so far and says whether the
head is complete and well formed, can never become so, or needs more bytes.
It depends on the bytes alone, not on the chunks they came in, and on nothing
after the empty line.
-/

namespace TunnelRelay.Http

/-- The byte of an ASCII character. -/
def ascii (c : Char) : UInt8 := UInt8.ofNat c.toNat

/-- The bytes of a text of ASCII characters. -/
def asciiBytes (s : String) : Bytes := s.toList.map ascii

/-- The line feed. -/
def lf : UInt8 := 10
/-- The carriage return. -/
def cr : UInt8 := 13
/-- The space. -/
def space : UInt8 := 32
/-- The horizontal tab. -/
def tab : UInt8 := 9

/-! ## Bytes of the grammar -/

/-- Whether the byte is a decimal digit. -/
def isDigit (b : UInt8) : Bool := ascii '0' ≤ b && b ≤ ascii '9'

/-- Whether the byte is an ASCII letter. -/
def isLetter (b : UInt8) : Bool :=
  (ascii 'a' ≤ b && b ≤ ascii 'z') || (ascii 'A' ≤ b && b ≤ ascii 'Z')

/-- The punctuation that may stand in tokens. -/
def tokenMarks : Bytes := asciiBytes "-!#$%&'*+.^_\x60|~"

/-- Whether the byte may stand in a token. -/
def isTokenByte (b : UInt8) : Bool := isDigit b || isLetter b || tokenMarks.contains b

/-- Whether the byte is a visible ASCII character. -/
def isVisible (b : UInt8) : Bool := 0x21 ≤ b && b ≤ 0x7e

/-- Whether the byte is a space or a tab. -/
def isBlank (b : UInt8) : Bool := b = space || b = tab

/-- Whether the byte may stand in the value of a header: all but NUL and the
controls that break lines or pages. -/
def isValueByte (b : UInt8) : Bool := b ≠ 0 && !(lf ≤ b && b ≤ cr)

/-- The lower case of an ASCII letter. -/
def lowerByte (b : UInt8) : UInt8 := if ascii 'A' ≤ b && b ≤ ascii 'Z' then b + 32 else b

/-! ## Lines -/

/-- A line without the carriage return at its end. -/
def stripCr (line : Bytes) : Bytes := if line.getLast? = some cr then line.dropLast else line

/-- The lines up to the first empty one, given what has been read of the
current line, last byte first; `none` if no empty line has arrived. -/
def linesFrom (current : Bytes) : Bytes → Option (List Bytes)
  | [] => none
  | b :: rest =>
    if b = lf then
      match stripCr current.reverse with
      | [] => some []
      | line => (linesFrom [] rest).map (line :: ·)
    else linesFrom (b :: current) rest

/-- The lines before the first empty line. -/
def headLines? (buffer : Bytes) : Option (List Bytes) := linesFrom [] buffer

/-! ## The request -/

/-- A request, as far as its head tells. -/
structure Request where
  method : Bytes
  target : Bytes
  version : Bytes
  headers : List (Bytes × Bytes)
  deriving DecidableEq, Repr

/-- The version after a request target. -/
def version? (s : Bytes) : Option Bytes :=
  if s.take 5 = asciiBytes "HTTP/" then
    match s.drop 5 with
    | [major, dot, minor] =>
      if isDigit major && dot = ascii '.' && isDigit minor then some [major, dot, minor] else none
    | _ => none
  else none

/-- Method, target and version of a request line. -/
def requestLine? (line : Bytes) : Option (Bytes × Bytes × Bytes) :=
  let method := line.takeWhile isTokenByte
  match line.dropWhile isTokenByte with
  | sp :: rest =>
    let target := rest.takeWhile isVisible
    match rest.dropWhile isVisible with
    | sp' :: rest =>
      if method ≠ [] && target ≠ [] && sp = space && sp' = space then
        (version? rest).map (method, target, ·)
      else none
    | [] => none
  | [] => none

/-- The bytes without the spaces and tabs at both ends. -/
def trim (s : Bytes) : Bytes := ((s.dropWhile isBlank).reverse.dropWhile isBlank).reverse

/-- Name and value of a header line. -/
def header? (line : Bytes) : Option (Bytes × Bytes) :=
  let name := line.takeWhile isTokenByte
  match line.dropWhile isTokenByte with
  | colon :: rest =>
    let value := trim rest
    if name ≠ [] && colon = ascii ':' && value.all isValueByte then some (name, value) else none
  | [] => none

/-- Whether a line starts with a space or a tab, and so continues the one
before. -/
def continues (line : Bytes) : Bool :=
  match line with
  | b :: _ => isBlank b
  | [] => false

/-- The lines from `last` on, where a continuation is joined to the line before
by one space. -/
def unfoldFrom (last : Bytes) : List Bytes → List Bytes
  | [] => [last]
  | line :: rest =>
    if continues line then unfoldFrom (last ++ space :: line.dropWhile isBlank) rest
    else last :: unfoldFrom line rest

/-- Header lines with their continuations joined; `none` if the first line
continues nothing. -/
def unfold : List Bytes → Option (List Bytes)
  | [] => some []
  | line :: rest => if continues line then none else some (unfoldFrom line rest)

/-- The values of the headers with the given name, which is compared without
regard to case. -/
def valuesOf (name : String) (headers : List (Bytes × Bytes)) : List Bytes :=
  (headers.filter fun h => h.1.map lowerByte = asciiBytes name).map (·.2)

/-- The pieces of a value between commas. -/
def commaPieces : Bytes → List Bytes
  | [] => [[]]
  | b :: rest =>
    match commaPieces rest with
    | piece :: pieces => if b = ascii ',' then [] :: piece :: pieces else (b :: piece) :: pieces
    | [] => [[b]]

/-- Whether all declarations of the length of the body agree on one number of
at most twenty digits. -/
def lengthsAgree (values : List Bytes) : Bool :=
  match (values.flatMap commaPieces).map trim with
  | [] => true
  | length :: others =>
    others.all (· = length) && length ≠ [] && length.all isDigit && length.length ≤ 20

/-- Whether the coding of the body is declared at most once, as `chunked`. -/
def codingKnown (values : List Bytes) : Bool :=
  values.length ≤ 1 && values.all fun v => v.map lowerByte = asciiBytes "chunked"

/-- Whether the host is declared as often as the version asks for: exactly
once in version 1.1 and at most once in others. -/
def hostsFit (version : Bytes) (values : List Bytes) : Bool :=
  values.length ≤ 1 && (version ≠ asciiBytes "1.1" || values ≠ [])

/-- The request of the lines of a head, if they are well formed. -/
def Request.ofLines? (lines : List Bytes) : Option Request :=
  match lines with
  | [] => none
  | first :: rest => do
    let (method, target, version) ← requestLine? first
    let headers ← (← unfold rest).mapM header?
    if lengthsAgree (valuesOf "content-length" headers) &&
        codingKnown (valuesOf "transfer-encoding" headers) &&
        hostsFit version (valuesOf "host" headers) then
      some { method, target, version, headers }
    else none

/-! ## Looking at what has arrived -/

/-- The greatest number of bytes that may be waiting for the end of a head. -/
def headLimit : Nat := 65536

/-- What the bytes so far amount to. -/
inductive Verdict where
  | incomplete
  | closed
  | invalid
  | request (request : Request)
  deriving DecidableEq, Repr

/-- Looks at the bytes that have arrived; `ended` says that no more will. A
head that is complete counts whatever its size. -/
def examine (buffer : Bytes) (ended : Bool) : Verdict :=
  match headLines? buffer with
  | some lines =>
    match Request.ofLines? lines with
    | some request => .request request
    | none => .invalid
  | none =>
    match buffer with
    | [] => if ended then .closed else .incomplete
    | first :: _ =>
      if first < 0x21 || headLimit < buffer.length || ended then .invalid else .incomplete

end TunnelRelay.Http
