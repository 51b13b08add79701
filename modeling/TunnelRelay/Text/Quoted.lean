import TunnelRelay.Text.Printable
/-!
# Quoted text

Messages that name a piece of text show it between quotes, with the
characters that cannot be seen written as escapes. `encode` chooses the quote
that needs no escape where it can: single quotes, or double quotes around a
text that has single quotes and no double ones.
-/

namespace TunnelRelay.Text.Quoted

/-- The single quote. -/
def single : Char := '\x27'

/-- The double quote. -/
def double : Char := '\x22'

/-- The escape character. -/
def backslash : Char := '\x5c'

/-- The quote that goes around a text. -/
def quoteFor (s : List Char) : Char :=
  if s.contains single && !s.contains double then double else single

/-- The last `width` hexadecimal digits of a number. -/
def hex : Nat → Nat → List Char
  | 0, _ => []
  | width + 1, n => hex width (n / 16) ++ [Nat.digitChar (n % 16)]

/-- A character that cannot be seen, by its code point. -/
def escapeCode (n : Nat) : List Char :=
  if n < 0x100 then backslash :: 'x' :: hex 2 n
  else if n < 0x10000 then backslash :: 'u' :: hex 4 n
  else backslash :: 'U' :: hex 8 n

/-- A character as it stands between the given quotes. -/
def escape (quote c : Char) : List Char :=
  if c = quote || c = backslash then [backslash, c]
  else if c = '\n' then [backslash, 'n']
  else if c = '\r' then [backslash, 'r']
  else if c = '\t' then [backslash, 't']
  else if isPrintable c then [c]
  else escapeCode c.toNat

/-- A text in which all characters beyond ASCII are written by their code
points. -/
def toAscii (s : List Char) : List Char :=
  s.flatMap fun c => if c.toNat < 0x80 then [c] else escapeCode c.toNat

/-- The quoted form of a text. -/
def encode (s : List Char) : List Char :=
  quoteFor s :: s.flatMap (escape (quoteFor s)) ++ [quoteFor s]

end TunnelRelay.Text.Quoted

namespace TunnelRelay.Text

/-- The quoted form of a string. -/
def quoted (s : String) : String := String.ofList (Quoted.encode s.toList)

end TunnelRelay.Text
