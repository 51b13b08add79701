import TunnelRelay.Text.CharSet
/-!
# Blank characters

White space may surround a numeral without changing it: the five layout
controls, the space, and the spaces and separators of Unicode 14. The
information separators U+001C to U+001F are not among them.
-/

namespace TunnelRelay.Text

/-- The blank characters. -/
def blank : CharSet := ⟨[
    9, 0xE, 0x20, 0x21, 0x85, 0x86, 0xA0, 0xA1, 0x1680, 0x1681, 0x2000, 0x200B, 0x2028, 0x202A,
    0x202F, 0x2030, 0x205F, 0x2060, 0x3000, 0x3001]⟩

/-- Whether the character is white space around a numeral. -/
def isBlank (c : Char) : Bool := blank.holds c

end TunnelRelay.Text
