import TunnelRelay.Fault
import TunnelRelay.Text.Cut
/-!
# Colors of terminals

Names of colors and renditions, and the escape sequences that select them. A
name is a hue, which may be light, bold or thin; `fg_` before it says that the
text has the color, `bg_` that the background has. Numbers from 0 to 255 are
hues of the larger palette.
-/

namespace TunnelRelay.Log.Color

open Text (after?)

/-- The escape sequence that selects the given renditions. -/
def sequence (renditions : List Nat) : String :=
  "\x1b[" ++ String.intercalate ";" (renditions.map toString) ++ "m"

/-- The sequence that ends all renditions. -/
def reset : String := sequence [0]

/-- The hues, in the order of their numbers. -/
def hues : List String := ["black", "red", "green", "yellow", "blue", "purple", "cyan", "white"]

/-- The number of a hue. -/
def hue? (s : List Char) : Option Nat := hues.findIdx? (·.toList = s)

/-- The number of a hue of the larger palette. -/
def paletteHue? (s : List Char) : Option Nat :=
  (List.range 256).find? fun n => (toString n).toList = s

/-- The rendition of text in a hue. -/
def foreground? (s : List Char) : Option Nat :=
  (hue? s).map (30 + ·) <|> ((after? "light_".toList s).bind hue?).map (90 + ·)

/-- The rendition of a background in a hue, of which the light ones also count
as bold. -/
def background? (s : List Char) : Option Nat :=
  (hue? s).map (40 + ·) <|>
    (((after? "light_".toList s) <|> (after? "bold_".toList s)).bind hue?).map (100 + ·)

/-- The renditions of text in a color. -/
def textColor? (s : List Char) : Option (List Nat) :=
  (foreground? s).map ([·]) <|>
    ((after? "bold_".toList s).bind foreground?).map ([1, ·]) <|>
    ((after? "thin_".toList s).bind foreground?).map ([2, ·])

/-- The renditions of a name. -/
def renditions? (s : List Char) : Option (List Nat) :=
  if s = "reset".toList then some [0]
  else if s = "bold".toList then some [1]
  else if s = "thin".toList then some [2]
  else
    match after? "bg_".toList s, after? "fg_".toList s with
    | some s, _ => (background? s).map ([·]) <|> (paletteHue? s).map ([48, 5, ·])
    | none, some s => textColor? s <|> (paletteHue? s).map ([38, 5, ·])
    | none, none => textColor? s

/-- The escape sequence of a name. -/
def named? (name : String) : Option String := (renditions? name.toList).map sequence

/-- The fault of a name that is no color. -/
def unknown (name : String) : Fault := .ofText .key name

/-- The escape sequences of several names with commas between them. -/
def parse (names : String) : Except Fault String := do
  let present := (Text.pieces ',' names.toList).filter (· ≠ [])
  let sequences ← present.mapM fun name =>
    match named? (String.ofList name) with
    | some s => .ok s
    | none => .error (unknown (String.ofList name))
  return String.join sequences

end TunnelRelay.Log.Color
