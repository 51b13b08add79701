/-!
# Decimal forms

The forms of a whole number as a decimal fraction: with a fixed number of
places, in scientific notation, and the general form, which takes the shorter
of the two and drops the zeros at its end. Where digits are left out the number
is rounded, and a half goes to the even neighbour.

Numbers are shown as the nearest number whose significand has 53 bits, so
`toBinary64?` comes first; beyond the greatest of these there is no form.
-/

namespace TunnelRelay.Text.Decimal

/-- A quotient rounded to the nearest integer; a half goes to the even one. -/
def roundDiv (n d : Nat) : Nat :=
  if d < 2 * (n % d) ∨ (2 * (n % d) = d ∧ n / d % 2 = 1) then n / d + 1 else n / d

/-- The nearest number whose significand has 53 bits, if it is below two to the
power of 1024. -/
def toBinary64? (n : Nat) : Option Nat :=
  let unit := Nat.pow 2 (n.log2 + 1 - 53)
  let rounded := roundDiv n unit * unit
  if rounded < Nat.pow 2 1024 then some rounded else none

/-- So many zeros. -/
def zeroDigits (count : Nat) : List Char := List.replicate count '0'

/-- The digits of a number. -/
def digits (n : Nat) : List Char := Nat.toDigits 10 n

/-- Whole part and fraction with a point between them. A point after which
nothing stands is shown if `point` says so. -/
def join (whole fraction : List Char) (point : Bool) : List Char :=
  if fraction ≠ [] then whole ++ '.' :: fraction else if point then whole ++ ['.'] else whole

/-- The given number of leading digits, rounded, and the power of ten that the
first of them stands for. -/
def leading (n count : Nat) : List Char × Nat :=
  let all := digits n
  if all.length ≤ count then (all ++ zeroDigits (count - all.length), all.length - 1)
  else
    let cut := digits (roundDiv n (Nat.pow 10 (all.length - count)))
    if cut.length ≤ count then (cut, all.length - 1) else (cut.take count, all.length)

/-- An exponent, of at least two digits. -/
def exponent (mark : Char) (e : Nat) : List Char :=
  mark :: '+' :: (if e < 10 then '0' :: digits e else digits e)

/-- The form with a fixed number of places. -/
def fixed (n places : Nat) (point : Bool) : List Char :=
  join (digits n) (zeroDigits places) point

/-- The form with one digit before the point and so many after it. -/
def scientific (mark : Char) (n places : Nat) (point : Bool) : List Char :=
  let (ds, e) := leading n (places + 1)
  join (ds.take 1) (ds.drop 1) point ++ exponent mark e

/-- The digits without the zeros at their end. -/
def dropZeros (ds : List Char) : List Char := (ds.reverse.dropWhile (· = '0')).reverse

/-- The form with so many digits, of which zeros at the end of the fraction are
shown if `point` says so. -/
def general (mark : Char) (n precision : Nat) (point : Bool) : List Char :=
  let count := max 1 precision
  let (ds, e) := leading n (if point then count else min count (digits n).length)
  let trim := if point then id else dropZeros
  if e < count then join (ds.take (e + 1)) (trim (ds.drop (e + 1))) point
  else join (ds.take 1) (trim (ds.drop 1)) point ++ exponent mark e

end TunnelRelay.Text.Decimal
