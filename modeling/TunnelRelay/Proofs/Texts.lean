import Mathlib.Data.List.TakeWhile
import TunnelRelay.Text.Cut
import TunnelRelay.Text.LetterCase
import TunnelRelay.Text.Numeral
/-!
# Texts are read as they were written

What is put together of pieces around a character is cut into them again, as long
as the character is not in the wrong piece: it must not stand in what comes before
its first place, nor in what follows its last. The decimal digits of a number are
read as that number, and an integer with its sign is read as itself. Letters are
told by their code points; and of the two notions of letter case, that of Unicode
and that of the scheme of a URL, which knows ASCII only, the first is the second on
ASCII texts.
-/

namespace TunnelRelay.Text

variable {c : Char} {s rest before : List Char} {n : Nat}

/-! ## Cuts -/

theorem all_ne_of_not_mem (h : c ∉ s) : ∀ d ∈ s, (d != c) = true := by
  intro d hd
  rw [bne_iff_ne]
  rintro rfl
  exact h hd

theorem beforeFirst_of_not_mem (h : c ∉ s) : beforeFirst c s = s :=
  List.takeWhile_eq_self_iff.mpr (all_ne_of_not_mem h)

theorem beforeFirst_append (h : c ∉ s) (rest : List Char) :
    beforeFirst c (s ++ c :: rest) = s := by
  rw [beforeFirst, List.takeWhile_append_of_pos (all_ne_of_not_mem h),
    List.takeWhile_cons_of_neg (by simp), List.append_nil]

theorem afterFirst_of_not_mem (h : c ∉ s) : afterFirst c s = [] := by
  rw [afterFirst, List.dropWhile_eq_nil_iff.mpr (all_ne_of_not_mem h)]
  rfl

theorem afterFirst_append (h : c ∉ s) (rest : List Char) :
    afterFirst c (s ++ c :: rest) = rest := by
  rw [afterFirst, List.dropWhile_append_of_pos (all_ne_of_not_mem h),
    List.dropWhile_cons_of_neg (by simp)]
  rfl

theorem afterLast_of_not_mem (h : c ∉ s) : afterLast c s = s := by
  have hreverse : c ∉ s.reverse := fun hmem => h (List.mem_reverse.mp hmem)
  rw [afterLast, List.takeWhile_eq_self_iff.mpr (all_ne_of_not_mem hreverse), List.reverse_reverse]

theorem afterLast_append (h : c ∉ rest) (s : List Char) : afterLast c (s ++ c :: rest) = rest := by
  have hreverse : c ∉ rest.reverse := fun hmem => h (List.mem_reverse.mp hmem)
  have hturned : (s ++ c :: rest).reverse = rest.reverse ++ c :: s.reverse := by simp
  rw [afterLast, hturned, List.takeWhile_append_of_pos (all_ne_of_not_mem hreverse),
    List.takeWhile_cons_of_neg (by simp), List.append_nil, List.reverse_reverse]

theorem beforeLast?_append (h : c ∉ rest) (s : List Char) :
    beforeLast? c (s ++ c :: rest) = some s := by
  have hreverse : c ∉ rest.reverse := fun hmem => h (List.mem_reverse.mp hmem)
  have hturned : (s ++ c :: rest).reverse = rest.reverse ++ c :: s.reverse := by simp
  rw [beforeLast?, hturned, List.dropWhile_append_of_pos (all_ne_of_not_mem hreverse),
    List.dropWhile_cons_of_neg (by simp)]
  simp only [List.reverse_reverse]

/-- Nothing is dropped from a text whose first character stays. -/
theorem dropWhile_of_head {p : Char → Bool} (h : ∀ c ∈ s.head?, p c = false) :
    s.dropWhile p = s := by
  cases s with
  | nil => rfl
  | cons c rest => exact List.dropWhile_cons_of_neg (by simp [h c rfl])

/-! ## Numerals -/

namespace Numeral

theorem value_digits (n : Nat) :
    value ((Nat.toDigits 10 n).map fun c => c.toNat - '0'.toNat) = n := by
  rw [value, List.foldl_map, ← Nat.ofDigitChars_eq_foldl, Nat.ofDigitChars_ten_toDigits]

/-- The digits of a number are read as the number, unless there are too many. -/
theorem parseAscii?_digits (n : Nat) :
    parseAscii? (Nat.toDigits 10 n) =
      if (Nat.toDigits 10 n).length ≤ maxDigits then some n else none := by
  have hdigits : (Nat.toDigits 10 n).all isAsciiDigit = true := by
    rw [List.all_eq_true]
    intro c hc
    exact Nat.isDigit_of_mem_toDigits (by decide) (by decide) hc
  simp only [parseAscii?, Nat.toDigits_ne_nil, hdigits, value_digits, ne_eq, not_false_eq_true,
    true_and]

theorem isDigit_of_mem_digits (n : Nat) : ∀ c ∈ Nat.toDigits 10 n, c.isDigit = true :=
  fun _ hc => Nat.isDigit_of_mem_toDigits (by decide) (by decide) hc

/-- The digits of ASCII are the first of all scripts. -/
theorem digitValue?_of_isDigit (h : c.isDigit = true) :
    digitValue? c = some (c.toNat - '0'.toNat) := by
  rw [Char.isDigit_iff_toNat] at h
  have hbounds : '0'.toNat = 0x30 ∧ '9'.toNat = 0x39 := ⟨rfl, rfl⟩
  have hfirst : zeros.find? (fun z => z ≤ c.toNat && c.toNat < z + 10) = some 0x30 := by
    rw [zeros, List.find?_cons_of_pos]
    simp only [Bool.and_eq_true, decide_eq_true_eq]
    omega
  rw [digitValue?, hfirst]
  rfl

theorem isBlank_of_isDigit (h : c.isDigit = true) : isBlank c = false := by
  have hall : ∀ n < 58, 48 ≤ n → CharSet.inside blank.edges n = false := by decide
  obtain ⟨hzero, hnine⟩ := Char.isDigit_iff_toNat.mp h
  exact hall c.toNat (Nat.lt_succ_of_le hnine) hzero

theorem digitRun_of_digits (h : ∀ c ∈ s, c.isDigit = true) :
    digitRun s = some (s.map fun c => c.toNat - '0'.toNat, []) := by
  induction s with
  | nil => rfl
  | cons c rest ih =>
    have hrest := ih fun d hd => h d (List.mem_cons_of_mem c hd)
    simp only [digitRun, digitValue?_of_isDigit (h c List.mem_cons_self), hrest, Option.map_some,
      List.map_cons]

theorem parseNat_digits (h : (Nat.toDigits 10 n).length ≤ maxDigits) :
    parseNat (Nat.toDigits 10 n) = .ok n := by
  have hdigits := isDigit_of_mem_digits n
  have hrun := digitRun_of_digits hdigits
  have hvalue := value_digits n
  cases hn : Nat.toDigits 10 n with
  | nil => exact absurd hn Nat.toDigits_ne_nil
  | cons c rest =>
    rw [hn] at hdigits hrun hvalue h
    rw [List.map_cons] at hrun hvalue
    have hshort : ¬ maxDigits < rest.length + 1 := Nat.not_lt.mpr h
    unfold parseNat
    split
    · rename_i heq
      obtain rfl := (List.cons.inj heq).1
      exact absurd (hdigits '_' List.mem_cons_self) (by decide)
    · rw [hrun]
      simp only [List.length_cons, List.length_map, if_neg hshort, List.all_nil, if_true, hvalue]

/-- The digits alone are a number that is not negative. -/
theorem parse_digits (h : (Nat.toDigits 10 n).length ≤ maxDigits) :
    parse (Nat.toDigits 10 n) = .ok (n : Int) := by
  have hread := parseNat_digits h
  have hdigits := isDigit_of_mem_digits n
  have hkept : (Nat.toDigits 10 n).dropWhile isBlank = Nat.toDigits 10 n :=
    dropWhile_of_head fun c hc => isBlank_of_isDigit (hdigits c (List.mem_of_head? hc))
  rw [parse, hkept]
  split
  · rename_i heq
    exact absurd (hdigits '-' (heq ▸ List.mem_cons_self)) (by decide)
  · rename_i heq
    exact absurd (hdigits '+' (heq ▸ List.mem_cons_self)) (by decide)
  · rw [hread]
    rfl

/-- An integer is written with its sign, if it has one, and its digits. -/
theorem toList_toString (z : Int) :
    (toString z).toList =
      if 0 ≤ z then Nat.toDigits 10 z.natAbs else '-' :: Nat.toDigits 10 z.natAbs := by
  show z.repr.toList = _
  rw [Int.repr_eq_if]
  split
  · rename_i h
    have habs : z.toNat = z.natAbs := by omega
    rw [habs, Nat.repr_eq_ofList_toDigits, String.toList_ofList]
  · rename_i h
    have habs : (-z).toNat = z.natAbs := by omega
    simp only [habs, Nat.repr_eq_ofList_toDigits, String.toList_append, String.toList_ofList]
    rfl

/-- Numbers are told apart by how they are written. -/
theorem toString_injective : Function.Injective (toString : Nat → String) := by
  intro m n h
  have hdigits : Nat.toDigits 10 m = Nat.toDigits 10 n := by
    rw [Nat.toString_eq_repr, Nat.toString_eq_repr, Nat.repr_eq_ofList_toDigits,
      Nat.repr_eq_ofList_toDigits] at h
    exact String.ofList_injective h
  rw [← Nat.ofDigitChars_toDigits (b := 10) (n := m) (by omega) (by omega), hdigits,
    Nat.ofDigitChars_toDigits (by omega) (by omega)]

/-- **An integer is read as it was written**, unless it has too many digits. -/
theorem parse_toString {z : Int} (h : (Nat.toDigits 10 z.natAbs).length ≤ maxDigits) :
    parse (toString z).toList = .ok z := by
  rw [toList_toString]
  split
  · rename_i hsign
    rw [parse_digits h, Int.natAbs_of_nonneg hsign]
  · have hvalue : -(z.natAbs : Int) = z := by omega
    rw [parse, List.dropWhile_cons_of_neg (by decide)]
    simp only [parseNat_digits h]
    exact congrArg Except.ok hvalue

theorem colon_not_mem_toString (z : Int) : ':' ∉ (toString z).toList := by
  have hdigits : ':' ∉ Nat.toDigits 10 z.natAbs := fun hmem =>
    absurd (isDigit_of_mem_digits _ ':' hmem) (by decide)
  rw [toList_toString]
  split
  · exact hdigits
  · rw [List.mem_cons, not_or]
    exact ⟨by decide, hdigits⟩

end Numeral

/-! ## Letters -/

theorem isUpper_iff_toNat : c.isUpper = true ↔ 'A'.toNat ≤ c.toNat ∧ c.toNat ≤ 'Z'.toNat := by
  show decide (c.val ≥ 'A'.val ∧ c.val ≤ 'Z'.val) = true ↔ _
  rw [decide_eq_true_iff]
  exact and_congr UInt32.le_iff_toNat_le UInt32.le_iff_toNat_le

theorem isLower_iff_toNat : c.isLower = true ↔ 'a'.toNat ≤ c.toNat ∧ c.toNat ≤ 'z'.toNat := by
  show (decide (c.val ≥ 'a'.val) && decide (c.val ≤ 'z'.val)) = true ↔ _
  rw [Bool.and_eq_true, decide_eq_true_iff, decide_eq_true_iff]
  exact and_congr UInt32.le_iff_toNat_le UInt32.le_iff_toNat_le

theorem isAlpha_iff : c.isAlpha = true ↔ c.isUpper = true ∨ c.isLower = true := by
  show (c.isUpper || c.isLower) = true ↔ _
  rw [Bool.or_eq_true]

theorem isAlphanum_iff : c.isAlphanum = true ↔ c.isAlpha = true ∨ c.isDigit = true := by
  show (c.isAlpha || c.isDigit) = true ↔ _
  rw [Bool.or_eq_true]

/-- Letters and digits are in ASCII, beyond the controls and the space. -/
theorem toNat_of_isAlphanum (h : c.isAlphanum = true) : ' '.toNat < c.toNat ∧ c.toNat < 128 := by
  have hbounds : ' '.toNat = 32 ∧ '0'.toNat = 48 ∧ '9'.toNat = 57 ∧ 'A'.toNat = 65 ∧
      'Z'.toNat = 90 ∧ 'a'.toNat = 97 ∧ 'z'.toNat = 122 := by decide
  rw [isAlphanum_iff, isAlpha_iff, isUpper_iff_toNat, isLower_iff_toNat,
    Char.isDigit_iff_toNat] at h
  omega

theorem toLower_eq_self (h : ¬ c.isUpper = true) : c.toLower = c :=
  dif_neg fun ⟨hfirst, hlast⟩ => h <| isUpper_iff_toNat.mpr
    ⟨UInt32.le_iff_toNat_le.mp hfirst, UInt32.le_iff_toNat_le.mp hlast⟩

/-! ## Letter case -/

/-- Of the runs that are shifted, only the first begins in ASCII. -/
theorem find?_lowerRuns_ascii {n : Nat} (h : n < 128) :
    lowerRuns.find? (·.covers n) = (lowerRuns.take 1).find? (·.covers n) := by
  have hbeyond : (lowerRuns.drop 1).all (128 ≤ ·.first) = true := by decide +kernel
  have hnone : (lowerRuns.drop 1).find? (·.covers n) = none := by
    rw [List.find?_eq_none]
    intro r hr hcovers
    have hfirst : 128 ≤ r.first := of_decide_eq_true (List.all_eq_true.mp hbeyond r hr)
    have hle : r.first ≤ n := by
      simp only [CaseRun.covers, Bool.and_eq_true, decide_eq_true_eq] at hcovers
      exact hcovers.1.1
    omega
  calc lowerRuns.find? (·.covers n)
      = (lowerRuns.take 1 ++ lowerRuns.drop 1).find? (·.covers n) := by
        rw [List.take_append_drop]
    _ = (lowerRuns.take 1).find? (·.covers n) := by
        rw [List.find?_append, hnone, Option.or_none]

theorem shiftCase_ascii (h : c.toNat < 128) : shiftCase lowerRuns c = c.toLower := by
  have hall : ∀ n < 128,
      shiftCase (lowerRuns.take 1) (Char.ofNat n) = (Char.ofNat n).toLower := by decide
  have hchar := hall c.toNat h
  rw [Char.ofNat_toNat] at hchar
  rw [← hchar, shiftCase, shiftCase, find?_lowerRuns_ascii h]

theorem lowerChar_ascii (h : c.toNat < 128) : lowerChar before c rest = [c.toLower] := by
  have hsigma : c ≠ 'Σ' := by
    rintro rfl
    exact absurd h (by decide)
  have hdotted : c ≠ 'İ' := by
    rintro rfl
    exact absurd h (by decide)
  rw [lowerChar, if_neg hsigma, if_neg hdotted, shiftCase_ascii h]

theorem lowerAfter_ascii (h : ∀ c ∈ s, c.toNat < 128) (before : List Char) :
    lowerAfter before s = s.map Char.toLower := by
  induction s generalizing before with
  | nil => rfl
  | cons c rest ih =>
    have hrest : ∀ d ∈ rest, d.toNat < 128 := fun d hd => h d (List.mem_cons_of_mem c hd)
    rw [lowerAfter, lowerChar_ascii (h c List.mem_cons_self), ih hrest]
    rfl

/-- The lower case of an ASCII text is taken character by character. -/
theorem lower_ascii (h : ∀ c ∈ s, c.toNat < 128) : lower s = s.map Char.toLower :=
  lowerAfter_ascii h []

end TunnelRelay.Text
