import TunnelRelay.Proofs.Texts
import TunnelRelay.Url.Split
/-!
# Written URLs are taken apart again

A URL that is put together of a scheme, an authority and what follows falls into
the same parts again, as long as each part keeps to itself: the scheme is one
(`IsScheme`), the authority is plain ASCII without brackets (`IsPlain`), which
needs no check, and nothing in the URL would be left out of it (`IsKept`). What
follows two slashes up to the next delimiter is the authority; where no two
slashes follow the scheme there is none.
-/

namespace TunnelRelay.Url

open Text

variable {scheme text authority rest : List Char} {c : Char}

/-! ## The parts -/

/-- Whether the text is the scheme of a URL. -/
structure IsScheme (scheme : List Char) : Prop where
  first : ∃ c rest, scheme = c :: rest ∧ c.isAlpha = true
  chars : scheme.all isSchemeChar = true

/-- Whether the text stays in a URL as it is: tabs and line ends are left out. -/
def IsKept (text : List Char) : Prop := ∀ c ∈ text, c ≠ '\t' ∧ c ≠ '\n' ∧ c ≠ '\r'

/-- Whether an authority needs no check. -/
def IsPlain (authority : List Char) : Prop := ∀ c ∈ authority, c.toNat < 128 ∧ c ≠ '[' ∧ c ≠ ']'

/-- Whether the text stays in an authority as it is. -/
structure IsInner (text : List Char) : Prop where
  plain : IsPlain text
  kept : IsKept text
  unended : text.all (!endsAuthority ·) = true

-- by the characters of the text, not by all characters that there are
instance (text : List Char) : Decidable (IsKept text) :=
  List.decidableBAll (fun c : Char => c ≠ '\t' ∧ c ≠ '\n' ∧ c ≠ '\r') text

instance (authority : List Char) : Decidable (IsPlain authority) :=
  List.decidableBAll (fun c : Char => c.toNat < 128 ∧ c ≠ '[' ∧ c ≠ ']') authority

instance (text : List Char) : Decidable (IsInner text) :=
  decidable_of_iff (IsPlain text ∧ IsKept text ∧ text.all (!endsAuthority ·) = true)
    ⟨fun ⟨hplain, hkept, hunended⟩ => ⟨hplain, hkept, hunended⟩,
      fun h => ⟨h.plain, h.kept, h.unended⟩⟩

theorem IsKept.append (h : IsKept text) (hrest : IsKept rest) : IsKept (text ++ rest) :=
  List.forall_mem_append.mpr ⟨h, hrest⟩

theorem IsPlain.append (h : IsPlain text) (hrest : IsPlain rest) : IsPlain (text ++ rest) :=
  List.forall_mem_append.mpr ⟨h, hrest⟩

theorem IsInner.append (h : IsInner text) (hrest : IsInner rest) : IsInner (text ++ rest) where
  plain := h.plain.append hrest.plain
  kept := h.kept.append hrest.kept
  unended := by
    rw [List.all_append, h.unended, hrest.unended]
    rfl

theorem IsScheme.kept (h : IsScheme scheme) : IsKept scheme := by
  intro c hc
  have hchar : isSchemeChar c = true := List.all_eq_true.mp h.chars c hc
  refine ⟨?_, ?_, ?_⟩ <;> rintro rfl <;> exact absurd hchar (by decide)

theorem isAlpha_of_toLower (h : c.toLower.isAlpha = true) : c.isAlpha = true := by
  by_cases hupper : c.isUpper = true
  · exact isAlpha_iff.mpr (Or.inl hupper)
  · rwa [toLower_eq_self hupper] at h

theorem isSchemeChar_of_toLower (h : isSchemeChar c.toLower = true) : isSchemeChar c = true := by
  by_cases hupper : c.isUpper = true
  · have hletter : c.isAlphanum = true :=
      isAlphanum_iff.mpr (Or.inl (isAlpha_iff.mpr (Or.inl hupper)))
    simp [isSchemeChar, hletter]
  · rwa [toLower_eq_self hupper] at h

/-- A scheme may be written in upper and lower case. -/
theorem IsScheme.of_lower (h : IsScheme (scheme.map Char.toLower)) : IsScheme scheme where
  first := by
    obtain ⟨c, rest, hcons, halpha⟩ := h.first
    obtain ⟨d, others, rfl, rfl, -⟩ := List.map_eq_cons_iff.mp hcons
    exact ⟨d, others, rfl, isAlpha_of_toLower halpha⟩
  chars := by
    rw [List.all_eq_true]
    intro c hc
    exact isSchemeChar_of_toLower (List.all_eq_true.mp h.chars _ (List.mem_map_of_mem hc))

theorem IsScheme.colon_not_mem (h : IsScheme scheme) : ':' ∉ scheme := fun hmem =>
  absurd (List.all_eq_true.mp h.chars ':' hmem) (by decide)

/-! ## Taking apart -/

theorem not_isAlpha_of_le_space (h : c ≤ ' ') : ¬ c.isAlpha = true := by
  intro halpha
  have hbeyond := (toNat_of_isAlphanum (isAlphanum_iff.mpr (Or.inl halpha))).1
  exact absurd (UInt32.le_iff_toNat_le.mp h) (Nat.not_le.mpr hbeyond)

/-- A URL that begins with a scheme and has nothing that would be left out stays
as it is. -/
theorem clean_written (hscheme : IsScheme scheme) (hrest : IsKept rest) :
    clean (scheme ++ rest) = scheme ++ rest := by
  obtain ⟨first, others, rfl, halpha⟩ := hscheme.first
  have hvisible : ¬ first ≤ ' ' := fun hle => not_isAlpha_of_le_space hle halpha
  have hstart : (first :: others ++ rest).dropWhile (· ≤ ' ') = first :: others ++ rest :=
    List.dropWhile_cons_of_neg (by simpa using hvisible)
  rw [clean, hstart, List.filter_eq_self]
  intro c hc
  obtain ⟨htab, hline, hreturn⟩ := hscheme.kept.append hrest c hc
  simp [htab, hline, hreturn]

theorem splitScheme_written (hscheme : IsScheme scheme) (rest : List Char) :
    splitScheme (scheme ++ ':' :: rest) = (scheme.map Char.toLower, rest) := by
  have hbefore := beforeFirst_append hscheme.colon_not_mem rest
  have hafter := afterFirst_append hscheme.colon_not_mem rest
  obtain ⟨first, others, rfl, halpha⟩ := hscheme.first
  simp only [List.cons_append] at hbefore hafter ⊢
  have hcolon : (first :: (others ++ ':' :: rest)).contains ':' = true := by simp
  simp only [splitScheme, hbefore, hafter, hcolon, halpha, hscheme.chars, Bool.and_self, if_true]

theorem checkBrackets_plain (h : IsPlain authority) : checkBrackets authority = .ok () := by
  have hopen : authority.contains '[' = false := by
    simpa using fun hmem => (h '[' hmem).2.1 rfl
  have hclose : authority.contains ']' = false := by
    simpa using fun hmem => (h ']' hmem).2.2 rfl
  simp only [checkBrackets, hopen, hclose]

/-- All characters that hide a delimiter are beyond ASCII. -/
theorem checkForms_plain (h : IsPlain authority) : checkForms authority = .ok () := by
  have hbeyond : ∀ n ∈ delimiterForms, 128 ≤ n := by decide
  have hnone : ¬ (authority.any fun c => delimiterForms.contains c.toNat) = true := by
    rw [List.any_eq_true]
    rintro ⟨c, hc, hform⟩
    exact absurd (h c hc).1 (Nat.not_lt.mpr (hbeyond _ (List.contains_iff_mem.mp hform)))
  exact if_neg hnone

theorem split_of_parts {url : List Char} (hscheme : splitScheme (clean url) = (scheme, text))
    (hauthority : splitAuthority text = (authority, rest)) (hplain : IsPlain authority) :
    split url = .ok { scheme, authority, path := beforeFirst '?' rest } := by
  simp only [split, hscheme, hauthority, checkBrackets_plain hplain, checkForms_plain hplain]
  rfl

/-- **What follows two slashes has an authority**, up to the next delimiter. -/
theorem split_located (hscheme : IsScheme scheme) (hkept : IsKept text)
    (hplain : IsPlain (text.takeWhile (!endsAuthority ·))) :
    split (scheme ++ ':' :: '/' :: '/' :: text) = .ok {
      scheme := scheme.map Char.toLower
      authority := text.takeWhile (!endsAuthority ·)
      path := beforeFirst '?' (text.dropWhile (!endsAuthority ·)) } := by
  have hmarks : IsKept [':', '/', '/'] := by decide
  have hclean := clean_written hscheme (hmarks.append hkept)
  have hauthority : splitAuthority ('/' :: '/' :: text) =
      (text.takeWhile (!endsAuthority ·), text.dropWhile (!endsAuthority ·)) := rfl
  refine split_of_parts ?_ hauthority hplain
  exact (congrArg splitScheme hclean).trans (splitScheme_written hscheme _)

/-- **What follows no two slashes has no authority.** -/
theorem split_bare (hscheme : IsScheme scheme) (hkept : IsKept text)
    (hbare : ¬ ['/', '/'] <+: text) :
    split (scheme ++ ':' :: text) = .ok {
      scheme := scheme.map Char.toLower, authority := [], path := beforeFirst '?' text } := by
  have hmark : IsKept [':'] := by decide
  have hclean := clean_written hscheme (hmark.append hkept)
  have hauthority : splitAuthority text = ([], text) := by
    unfold splitAuthority
    split
    · exact absurd (List.prefix_append ['/', '/'] _) hbare
    · rfl
  refine split_of_parts ?_ hauthority (by decide)
  exact (congrArg splitScheme hclean).trans (splitScheme_written hscheme text)

/-- An authority ends where the next delimiter stands, if there is one. -/
theorem ends_written (h : authority.all (!endsAuthority ·) = true)
    (hrest : rest.head?.all endsAuthority = true) :
    (authority ++ rest).takeWhile (!endsAuthority ·) = authority ∧
      (authority ++ rest).dropWhile (!endsAuthority ·) = rest := by
  have hall : ∀ c ∈ authority, (!endsAuthority c) = true := List.all_eq_true.mp h
  rw [List.takeWhile_append_of_pos hall, List.dropWhile_append_of_pos hall]
  cases rest with
  | nil => exact ⟨List.append_nil authority, rfl⟩
  | cons c rest =>
    have hfirst : endsAuthority c = true := hrest
    have hends : ¬ (!endsAuthority c) = true := by simp [hfirst]
    rw [List.takeWhile_cons_of_neg (p := (!endsAuthority ·)) hends,
      List.dropWhile_cons_of_neg (p := (!endsAuthority ·)) hends]
    exact ⟨List.append_nil authority, rfl⟩

/-! ## Host and port -/

/-- What stands before the last `@` does not count. -/
theorem hostPort_at {location : List Char} (hat : '@' ∉ location) (info : List Char) :
    hostPort (info ++ '@' :: location) = hostPort location := by
  simp only [hostPort, afterLast_append hat, afterLast_of_not_mem hat]

theorem hostPort_unbracketed {location : List Char} (hat : '@' ∉ location)
    (hopen : '[' ∉ location) :
    hostPort location = (beforeFirst ':' location, afterFirst ':' location) := by
  have hnone : ¬ location.contains '[' = true := by simpa using hopen
  simp only [hostPort, afterLast_of_not_mem hat, if_neg hnone]

theorem lowerHost_ascii {host : List Char} (hascii : ∀ c ∈ host, c.toNat < 128)
    (hzone : '%' ∉ host) : lowerHost host = host.map Char.toLower := by
  have hnil : host.dropWhile (· != '%') = [] :=
    List.dropWhile_eq_nil_iff.mpr (all_ne_of_not_mem hzone)
  rw [lowerHost, beforeFirst_of_not_mem hzone, hnil, List.append_nil, lower_ascii hascii]

/-- The digits of a number are read as the port with that number, if there is one. -/
theorem portNumber?_digits (n : Nat) :
    portNumber? (Nat.toDigits 10 n) = if n ≤ 65535 then some n else none := by
  by_cases hle : n ≤ 65535
  · have hlength : (Nat.toDigits 10 n).length ≤ 5 :=
      (Nat.length_toDigits_le_iff (by decide) (by decide)).mpr (by omega)
    have hread : Numeral.parseAscii? (Nat.toDigits 10 n) = some n := by
      rw [Numeral.parseAscii?_digits, if_pos (hlength.trans (by decide))]
    rw [portNumber?, hread, if_pos hle, Option.filter_some, if_pos (decide_eq_true hle)]
  · rw [portNumber?, Numeral.parseAscii?_digits, if_neg hle]
    split
    · rw [Option.filter_some, if_neg (by simpa using hle)]
    · rfl

end TunnelRelay.Url
