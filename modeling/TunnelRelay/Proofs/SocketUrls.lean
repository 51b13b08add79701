import TunnelRelay.Proofs.Destinations
import TunnelRelay.Proofs.Splitting
/-!
# Socket URLs mean what they say

The URL of a socket is put together of a scheme in upper or lower case, an
authority, in which a user may stand before the host and a port after it, and a
tail. It is read back to the host and the port that were put into it, whatever the
user and the tail are: an `@` or a colon in either does not move the place where
the host begins and ends.
-/

namespace TunnelRelay.Destination

open Text

variable {platform : Platform} {c : Char} {n : Nat}

/-! ## The URL as it is written -/

/-- What hosts are written with. -/
def isHostChar (c : Char) : Bool := c.isAlphanum || c = '-' || c = '.'

/-- The parts that the URL of a socket is written with. The user may have an `@` and
colons, but neither ends the authority nor needs a check; the tail is empty or begins
where an authority ends. -/
structure SocketUrl where
  scheme : Scheme
  /-- The scheme in any mix of upper and lower case. -/
  written : String
  userinfo : Option String
  host : String
  port : Option Nat
  tail : String
  socket : scheme ∈ Scheme.sockets
  cased : written.toList.map Char.toLower = scheme.name.toList
  inner : ∀ info ∈ userinfo, Url.IsInner info.toList
  named : host ≠ ""
  letters : host.toList.all isHostChar = true
  ended : tail.toList.head?.all Url.endsAuthority = true
  kept : Url.IsKept tail.toList

namespace SocketUrl

variable {u v : SocketUrl}

/-- The host, and the port after a colon. -/
def location (u : SocketUrl) : String := u.host ++ u.port.elim "" fun n => ":" ++ toString n

/-- The user before an `@`, and host and port. -/
def authority (u : SocketUrl) : String := u.userinfo.elim "" (· ++ "@") ++ u.location

/-- The whole URL. -/
def text (u : SocketUrl) : String := u.written ++ "://" ++ u.authority ++ u.tail

theorem text_toList (u : SocketUrl) :
    u.text.toList =
      u.written.toList ++ ':' :: '/' :: '/' :: (u.authority.toList ++ u.tail.toList) := by
  simp [text]

theorem location_toList (u : SocketUrl) :
    u.location.toList = u.host.toList ++ u.port.elim [] fun n => ':' :: Nat.toDigits 10 n := by
  cases hport : u.port <;> simp [location, hport]

theorem authority_toList (u : SocketUrl) :
    u.authority.toList =
      (u.userinfo.elim [] fun info => info.toList ++ ['@']) ++ u.location.toList := by
  cases hinfo : u.userinfo <;> simp [authority, hinfo]

/-! ## The authority -/

/-- What hosts and ports are written with. -/
def isLocationChar (c : Char) : Bool := isHostChar c || c = ':'

theorem toNat_lt_of_isLocationChar (h : isLocationChar c = true) : c.toNat < 128 := by
  simp only [isLocationChar, isHostChar, Bool.or_eq_true, decide_eq_true_eq] at h
  obtain ((h | rfl) | rfl) | rfl := h
  · exact (toNat_of_isAlphanum h).2
  · decide
  · decide
  · decide

theorem isLocationChar_of_mem (hc : c ∈ u.location.toList) : isLocationChar c = true := by
  rw [location_toList, List.mem_append] at hc
  obtain hhost | hport := hc
  · have hchar : isHostChar c = true := List.all_eq_true.mp u.letters c hhost
    simp [isLocationChar, hchar]
  · cases hn : u.port with
    | none =>
      rw [hn] at hport
      cases hport
    | some n =>
      rw [hn] at hport
      obtain rfl | hdigit := List.mem_cons.mp hport
      · decide
      · have hchar : c.isAlphanum = true :=
          isAlphanum_iff.mpr (Or.inr (Nat.isDigit_of_mem_toDigits (by decide) (by decide) hdigit))
        simp [isLocationChar, isHostChar, hchar]

theorem ne_of_mem_location {d : Char} (hd : isLocationChar d = false)
    (hc : c ∈ u.location.toList) : c ≠ d := by
  rintro rfl
  rw [isLocationChar_of_mem hc] at hd
  cases hd

theorem isInner_location (u : SocketUrl) : Url.IsInner u.location.toList where
  plain c hc :=
    ⟨toNat_lt_of_isLocationChar (isLocationChar_of_mem hc), ne_of_mem_location (by decide) hc,
      ne_of_mem_location (by decide) hc⟩
  kept c hc :=
    ⟨ne_of_mem_location (by decide) hc, ne_of_mem_location (by decide) hc,
      ne_of_mem_location (by decide) hc⟩
  unended := by
    rw [List.all_eq_true]
    intro c hc
    have hslash : c ≠ '/' := ne_of_mem_location (by decide) hc
    have hquery : c ≠ '?' := ne_of_mem_location (by decide) hc
    have hfragment : c ≠ '#' := ne_of_mem_location (by decide) hc
    simp [Url.endsAuthority, hslash, hquery, hfragment]

theorem isInner_authority (u : SocketUrl) : Url.IsInner u.authority.toList := by
  rw [authority_toList]
  refine Url.IsInner.append ?_ u.isInner_location
  cases hinfo : u.userinfo with
  | none => exact (by decide : Url.IsInner [])
  | some info =>
    have hat : Url.IsInner ['@'] := by decide
    exact (u.inner info (by simp [hinfo])).append hat

theorem hostPort_location (u : SocketUrl) :
    Url.hostPort u.location.toList = (u.host.toList, u.port.elim [] (Nat.toDigits 10)) := by
  have hat : '@' ∉ u.location.toList := fun hc => ne_of_mem_location (by decide) hc rfl
  have hopen : '[' ∉ u.location.toList := fun hc => ne_of_mem_location (by decide) hc rfl
  have hcolon : ':' ∉ u.host.toList := fun hc =>
    absurd (List.all_eq_true.mp u.letters ':' hc) (by decide)
  rw [Url.hostPort_unbracketed hat hopen, location_toList]
  cases u.port with
  | none => simp [beforeFirst_of_not_mem hcolon, afterFirst_of_not_mem hcolon]
  | some n => simp [beforeFirst_append hcolon, afterFirst_append hcolon]

/-- The user before the last `@` is left out. -/
theorem hostPort_authority (u : SocketUrl) :
    Url.hostPort u.authority.toList = (u.host.toList, u.port.elim [] (Nat.toDigits 10)) := by
  have hat : '@' ∉ u.location.toList := fun hc => ne_of_mem_location (by decide) hc rfl
  rw [← hostPort_location, authority_toList]
  cases u.userinfo with
  | none => rfl
  | some info => simp [Url.hostPort_at hat]

/-! ## Reading -/

/-- What the URL is taken apart into. -/
def parts (u : SocketUrl) : Url.Parts where
  scheme := u.scheme.name.toList
  authority := u.authority.toList
  path := beforeFirst '?' u.tail.toList

theorem split_text (u : SocketUrl) : Url.split u.text.toList = .ok u.parts := by
  have hscheme : Url.IsScheme u.written.toList := .of_lower (u.cased ▸ u.scheme.isScheme)
  have hinner := u.isInner_authority
  obtain ⟨hauthority, htail⟩ := Url.ends_written hinner.unended u.ended
  have hplain : Url.IsPlain
      ((u.authority.toList ++ u.tail.toList).takeWhile (!Url.endsAuthority ·)) := by
    rw [hauthority]
    exact hinner.plain
  rw [text_toList, Url.split_located hscheme (hinner.kept.append u.kept) hplain,
    hauthority, htail, u.cased]
  rfl

/-- The host in lower case. -/
def lowerHost (u : SocketUrl) : String := String.ofList (u.host.toList.map Char.toLower)

theorem readHost_parts (u : SocketUrl) : readHost u.parts = u.lowerHost := by
  have hmem : ∀ c ∈ u.host.toList, c ∈ u.location.toList := fun c hc => by
    rw [location_toList]
    exact List.mem_append_left _ hc
  have hlower : Url.lowerHost u.host.toList = u.host.toList.map Char.toLower :=
    Url.lowerHost_ascii
      (fun c hc => toNat_lt_of_isLocationChar (isLocationChar_of_mem (hmem c hc)))
      (fun hc => ne_of_mem_location (by decide) (hmem _ hc) rfl)
  have hne : u.host.toList ≠ [] := by simpa using u.named
  have hhost : u.parts.host? = some (u.host.toList.map Char.toLower) := by
    rw [Url.Parts.host?, parts, hostPort_authority, ← hlower]
    split
    · exact absurd (by assumption) hne
    · rfl
  rw [readHost, hhost, lowerHost]

/-- The destination that is meant, with the given port. -/
def destination (u : SocketUrl) (n : Nat) : Destination :=
  { kind := u.scheme.kind, url := u.text, host := u.lowerHost, port := some (n : Int) }

theorem parse_text (platform : Platform) (u : SocketUrl) :
    parse platform u.text =
      match u.port with
      | some n => if n ≤ 65535 then .ok (u.destination n) else .error .invalidPort
      | none =>
        match u.scheme.defaultPort? with
        | some n => .ok (u.destination n)
        | none => .error .missingPort := by
  have hmem := Scheme.sockets_available u.socket platform
  have htext : u.parts.portText = u.port.elim [] (Nat.toDigits 10) :=
    congrArg Prod.snd u.hostPort_authority
  rw [parse_of_split u.split_text hmem rfl, ofParts_socket u.socket]
  cases hport : u.port with
  | none =>
    rw [hport] at htext
    rw [ofSocketUrl_bare htext, readHost_parts]
    rfl
  | some n =>
    rw [hport] at htext
    have hnumber : Url.portNumber? u.parts.portText = if n ≤ 65535 then some n else none :=
      htext ▸ Url.portNumber?_digits n
    by_cases hle : n ≤ 65535
    · rw [if_pos hle] at hnumber
      simp only [if_pos hle, ofSocketUrl_numbered hnumber, readHost_parts, destination]
    · have hne : u.parts.portText ≠ [] := htext ▸ Nat.toDigits_ne_nil
      rw [if_neg hle] at hnumber
      simp only [if_neg hle, ofSocketUrl_invalid hne hnumber]

theorem ofValue_text_eq_ok_iff {d : Destination} :
    ofValue platform (.string u.text) = .ok d ↔
      ∃ n, u.port.or u.scheme.defaultPort? = some n ∧ n ≤ 65535 ∧ d = u.destination n := by
  rw [ofValue_string_eq_ok_iff, parse_text]
  cases hport : u.port with
  | some n => by_cases hle : n ≤ 65535 <;> simp [hle, eq_comm]
  | none =>
    cases hdefault : u.scheme.defaultPort? with
    | some n => simp [Scheme.defaultPort?_le hdefault, eq_comm]
    | none => simp

theorem ofValue_text_isOk_iff :
    (∃ d, ofValue platform (.string u.text) = .ok d) ↔
      (∃ n ≤ 65535, u.port = some n) ∨ u.port = none ∧ u.scheme ≠ .tcp := by
  simp only [ofValue_text_eq_ok_iff]
  cases hport : u.port with
  | some n => simp
  | none =>
    have hsocket := u.socket
    cases hscheme : u.scheme with
    | tcp | http | https | tls => simp [Scheme.defaultPort?]
    | unix | pipe =>
      rw [hscheme] at hsocket
      exact absurd hsocket (by decide)

/-- Where the connections go that are sent to what the URL is read as, if it is a
destination. -/
def endpoint? (platform : Platform) (u : SocketUrl) : Option (Kind × Option String × Option Int) :=
  (ofValue platform (.string u.text)).toOption.map fun d => (d.kind, d.host, d.port)

theorem endpoint?_eq_some_iff {e : Kind × Option String × Option Int} :
    endpoint? platform u = some e ↔
      ∃ n, u.port.or u.scheme.defaultPort? = some n ∧ n ≤ 65535 ∧
        e = (u.scheme.kind, some u.lowerHost, some (n : Int)) := by
  have htoOption (r : Except Fault Destination) (d : Destination) :
      r.toOption = some d ↔ r = .ok d := by
    cases r <;> simp [Except.toOption]
  simp only [endpoint?, Option.map_eq_some_iff, htoOption, ofValue_text_eq_ok_iff]
  constructor
  · rintro ⟨d, ⟨n, hn, hle, rfl⟩, rfl⟩
    exact ⟨n, hn, hle, rfl⟩
  · rintro ⟨n, hn, hle, rfl⟩
    exact ⟨u.destination n, ⟨n, hn, hle, rfl⟩, rfl⟩

theorem endpoint?_congr (hscheme : v.scheme = u.scheme) (hhost : v.host = u.host)
    (hport : v.port = u.port) : endpoint? platform v = endpoint? platform u := by
  ext e
  simp only [endpoint?_eq_some_iff, hscheme, hport, lowerHost, hhost]

/-- **A socket URL is read as it is written**: it is a destination unless its port is
too large or missing where there is no default, and then it has the kind of its
scheme, its host in lower case, and its port or the default. Nothing else in the
URL has a part in that. -/
theorem reads_as_written (platform : Platform) (u : SocketUrl) :
    ((∃ d, ofValue platform (.string u.text) = .ok d) ↔
      (∃ n ≤ 65535, u.port = some n) ∨ u.port = none ∧ u.scheme ≠ .tcp) ∧
    (∀ d, ofValue platform (.string u.text) = .ok d →
      d.kind = u.scheme.kind ∧ d.host = some u.lowerHost ∧
        ∃ n, u.port.or u.scheme.defaultPort? = some n ∧ d.port = some (n : Int)) ∧
    ∀ v : SocketUrl, v.scheme = u.scheme → v.host = u.host → v.port = u.port →
      endpoint? platform v = endpoint? platform u := by
  refine ⟨ofValue_text_isOk_iff, ?_, fun v => endpoint?_congr⟩
  intro d hd
  obtain ⟨n, hn, -, rfl⟩ := ofValue_text_eq_ok_iff.mp hd
  exact ⟨rfl, rfl, n, hn, rfl⟩

/-- A URL in which colons and `@` stand wherever they may. -/
def mixed : SocketUrl where
  scheme := .tls
  written := "tLS"
  userinfo := some "user:p@ss"
  host := "Relay-1.Example"
  port := some 8443
  tail := "/of@there:80?#"
  socket := by decide
  cased := by decide
  inner := by
    rintro info hinfo
    obtain rfl := Option.mem_some_iff.mp hinfo
    decide
  named := by decide
  letters := by decide
  ended := by decide
  kept := by decide

theorem mixed_read :
    mixed.text = "tLS://user:p@ss@Relay-1.Example:8443/of@there:80?#" ∧
    ∃ d, ofValue .windows (.string mixed.text) = .ok d ∧
      d.kind = .https ∧ d.host = some "relay-1.example" ∧ d.port = some 8443 := by
  obtain ⟨hread, hmeant, -⟩ := reads_as_written .windows mixed
  obtain ⟨d, hd⟩ := hread.mpr (Or.inl ⟨8443, by decide, rfl⟩)
  obtain ⟨hkind, hhost, n, hn, hport⟩ := hmeant d hd
  obtain rfl := Option.some.inj hn
  exact ⟨by decide, d, hd, hkind, hhost, hport⟩

end SocketUrl

end TunnelRelay.Destination
