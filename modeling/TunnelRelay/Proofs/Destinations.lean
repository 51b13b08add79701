import TunnelRelay.Proofs.Endpoints
import TunnelRelay.Proofs.Splitting
/-!
# What a URL is read as

Reading a URL always comes to an end: it gives a destination that has all that
its kind needs (`Complete`), or a fault that rejects this very URL (`Rejects`). A
destination is given exactly where the URL can be taken apart, the platform has its
scheme, and no part is missing that the scheme needs (`Scheme.Suffices`).

Each kind of URL is read by one function, and has one lemma here on what the
function gives and when.
-/

namespace TunnelRelay.Destination

variable {platform : Platform} {url : String} {parts : Url.Parts} {scheme : Scheme}
variable {d : Destination} {text : List Char} {n : Nat}

/-! ## Schemes -/

/-- The kind of the destinations with the given scheme. -/
def Scheme.kind : Scheme → Kind
  | .http => .http
  | .https | .tls => .https
  | .pipe => .pipe
  | .tcp => .tcp
  | .unix => .unix

/-- The port where a URL has none, if the scheme has such a port. -/
def Scheme.defaultPort? : Scheme → Option Nat
  | .http => some 80
  | .https | .tls => some 443
  | .tcp | .pipe | .unix => none

/-- The schemes whose destinations are reached through a socket. -/
def Scheme.sockets : List Scheme := [.tcp, .http, .https, .tls]

/-- Whether a URL with this scheme has the parts that it needs: a port, which may
be left out where there is a default, a path, or the name of a pipe. -/
def Scheme.Suffices (parts : Url.Parts) : Scheme → Prop
  | .tcp => ∃ n, Url.portNumber? parts.portText = some n
  | .http | .https | .tls =>
    parts.portText = [] ∨ ∃ n, Url.portNumber? parts.portText = some n
  | .unix => parts.authority ≠ [] ∨ parts.path ≠ []
  | .pipe => parts.path ≠ [] ∧ (parts.authority ≠ [] → parts.path ≠ ['/'])

theorem Scheme.find?_eq_some_iff :
    Scheme.find? platform text = some scheme ↔
      scheme ∈ Scheme.available platform ∧ scheme.name.toList = text := by
  constructor
  · intro h
    have hname := List.find?_some h
    exact ⟨List.mem_of_find?_eq_some h, by simpa using hname⟩
  · rintro ⟨hmem, rfl⟩
    revert hmem
    cases platform <;> cases scheme <;> decide

theorem Scheme.isScheme (scheme : Scheme) : Url.IsScheme scheme.name.toList := by
  cases scheme <;> exact ⟨⟨_, _, rfl, by decide⟩, by decide⟩

theorem Scheme.name_lower (scheme : Scheme) :
    scheme.name.toList.map Char.toLower = scheme.name.toList := by
  cases scheme <;> decide

theorem Scheme.defaultPort?_le (h : scheme.defaultPort? = some n) : n ≤ 65535 := by
  cases scheme <;> simp [Scheme.defaultPort?] at h <;> omega

theorem Scheme.sockets_available (h : scheme ∈ Scheme.sockets) (platform : Platform) :
    scheme ∈ Scheme.available platform := by
  revert h
  cases platform <;> cases scheme <;> decide

theorem ofParts_socket (h : scheme ∈ Scheme.sockets) (parts : Url.Parts) (url : String) :
    ofParts scheme parts url = ofSocketUrl scheme.kind scheme.defaultPort? parts url := by
  cases scheme with
  | tcp | http | https | tls => rfl
  | unix | pipe => exact absurd h (by decide)

/-! ## Complete destinations -/

/-- **What a destination has**, by its kind: host and port for a socket, a path
for a Unix domain socket, and for a pipe its host and full name. -/
def Complete (platform : Platform) (d : Destination) : Prop :=
  match d.kind with
  | .tcp | .http | .https =>
    (∃ host, d.host = some host ∧ host ≠ "") ∧
      (∃ port, d.port = some port ∧ 0 ≤ port ∧ port ≤ 65535) ∧ d.address = none
  | .unix =>
    platform = .posix ∧ d.host = none ∧ d.port = none ∧ ∃ path, d.address = some path ∧ path ≠ ""
  | .pipe =>
    platform = .windows ∧ d.port = none ∧ ∃ host name, d.host = some host ∧ host ≠ "" ∧
      name ≠ "" ∧ d.address = some ("\\\\" ++ host ++ "\\pipe\\" ++ name)

/-- A destination that the URL may be read as. -/
structure WellRead (platform : Platform) (url : String) (d : Destination) : Prop where
  url_eq : d.url = url
  complete : d.Complete platform
  serverName_eq : d.serverName = if d.kind = .https then d.host else none

theorem serverName_eq (d : Destination) :
    d.serverName = if d.kind = .https then d.host else none := by
  rw [serverName]
  split
  · rw [if_pos (by assumption)]
  · rw [if_neg (by assumption)]

/-! ### Sockets -/

section Sockets

variable {kind : Kind} {default : Option Nat}

theorem ofSocketUrl_bare (hport : parts.portText = []) :
    ofSocketUrl kind default parts url =
      match default with
      | some port => .ok { kind, url, host := readHost parts, port := some (port : Int) }
      | none => .error .missingPort := by
  cases default <;> simp [ofSocketUrl, readPort, hport, bind, Except.bind] <;> rfl

theorem ofSocketUrl_numbered (hport : Url.portNumber? parts.portText = some n) :
    ofSocketUrl kind default parts url =
      .ok { kind, url, host := readHost parts, port := some (n : Int) } := by
  have hread : readPort parts = .ok (some n) := by
    unfold readPort
    split
    · rename_i hnil
      rw [hnil] at hport
      cases hport
    · rw [hport]
  simp only [ofSocketUrl, hread]
  rfl

theorem ofSocketUrl_invalid (hne : parts.portText ≠ [])
    (hport : Url.portNumber? parts.portText = none) :
    ofSocketUrl kind default parts url = .error .invalidPort := by
  have hread : readPort parts = .error .invalidPort := by
    unfold readPort
    split
    · exact absurd (by assumption) hne
    · rw [hport]
  simp only [ofSocketUrl, hread]
  rfl

theorem portNumber?_le (h : Url.portNumber? text = some n) : n ≤ 65535 := by
  obtain ⟨-, hle⟩ := Option.filter_eq_some_iff.mp h
  exact of_decide_eq_true hle

/-- What a URL of a socket is read as, if it is read. -/
theorem of_ofSocketUrl_eq_ok (hdefault : ∀ n ∈ default, n ≤ 65535)
    (h : ofSocketUrl kind default parts url = .ok d) :
    ∃ n : Nat, n ≤ 65535 ∧ d = { kind, url, host := readHost parts, port := some (n : Int) } := by
  by_cases hbare : parts.portText = []
  · rw [ofSocketUrl_bare hbare] at h
    cases default with
    | none => cases h
    | some n => exact ⟨n, hdefault n rfl, (Except.ok.inj h).symm⟩
  · cases hport : Url.portNumber? parts.portText with
    | none =>
      rw [ofSocketUrl_invalid hbare hport] at h
      cases h
    | some n =>
      rw [ofSocketUrl_numbered hport] at h
      exact ⟨n, portNumber?_le hport, (Except.ok.inj h).symm⟩

theorem ofSocketUrl_isOk_iff :
    (∃ d, ofSocketUrl kind default parts url = .ok d) ↔
      parts.portText = [] ∧ default ≠ none ∨ ∃ n, Url.portNumber? parts.portText = some n := by
  by_cases hbare : parts.portText = []
  · have hnone : Url.portNumber? [] = none := rfl
    rw [ofSocketUrl_bare hbare]
    cases default <;> simp [hbare, hnone]
  · cases hport : Url.portNumber? parts.portText with
    | none => simp [ofSocketUrl_invalid hbare hport, hbare]
    | some n => simp [ofSocketUrl_numbered hport]

end Sockets

/-! ### Paths and pipes -/

theorem ofUnixUrl_eq (parts : Url.Parts) (url : String) :
    ofUnixUrl parts url =
      if parts.authority ++ parts.path = [] then .error .missingPath
      else .ok {
        kind := .unix, url, address := String.ofList (parts.authority ++ parts.path) } := by
  unfold ofUnixUrl
  split
  · rename_i hnil
    rw [if_pos hnil]
  · rename_i hne
    rw [if_neg hne]

/-- The name of a pipe, without the slash that follows a host. -/
def pipeName (parts : Url.Parts) : List Char :=
  match parts.authority, parts.path with
  | _ :: _, '/' :: name => name
  | _, name => name

/-- The host of a pipe, where no host and `localhost` are this machine. -/
def pipeHost (parts : Url.Parts) : String :=
  let host := String.ofList parts.authority
  if host = "" ∨ host = "localhost" then "." else host

theorem ofPipeUrl_eq (parts : Url.Parts) (url : String) :
    ofPipeUrl parts url =
      if pipeName parts = [] then .error .missingPipeName
      else .ok {
        kind := .pipe, url, host := pipeHost parts
        address := pipeAddress (pipeHost parts) (String.ofList (pipeName parts)) } := rfl

theorem pipeHost_ne_empty (parts : Url.Parts) : pipeHost parts ≠ "" := by
  by_cases hhost : String.ofList parts.authority = "" ∨ String.ofList parts.authority = "localhost"
  · rw [pipeHost, if_pos hhost]
    decide
  · rw [pipeHost, if_neg hhost]
    exact fun hempty => hhost (Or.inl hempty)

theorem pipeName_eq_nil_iff :
    pipeName parts = [] ↔ parts.path = [] ∨ parts.authority ≠ [] ∧ parts.path = ['/'] := by
  unfold pipeName
  split
  · rename_i hauthority hpath
    simp [hauthority, hpath]
  · rename_i hother
    constructor
    · exact Or.inl
    · rintro (hnil | ⟨hne, hslash⟩)
      · exact hnil
      · obtain ⟨c, rest, hcons⟩ := List.exists_cons_of_ne_nil hne
        exact absurd hslash (hother c rest [] hcons)

/-! ## Reading -/

/-- A destination that is read of a URL has what its kind needs. -/
theorem wellRead_of_ofParts (hscheme : scheme ∈ Scheme.available platform)
    (h : ofParts scheme parts url = .ok d) : WellRead platform url d := by
  have hsocket (hmem : scheme ∈ Scheme.sockets) : WellRead platform url d := by
    rw [ofParts_socket hmem] at h
    obtain ⟨n, hn, rfl⟩ := of_ofSocketUrl_eq_ok (fun n => Scheme.defaultPort?_le) h
    refine ⟨rfl, ?_, serverName_eq _⟩
    have hparts : (∃ host, some (readHost parts) = some host ∧ host ≠ "") ∧
        (∃ port : Int, some (n : Int) = some port ∧ 0 ≤ port ∧ port ≤ 65535) ∧
        (none : Option String) = none :=
      ⟨⟨_, rfl, readHost_ne_empty parts⟩, ⟨n, rfl, by omega, by omega⟩, rfl⟩
    cases scheme with
    | tcp | http | https | tls => exact hparts
    | unix | pipe => exact absurd hmem (by decide)
  cases scheme with
  | tcp | http | https | tls => exact hsocket (by decide)
  | unix =>
    have hplatform : platform = .posix := by
      cases platform with
      | posix => rfl
      | windows => exact absurd hscheme (by decide)
    rw [ofParts, ofUnixUrl_eq] at h
    split at h
    · cases h
    · rename_i hpath
      obtain rfl := Except.ok.inj h
      exact ⟨rfl, ⟨hplatform, rfl, rfl, _, rfl, by simpa using hpath⟩, rfl⟩
  | pipe =>
    have hplatform : platform = .windows := by
      cases platform with
      | windows => rfl
      | posix => exact absurd hscheme (by decide)
    rw [ofParts, ofPipeUrl_eq] at h
    split at h
    · cases h
    · rename_i hname
      obtain rfl := Except.ok.inj h
      have hne : String.ofList (pipeName parts) ≠ "" := by simpa using hname
      exact ⟨rfl, ⟨hplatform, rfl, _, _, rfl, pipeHost_ne_empty parts, hne, rfl⟩, rfl⟩

theorem isOk_unless_iff {missing : Prop} [Decidable missing] {r : Rejection} :
    (∃ e, (if missing then .error r else .ok d : Except Rejection Destination) = .ok e) ↔
      ¬ missing := by
  split <;> simp_all

/-- It is read exactly where no part is missing that the scheme needs. -/
theorem ofParts_isOk_iff : (∃ d, ofParts scheme parts url = .ok d) ↔ scheme.Suffices parts := by
  cases scheme with
  | tcp | http | https | tls => simp [ofParts, ofSocketUrl_isOk_iff, Scheme.Suffices]
  | unix =>
    rw [ofParts, ofUnixUrl_eq, isOk_unless_iff, List.append_eq_nil_iff,
      Decidable.not_and_iff_or_not]
    rfl
  | pipe =>
    rw [ofParts, ofPipeUrl_eq, isOk_unless_iff, pipeName_eq_nil_iff, not_or, not_and]
    rfl

/-- A fault that rejects a URL: it carries the URL, and shows it in its text. -/
structure Rejects (fault : Fault) (url : String) : Prop where
  kind_eq : fault.kind = .invalidDestination (.string url)
  shown : ∃ before after, fault.message = before ++ url ++ after

theorem Rejection.message_shows (r : Rejection) (url : String) :
    ∃ before after, before ≠ "" ∧ r.message url = before ++ url ++ after := by
  have hlast {before : String} (hbefore : before ≠ "") :
      ∃ first after, first ≠ "" ∧ before ++ url = first ++ url ++ after :=
    ⟨before, "", hbefore, String.append_empty.symm⟩
  cases r with
  | malformed problem =>
    exact ⟨"malformed forwarding url ", ": " ++ problem.message, by decide, String.append_assoc⟩
  | unknownScheme | invalidPort | missingPort | missingPath | missingPipeName
  | unsupportedTransport => exact hlast (by decide)

theorem Rejection.rejects (r : Rejection) (url : String) : Rejects (r.fault url) url := by
  obtain ⟨before, after, hbefore, hmessage⟩ := r.message_shows url
  have hset : (Value.string (r.message url)).isSet = true := by
    simp [Value.isSet, hmessage, hbefore]
  have htext : (r.fault url).message = r.message url := by
    simp only [Rejection.fault, Rejection.faultOf, Fault.invalidDestination, Value.text,
      Value.orText, hset, if_true]
    rfl
  exact ⟨rfl, before, after, htext.trans hmessage⟩

theorem parse_of_split (hsplit : Url.split url.toList = .ok parts)
    (hmem : scheme ∈ Scheme.available platform) (hname : parts.scheme = scheme.name.toList) :
    parse platform url = ofParts scheme parts url := by
  have hfind := Scheme.find?_eq_some_iff.mpr ⟨hmem, hname.symm⟩
  rw [parse, hsplit]
  simp only [hfind]

theorem parse_eq_ok_iff :
    parse platform url = .ok d ↔
      ∃ parts scheme, Url.split url.toList = .ok parts ∧
        Scheme.find? platform parts.scheme = some scheme ∧ ofParts scheme parts url = .ok d := by
  constructor
  · intro h
    unfold parse at h
    split at h
    · cases h
    · rename_i parts hparts
      split at h
      · rename_i scheme hscheme
        exact ⟨parts, scheme, hparts, hscheme, h⟩
      · cases h
  · rintro ⟨parts, scheme, hparts, hscheme, h⟩
    obtain ⟨hmem, hname⟩ := Scheme.find?_eq_some_iff.mp hscheme
    rw [parse_of_split hparts hmem hname.symm, h]

theorem ofValue_string (platform : Platform) (url : String) :
    ofValue platform (.string url) = (parse platform url).mapError (·.fault url) := rfl

theorem ofValue_string_eq_ok_iff :
    ofValue platform (.string url) = .ok d ↔ parse platform url = .ok d := by
  rw [ofValue_string]
  cases parse platform url <;> simp [Except.mapError]

/-- **Reading a URL is total**: it gives a destination that has all that its kind
needs, or a fault that rejects this URL. It gives a destination exactly where the
URL can be taken apart, has a scheme of the platform, and misses no part that the
scheme needs. -/
theorem parse_total (platform : Platform) (url : String) :
    (match ofValue platform (.string url) with
      | .ok d => WellRead platform url d
      | .error fault => Rejects fault url) ∧
    ((∃ d, ofValue platform (.string url) = .ok d) ↔
      ∃ parts scheme, Url.split url.toList = .ok parts ∧ scheme ∈ Scheme.available platform ∧
        scheme.name.toList = parts.scheme ∧ scheme.Suffices parts) := by
  constructor
  · rw [ofValue_string]
    cases hparse : parse platform url with
    | error rejection => exact rejection.rejects url
    | ok d =>
      obtain ⟨parts, scheme, -, hscheme, hread⟩ := parse_eq_ok_iff.mp hparse
      exact wellRead_of_ofParts (Scheme.find?_eq_some_iff.mp hscheme).1 hread
  · simp only [ofValue_string_eq_ok_iff]
    constructor
    · rintro ⟨d, hparse⟩
      obtain ⟨parts, scheme, hparts, hscheme, hread⟩ := parse_eq_ok_iff.mp hparse
      obtain ⟨hmem, hname⟩ := Scheme.find?_eq_some_iff.mp hscheme
      exact ⟨parts, scheme, hparts, hmem, hname, ofParts_isOk_iff.mp ⟨d, hread⟩⟩
    · rintro ⟨parts, scheme, hparts, hmem, hname, hsuffices⟩
      obtain ⟨d, hread⟩ := ofParts_isOk_iff.mpr hsuffices
      have hscheme := Scheme.find?_eq_some_iff.mpr ⟨hmem, hname⟩
      exact ⟨d, parse_eq_ok_iff.mpr ⟨parts, scheme, hparts, hscheme, hread⟩⟩

end TunnelRelay.Destination
