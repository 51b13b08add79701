import TunnelRelay.Proofs.Destinations
import TunnelRelay.Proofs.Splitting
/-!
# Unix and pipe URLs name what follows their scheme

A path is put after `unix:`, or after `unix://`, where its first part stands for an
authority, and is read back as it is: the two parts are glued together again, and
nothing is lost between them. The name of a pipe is put after `pipe:`, and then it
keeps its slash, or after a host and a slash, which does not belong to it. If the
path or the name is empty the URL is rejected.
-/

namespace TunnelRelay.Destination

open Text

variable {platform : Platform} {path name host : String}

/-- Whether the text stays as it is where the path of a URL stands. -/
structure IsPath (text : String) : Prop where
  kept : Url.IsKept text.toList
  unasked : '?' ∉ text.toList

/-! ## Without and with an authority -/

/-- Without two slashes everything after the scheme is the path. -/
theorem parse_bare (scheme : Scheme) (hscheme : scheme ∈ Scheme.available platform)
    (hpath : IsPath path) (hbare : ¬ ['/', '/'] <+: path.toList) :
    parse platform (scheme.name ++ ":" ++ path) =
      ofParts scheme
        { scheme := scheme.name.toList, authority := [], path := path.toList }
        (scheme.name ++ ":" ++ path) := by
  refine parse_of_split ?_ hscheme rfl
  have htext : (scheme.name ++ ":" ++ path).toList = scheme.name.toList ++ ':' :: path.toList := by
    simp
  rw [htext, Url.split_bare scheme.isScheme hpath.kept hbare, scheme.name_lower,
    beforeFirst_of_not_mem hpath.unasked]

/-- After two slashes the first part of the path is an authority. -/
theorem parse_located (scheme : Scheme) (hscheme : scheme ∈ Scheme.available platform)
    (hpath : IsPath path) (hplain : Url.IsPlain (path.toList.takeWhile (!Url.endsAuthority ·))) :
    parse platform (scheme.name ++ "://" ++ path) =
      ofParts scheme {
        scheme := scheme.name.toList
        authority := path.toList.takeWhile (!Url.endsAuthority ·)
        path := path.toList.dropWhile (!Url.endsAuthority ·) } (scheme.name ++ "://" ++ path) := by
  refine parse_of_split ?_ hscheme rfl
  have htext : (scheme.name ++ "://" ++ path).toList =
      scheme.name.toList ++ ':' :: '/' :: '/' :: path.toList := by simp
  have hrest : '?' ∉ path.toList.dropWhile (!Url.endsAuthority ·) := fun hmem =>
    hpath.unasked ((List.dropWhile_suffix _).mem hmem)
  rw [htext, Url.split_located scheme.isScheme hpath.kept hplain, scheme.name_lower,
    beforeFirst_of_not_mem hrest]

/-! ## Paths -/

theorem parse_unix_bare (hpath : IsPath path) (hbare : ¬ ['/', '/'] <+: path.toList) :
    parse .posix ("unix:" ++ path) =
      if path = "" then .error .missingPath
      else .ok { kind := .unix, url := "unix:" ++ path, address := path } := by
  refine (parse_bare .unix (by decide) hpath hbare).trans ?_
  simp [ofParts, ofUnixUrl_eq, Scheme.name]

theorem parse_unix_located (hpath : IsPath path)
    (hplain : Url.IsPlain (path.toList.takeWhile (!Url.endsAuthority ·))) :
    parse .posix ("unix://" ++ path) =
      if path = "" then .error .missingPath
      else .ok { kind := .unix, url := "unix://" ++ path, address := path } := by
  refine (parse_located .unix (by decide) hpath hplain).trans ?_
  simp [ofParts, ofUnixUrl_eq, Scheme.name]

/-! ## Pipes -/

theorem parse_pipe_bare (hname : IsPath name) (hbare : ¬ ['/', '/'] <+: name.toList) :
    parse .windows ("pipe:" ++ name) =
      if name = "" then .error .missingPipeName
      else .ok {
        kind := .pipe, url := "pipe:" ++ name, host := "."
        address := pipeAddress "." name } := by
  refine (parse_bare .pipe (by decide) hname hbare).trans ?_
  simp [ofParts, ofPipeUrl_eq, Scheme.name, pipeName, pipeHost]

/-- The machine that a host in the URL of a pipe stands for. -/
def machine (host : String) : String := if host = "localhost" then "." else host

/-- The slash that ends a host is the only one that is left out. -/
theorem ofPipeUrl_hosted (hhost : host ≠ "") (scheme name : List Char) (url : String) :
    ofPipeUrl { scheme, authority := host.toList, path := '/' :: name } url =
      if name = [] then .error .missingPipeName
      else .ok {
        kind := .pipe, url, host := machine host
        address := pipeAddress (machine host) (String.ofList name) } := by
  have hne : host.toList ≠ [] := by simpa using hhost
  obtain ⟨c, rest, hcons⟩ := List.exists_cons_of_ne_nil hne
  have hname : pipeName { scheme, authority := host.toList, path := '/' :: name } = name := by
    simp only [pipeName, hcons]
  have hmachine :
      pipeHost { scheme, authority := host.toList, path := '/' :: name } = machine host := by
    simp [pipeHost, machine, hhost]
  rw [ofPipeUrl_eq, hname, hmachine]

theorem hosted_toList (host name : String) :
    (host ++ "/" ++ name).toList = host.toList ++ '/' :: name.toList := by
  simp

theorem IsPath.hosted (hname : IsPath name) (hinner : Url.IsInner host.toList) :
    IsPath (host ++ "/" ++ name) where
  kept := by
    have hslash : Url.IsKept ['/'] := by decide
    rw [hosted_toList]
    exact hinner.kept.append (hslash.append hname.kept)
  unasked := by
    rw [hosted_toList, List.mem_append, List.mem_cons]
    rintro (hmem | hmem | hmem)
    · exact absurd (List.all_eq_true.mp hinner.unended '?' hmem) (by decide)
    · exact absurd hmem (by decide)
    · exact hname.unasked hmem

theorem parse_pipe_located (hhost : host ≠ "") (hinner : Url.IsInner host.toList)
    (hname : IsPath name) :
    parse .windows ("pipe://" ++ host ++ "/" ++ name) =
      if name = "" then .error .missingPipeName
      else .ok {
        kind := .pipe, url := "pipe://" ++ host ++ "/" ++ name, host := machine host
        address := pipeAddress (machine host) name } := by
  have hslash : ('/' :: name.toList).head?.all Url.endsAuthority = true := rfl
  obtain ⟨hauthority, hrest⟩ := Url.ends_written hinner.unended hslash
  have hplain : Url.IsPlain
      ((host ++ "/" ++ name).toList.takeWhile (!Url.endsAuthority ·)) := by
    rw [hosted_toList, hauthority]
    exact hinner.plain
  have havailable : Scheme.pipe ∈ Scheme.available .windows := by decide
  have hparse := parse_located .pipe havailable (hname.hosted hinner) hplain
  rw [hosted_toList, hauthority, hrest, ofParts, ofPipeUrl_hosted hhost] at hparse
  have hurl : Scheme.pipe.name ++ "://" ++ (host ++ "/" ++ name) =
      "pipe://" ++ host ++ "/" ++ name := by
    simp [Scheme.name, String.append_assoc]
  rw [← hurl, hparse]
  simp

/-! ## Reading -/

/-- Whether the platform rejects the URL. -/
def Rejected (platform : Platform) (url : String) : Prop :=
  ∃ fault, ofValue platform (.string url) = .error fault ∧ Rejects fault url

theorem rejected_of_parse {url : String} {r : Rejection} (h : parse platform url = .error r) :
    Rejected platform url := by
  refine ⟨r.fault url, ?_, r.rejects url⟩
  rw [ofValue_string, h]
  rfl

theorem isPath_empty : IsPath "" := ⟨by decide, by decide⟩

/-- **A path or the name of a pipe is read back as it was written.** A path is put
after `unix:` unless it would look like an authority there, or after `unix://` if it
begins with one that needs no check; a pipe is named on this machine or on a host.
Where nothing is written the URL is rejected. -/
theorem path_urls_read_back :
    (∀ path : String, path ≠ "" → IsPath path →
      (¬ ['/', '/'] <+: path.toList →
        ofValue .posix (.string ("unix:" ++ path)) =
          .ok { kind := .unix, url := "unix:" ++ path, address := some path }) ∧
      (Url.IsPlain (path.toList.takeWhile (!Url.endsAuthority ·)) →
        ofValue .posix (.string ("unix://" ++ path)) =
          .ok { kind := .unix, url := "unix://" ++ path, address := some path })) ∧
    (∀ name : String, name ≠ "" → IsPath name →
      (¬ ['/', '/'] <+: name.toList →
        ofValue .windows (.string ("pipe:" ++ name)) =
          .ok {
            kind := .pipe, url := "pipe:" ++ name, host := some "."
            address := some (pipeAddress "." name) }) ∧
      ∀ host : String, host ≠ "" → Url.IsInner host.toList →
        ofValue .windows (.string ("pipe://" ++ host ++ "/" ++ name)) =
          .ok {
            kind := .pipe, url := "pipe://" ++ host ++ "/" ++ name, host := some (machine host)
            address := some (pipeAddress (machine host) name) }) ∧
    Rejected .posix "unix:" ∧ Rejected .posix "unix://" ∧ Rejected .windows "pipe:" ∧
    ∀ host : String, host ≠ "" → Url.IsInner host.toList →
      Rejected .windows ("pipe://" ++ host ++ "/") := by
  refine ⟨fun path hne hpath => ⟨fun hbare => ?_, fun hplain => ?_⟩,
    fun name hne hname => ⟨fun hbare => ?_, fun host hhost hinner => ?_⟩, ?_, ?_, ?_, ?_⟩
  · exact ofValue_string_eq_ok_iff.mpr ((parse_unix_bare hpath hbare).trans (if_neg hne))
  · exact ofValue_string_eq_ok_iff.mpr ((parse_unix_located hpath hplain).trans (if_neg hne))
  · exact ofValue_string_eq_ok_iff.mpr ((parse_pipe_bare hname hbare).trans (if_neg hne))
  · exact ofValue_string_eq_ok_iff.mpr ((parse_pipe_located hhost hinner hname).trans (if_neg hne))
  · exact rejected_of_parse ((parse_unix_bare isPath_empty (by decide)).trans (if_pos rfl))
  · exact rejected_of_parse ((parse_unix_located isPath_empty (by decide)).trans (if_pos rfl))
  · exact rejected_of_parse ((parse_pipe_bare isPath_empty (by decide)).trans (if_pos rfl))
  · intro host hhost hinner
    have hparse := parse_pipe_located hhost hinner isPath_empty
    rw [String.append_empty] at hparse
    exact rejected_of_parse (hparse.trans (if_pos rfl))

/-- The documented forms of paths, and pipes on this machine and another one. -/
theorem documented_forms :
    (∀ form ∈ [
        ("unix://run/app.sock", "run/app.sock"), ("unix:run/app.sock", "run/app.sock"),
        ("unix:///run/app.sock", "/run/app.sock"), ("unix:/run/app.sock", "/run/app.sock")],
      ofValue .posix (.string form.1) =
        .ok { kind := .unix, url := form.1, address := some form.2 }) ∧
    ∀ form ∈ [
        ("pipe:mypipe", ".", "\\\\.\\pipe\\mypipe"),
        ("pipe:/mypipe", ".", "\\\\.\\pipe\\/mypipe"),
        ("pipe://server/mypipe", "server", "\\\\server\\pipe\\mypipe"),
        ("pipe://localhost/mypipe", ".", "\\\\.\\pipe\\mypipe")],
      ofValue .windows (.string form.1) =
        .ok { kind := .pipe, url := form.1, host := some form.2.1, address := some form.2.2 } := by
  obtain ⟨hpaths, hpipes, -⟩ := path_urls_read_back
  have hrelative := hpaths "run/app.sock" (by decide) ⟨by decide, by decide⟩
  have habsolute := hpaths "/run/app.sock" (by decide) ⟨by decide, by decide⟩
  have hname := hpipes "mypipe" (by decide) ⟨by decide, by decide⟩
  have hslash := hpipes "/mypipe" (by decide) ⟨by decide, by decide⟩
  constructor
  · intro form hform
    simp only [List.mem_cons, List.not_mem_nil, or_false] at hform
    obtain rfl | rfl | rfl | rfl := hform
    · exact hrelative.2 (by decide)
    · exact hrelative.1 (by decide)
    · exact habsolute.2 (by decide)
    · exact habsolute.1 (by decide)
  · intro form hform
    simp only [List.mem_cons, List.not_mem_nil, or_false] at hform
    obtain rfl | rfl | rfl | rfl := hform
    · exact hname.1 (by decide)
    · exact hslash.1 (by decide)
    · exact hname.2 "server" (by decide) (by decide)
    · exact hname.2 "localhost" (by decide) (by decide)

end TunnelRelay.Destination
