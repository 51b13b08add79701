import TunnelRelay.Forwarder.Handler
/-!
# The end points of HTTPS destinations

A destination that needs TLS is reached over a socket, so it has a host and a
port, whatever its URL leaves out. The host is never empty: a URL without one
means the local machine, and a host does not vanish when it is put in lower
case. So the transport is TLS to that host and port, and the server has to
prove to have the name of that very host.
-/

namespace TunnelRelay

theorem Text.lower_ne_nil {s : List Char} (h : s ≠ []) : Text.lower s ≠ [] := by
  cases s with
  | nil => exact absurd rfl h
  | cons c rest =>
    have hchar : Text.lowerChar [] c rest ≠ [] := by
      unfold Text.lowerChar
      split
      · split <;> exact nofun
      · split <;> exact nofun
    rw [Text.lower, Text.lowerAfter]
    exact List.append_ne_nil_of_left_ne_nil hchar _

/-- A host does not vanish in lower case. -/
theorem Url.lowerHost_ne_nil {host : List Char} (h : host ≠ []) : Url.lowerHost host ≠ [] := by
  intro hnil
  obtain ⟨hlower, hzone⟩ := List.append_eq_nil_iff.mp hnil
  have hbefore : Text.beforeFirst '%' host = [] :=
    Decidable.byContradiction fun hne => Text.lower_ne_nil hne hlower
  have hwhole := List.takeWhile_append_dropWhile (p := (· != '%')) (l := host)
  rw [hzone, List.append_nil] at hwhole
  exact h (hwhole.symm.trans hbefore)

theorem Destination.readHost_ne_empty (parts : Url.Parts) : readHost parts ≠ "" := by
  unfold readHost Url.Parts.host?
  split
  · rename_i host hhost
    split at hhost
    · cases hhost
    · rename_i written hne
      obtain rfl := Option.some.inj hhost
      intro hempty
      have hnil : Url.lowerHost (Url.hostPort parts.authority).1 = [] := by
        simpa using congrArg String.toList hempty
      exact Url.lowerHost_ne_nil (fun heq => hne heq) hnil
  · decide

/-- A destination reached through a socket has a host and a port. -/
theorem Destination.of_ofSocketUrl {kind : Kind} {default : Option Nat} {parts : Url.Parts}
    {url : String} {destination : Destination}
    (h : ofSocketUrl kind default parts url = .ok destination) :
    destination.kind = kind ∧
      ∃ host port, host ≠ "" ∧ destination.host = some host ∧ destination.port = some port := by
  simp only [ofSocketUrl, bind, Except.bind] at h
  split at h
  · cases h
  · split at h
    · rename_i port _
      obtain rfl := Except.ok.inj h
      exact ⟨rfl, _, _, readHost_ne_empty parts, rfl, rfl⟩
    · cases h

theorem Destination.kind_of_ofUnixUrl {parts : Url.Parts} {url : String}
    {destination : Destination} (h : ofUnixUrl parts url = .ok destination) :
    destination.kind = .unix := by
  unfold ofUnixUrl at h
  split at h
  · cases h
  · obtain rfl := Except.ok.inj h
    rfl

theorem Destination.kind_of_ofPipeUrl {parts : Url.Parts} {url : String}
    {destination : Destination} (h : ofPipeUrl parts url = .ok destination) :
    destination.kind = .pipe := by
  unfold ofPipeUrl at h
  extract_lets name at h
  split at h
  · cases h
  · obtain rfl := Except.ok.inj h
    rfl

/-- An HTTPS destination that was read from a URL has a host and a port. -/
theorem Destination.https_of_parse {platform : Platform} {url : String}
    {destination : Destination} (h : parse platform url = .ok destination)
    (hkind : destination.kind = .https) :
    ∃ host port, host ≠ "" ∧ destination.host = some host ∧ destination.port = some port := by
  unfold parse at h
  split at h
  · cases h
  · split at h
    · rename_i scheme _
      cases scheme with
      | tcp | http | https | tls => exact (of_ofSocketUrl h).2
      | unix => exact absurd ((kind_of_ofUnixUrl h).symm.trans hkind) nofun
      | pipe => exact absurd ((kind_of_ofPipeUrl h).symm.trans hkind) nofun
    · cases h

/-- **The transport to an HTTPS destination is TLS to its host and port**, and
the server must prove to have the name of the host. -/
theorem Handler.transportOf_https {platform : Platform} {url : String}
    {destination : Destination} (h : Destination.parse platform url = .ok destination)
    (hkind : destination.kind = .https) :
    ∃ host port, destination.host = some host ∧ destination.port = some port ∧
      transportOf platform url = .ok (.tls host (some port) host) := by
  obtain ⟨host, port, hne, hhost, hport⟩ := Destination.https_of_parse h hkind
  refine ⟨host, port, hhost, hport, ?_⟩
  have hcreate : (Registry.standard platform).create destination =
      .ok (Registry.withPort .ofTls 443 destination.endpoint) := by
    unfold Registry.create
    rw [hkind]
    cases platform <;> rfl
  rw [transportOf, h]
  simp only [hcreate, Registry.withPort, Transport.ofTls, Destination.endpoint,
    Destination.serverName, hkind, hhost, hport, Transport.hostOr, if_neg hne, Option.getD_some]

end TunnelRelay
