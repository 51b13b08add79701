import Mathlib.Data.List.Basic
import TunnelRelay.Proofs.Texts
import TunnelRelay.SocketAddress
/-!
# Addresses are read as they were written

The name of an internet socket is written as host and port, and an address to
listen on is read from such a text. The two do not go by the same rule: brackets
are put around a host that has colons, and taken off wherever they stand at an end;
the text is cut at its last colon, which is the one before the port, for a port has
none. So a host is read back unless it has brackets at its own ends
(`stripBrackets_bracketed`), whatever colons and brackets are inside, and two
different names have different texts.
-/

namespace TunnelRelay.ListenAddress

open Text

variable {host : String} {port : Int}

/-- A host without brackets at its ends. -/
structure IsBare (host : String) : Prop where
  nonempty : host ≠ ""
  first : ∀ c ∈ host.toList.head?, isBracket c = false
  last : ∀ c ∈ host.toList.getLast?, isBracket c = false

/-- What is written of a host. -/
def bracketed (host : String) : List Char :=
  if host.toList.contains ':' then '[' :: (host.toList ++ [']']) else host.toList

/-- **The written form of a name** is that of its host, a colon and its port;
what else the name has is not written. -/
theorem text_eq (host : String) (port : Int) (more : List Value) :
    (PeerName.tuple (.string host :: .int port :: more)).text =
      .ok (String.ofList (bracketed host ++ ':' :: (toString port).toList)) := by
  have hport : (Value.int port).text = toString port := rfl
  have hhost : (Value.string host).text = host := rfl
  simp only [PeerName.text, PeerName.hostHasColon, bind, Except.bind, hport, hhost, bracketed]
  split <;> refine congrArg Except.ok (String.toList_injective ?_) <;> simp

/-! ## Brackets -/

theorem IsBare.toList_ne_nil (h : IsBare host) : host.toList ≠ [] := by
  simpa using h.nonempty

theorem IsBare.stripBrackets (h : IsBare host) :
    ListenAddress.stripBrackets host.toList = host.toList := by
  have hreverse : host.toList.reverse.dropWhile isBracket = host.toList.reverse :=
    dropWhile_of_head fun c hc => h.last c (by rwa [List.head?_reverse] at hc)
  rw [ListenAddress.stripBrackets, dropWhile_of_head h.first, hreverse, List.reverse_reverse]

theorem stripBrackets_cons {c : Char} {s : List Char} (hc : isBracket c = true) :
    stripBrackets (c :: s) = stripBrackets s := by
  rw [stripBrackets, List.dropWhile_cons_of_pos hc, ← stripBrackets]

/-- A bracket after a text with something else in it is taken off. -/
theorem IsBare.stripBrackets_concat {c : Char} (h : IsBare host) (hc : isBracket c = true) :
    ListenAddress.stripBrackets (host.toList ++ [c]) = host.toList := by
  have hfirst : ∀ d ∈ (host.toList ++ [c]).head?, isBracket d = false := by
    intro d hd
    rw [List.head?_append_of_ne_nil _ h.toList_ne_nil] at hd
    exact h.first d hd
  have hreverse : host.toList.reverse.dropWhile isBracket = host.toList.reverse :=
    dropWhile_of_head fun d hd => h.last d (by rwa [List.head?_reverse] at hd)
  rw [ListenAddress.stripBrackets, dropWhile_of_head hfirst, List.reverse_concat,
    List.dropWhile_cons_of_pos hc, hreverse, List.reverse_reverse]

/-- The brackets that are put around a host are those that are taken off. -/
theorem IsBare.stripBrackets_bracketed (h : IsBare host) :
    ListenAddress.stripBrackets (bracketed host) = host.toList := by
  unfold bracketed
  split
  · rw [stripBrackets_cons rfl, h.stripBrackets_concat rfl]
  · exact h.stripBrackets

/-! ## Reading -/

/-- What is written of host and port is read as host and port. -/
theorem parse_text (hhost : IsBare host)
    (hport : (Nat.toDigits 10 port.natAbs).length ≤ Numeral.maxDigits) :
    parse (String.ofList (bracketed host ++ ':' :: (toString port).toList)) =
      some { host := some host, port := some port } := by
  have hcolon := Numeral.colon_not_mem_toString port
  -- so the second case of what is left without brackets is the one
  have hne := hhost.toList_ne_nil
  simp only [parse, String.toList_ofList, afterLast_append hcolon, beforeLast?_append hcolon,
    Numeral.parse_toString hport, Option.getD_some, hhost.stripBrackets_bracketed,
    String.ofList_toList]

/-- **The name of a socket is read as it was written**, for every host without
brackets at its ends and every port that is not too long to be read. So no other
host and port are written as the same text. -/
theorem name_read_back (hhost : IsBare host)
    (hport : (Nat.toDigits 10 port.natAbs).length ≤ Numeral.maxDigits) (more : List Value) :
    ∃ text, (PeerName.tuple (.string host :: .int port :: more)).text = .ok text ∧
      parse text = some { host := some host, port := some port } ∧
      ∀ otherHost otherPort otherMore, IsBare otherHost →
        (Nat.toDigits 10 otherPort.natAbs).length ≤ Numeral.maxDigits →
        (PeerName.tuple (.string otherHost :: .int otherPort :: otherMore)).text = .ok text →
          otherHost = host ∧ otherPort = port := by
  refine ⟨_, text_eq host port more, parse_text hhost hport, ?_⟩
  intro otherHost otherPort otherMore hother hshort htext
  rw [text_eq otherHost otherPort otherMore] at htext
  have hread := parse_text hother hshort
  rw [Except.ok.inj htext, parse_text hhost hport] at hread
  have hsame := Option.some.inj hread
  exact ⟨(Option.some.inj (congrArg ListenAddress.host hsame)).symm,
    (Option.some.inj (congrArg ListenAddress.port hsame)).symm⟩

/-- An IPv6 socket: its host has colons and a zone, and brackets inside, and the
port has a sign. -/
theorem zoned_read_back :
    (PeerName.tuple [.string "fe80::1%[eth0]:", .int (-8080), .int 0, .int 2]).text =
        .ok "[fe80::1%[eth0]:]:-8080" ∧
      parse "[fe80::1%[eth0]:]:-8080" =
        some { host := some "fe80::1%[eth0]:", port := some (-8080) } := by
  have hbare : IsBare "fe80::1%[eth0]:" := ⟨by decide, by simp [isBracket], by simp [isBracket]⟩
  have hshort : (Nat.toDigits 10 (-8080 : Int).natAbs).length ≤ Numeral.maxDigits := by decide
  obtain ⟨text, htext, hread, -⟩ := name_read_back hbare hshort [.int 0, .int 2]
  have hwritten : (PeerName.tuple [.string "fe80::1%[eth0]:", .int (-8080), .int 0, .int 2]).text =
      .ok "[fe80::1%[eth0]:]:-8080" := by
    rw [text_eq]
    exact congrArg Except.ok (by decide)
  obtain rfl := Except.ok.inj (htext.symm.trans hwritten)
  exact ⟨hwritten, hread⟩

end TunnelRelay.ListenAddress
