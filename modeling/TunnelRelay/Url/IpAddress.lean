import TunnelRelay.Text.Cut
import TunnelRelay.Text.Numeral
/-!
# Internet addresses

The written forms of addresses that may stand between brackets in a URL. An
IPv6 address is eight groups of one to four hexadecimal digits; one run of
groups that are zero may be left out between two colons, the last two groups
may be written as a dotted IPv4 address, and a zone may follow after `%`.
-/

namespace TunnelRelay.Url

open Text

/-- Whether the character is a hexadecimal digit. -/
def isHexDigit (c : Char) : Bool :=
  Numeral.isAsciiDigit c || ('a' ≤ c && c ≤ 'f') || ('A' ≤ c && c ≤ 'F')

/-- Whether the text is one group of an IPv6 address. -/
def isGroup (s : List Char) : Bool := s ≠ [] && s.length ≤ 4 && s.all isHexDigit

/-- Whether the text is one number of an IPv4 address: up to 255, without
leading zeros. -/
def isOctet (s : List Char) : Bool :=
  s.length ≤ 3 && (s = ['0'] || s.head? ≠ some '0') &&
    (match Numeral.parseAscii? s with
    | some n => n ≤ 255
    | none => false)

/-- Whether the text is an IPv4 address. -/
def isIpv4 (s : List Char) : Bool :=
  let octets := pieces '.' s
  octets.length = 4 && octets.all isOctet

/-- The groups of an address, where a dotted IPv4 address in the last place
counts as two. -/
def expandTail (groups : List (List Char)) : List (List Char) :=
  match groups.getLast? with
  | some tail => if isIpv4 tail then groups.dropLast ++ [['0'], ['0']] else groups
  | none => []

/-- The groups written in a part of an address; none in an empty part. -/
def groupsOf (s : List Char) : List (List Char) := if s = [] then [] else pieces ':' s

/-- What stands before and after the first two colons in a row. -/
def splitGap : List Char → Option (List Char × List Char)
  | ':' :: ':' :: rest => some ([], rest)
  | c :: rest => (splitGap rest).map fun (before, after) => (c :: before, after)
  | [] => none

/-- Whether the text is an IPv6 address without a zone. -/
def isIpv6Groups (s : List Char) : Bool :=
  match splitGap s with
  | some (before, after) =>
    let high := groupsOf before
    let low := expandTail (groupsOf after)
    high.all isGroup && low.all isGroup && high.length + low.length ≤ 7
  | none =>
    let groups := expandTail (pieces ':' s)
    groups.length = 8 && groups.all isGroup

/-- Whether the text is an IPv6 address, with or without a zone. -/
def isIpv6 (s : List Char) : Bool :=
  !s.contains '/' &&
    (if s.contains '%' then
      let zone := afterFirst '%' s
      zone ≠ [] && !zone.contains '%' && isIpv6Groups (beforeFirst '%' s)
    else isIpv6Groups s)

end TunnelRelay.Url
