import TunnelRelay.Text.LetterCase
import TunnelRelay.Text.Quoted
import TunnelRelay.Url.IpAddress
/-!
# Splitting URLs

`split` takes a URL apart into scheme, authority and path; the query is
dropped and `#` has no meaning outside the authority. The parts of the
authority are read on demand: `hostPort` cuts it at the place where the host
ends, and `host?` and `portText` look at the two sides.
-/

namespace TunnelRelay.Url

open Text

/-- The parts of a URL. -/
structure Parts where
  scheme : List Char
  authority : List Char
  path : List Char
  deriving DecidableEq, Repr

/-- Why a URL cannot be taken apart. -/
inductive Problem where
  | brackets
  | futureAddress
  | ipv4InBrackets
  | notAnAddress (host : List Char)
  | hiddenDelimiter (authority : List Char)
  deriving DecidableEq, Repr

/-- The text of a problem. -/
def Problem.message : Problem → String
  | .brackets => "Invalid IPv6 URL"
  | .futureAddress => "IPvFuture address is invalid"
  | .ipv4InBrackets => "An IPv4 address cannot be in brackets"
  | .notAnAddress host =>
    String.ofList (Quoted.encode host) ++ " does not appear to be an IPv4 or IPv6 address"
  | .hiddenDelimiter authority =>
    "netloc '" ++ String.ofList authority ++
      "' contains invalid characters under NFKC normalization"

/-! ## The parts of the authority -/

/-- The host and the port as they are written in an authority. What stands
before the last `@` is left out, and a bracketed host ends at its bracket. -/
def hostPort (authority : List Char) : List Char × List Char :=
  let location := afterLast '@' authority
  if location.contains '[' then
    let bracketed := afterFirst '[' location
    (beforeFirst ']' bracketed, afterFirst ':' (afterFirst ']' bracketed))
  else (beforeFirst ':' location, afterFirst ':' location)

/-- A host in lower case; a zone after `%` is kept as it is. -/
def lowerHost (host : List Char) : List Char :=
  lower (beforeFirst '%' host) ++ host.dropWhile (· != '%')

/-- The host of a URL, unless it is empty. -/
def Parts.host? (p : Parts) : Option (List Char) :=
  match (hostPort p.authority).1 with
  | [] => none
  | host => some (lowerHost host)

/-- The number of a port, written with ASCII digits and at most 65535. -/
def portNumber? (s : List Char) : Option Nat :=
  (Numeral.parseAscii? s).filter (· ≤ 65535)

/-- The port of a URL as it is written. -/
def Parts.portText (p : Parts) : List Char := (hostPort p.authority).2

/-! ## Checking the authority -/

/-- A bracketed host is an IPv6 address, or `v`, hexadecimal digits, a dot and
something more. -/
def checkBracketedHost (host : List Char) : Except Problem Unit :=
  match host with
  | 'v' :: rest =>
    let version := rest.takeWhile isHexDigit
    match rest.dropWhile isHexDigit with
    | '.' :: _ :: _ => if version = [] then .error .futureAddress else .ok ()
    | _ => .error .futureAddress
  | _ =>
    if isIpv4 host then .error .ipv4InBrackets
    else if isIpv6 host then .ok ()
    else .error (.notAnAddress host)

/-- Brackets come in pairs, and a pair stands around the whole host. -/
def checkBrackets (authority : List Char) : Except Problem Unit :=
  match authority.contains '[', authority.contains ']' with
  | false, false => .ok ()
  | true, true =>
    let location := afterLast '@' authority
    if location.contains '[' then
      let bracketed := afterFirst '[' location
      if beforeFirst '[' location ≠ [] then .error .brackets
      else match afterFirst ']' bracketed with
        | [] | ':' :: _ => checkBracketedHost (beforeFirst ']' bracketed)
        | _ => .error .brackets
    else checkBracketedHost (beforeFirst ':' location)
  | _, _ => .error .brackets

/-- The characters whose compatibility forms contain a delimiter of URLs. -/
def delimiterForms : List Nat := [
    0x2047, 0x2048, 0x2049, 0x2100, 0x2101, 0x2105, 0x2106, 0x2A74, 0xFE13, 0xFE16, 0xFE55, 0xFE56,
    0xFE5F, 0xFE6B, 0xFF03, 0xFF0F, 0xFF1A, 0xFF1F, 0xFF20]

/-- No character of the authority turns into a delimiter when normalized. -/
def checkForms (authority : List Char) : Except Problem Unit :=
  if authority.any fun c => delimiterForms.contains c.toNat then
    .error (.hiddenDelimiter authority)
  else .ok ()

/-! ## The URL -/

/-- Whether the character may stand in a scheme. -/
def isSchemeChar (c : Char) : Bool :=
  c.isAlphanum || c = '+' || c = '.' || c = '-'

/-- The URL without the controls and spaces before it, and without the tabs
and line ends in it. -/
def clean (url : List Char) : List Char :=
  (url.dropWhile (· ≤ ' ')).filter fun c => c ≠ '\t' && c ≠ '\n' && c ≠ '\r'

/-- The scheme in lower case and the rest of the URL. A colon ends a scheme
only after a letter and characters that may stand in a scheme. -/
def splitScheme (url : List Char) : List Char × List Char :=
  match url with
  | first :: _ =>
    let scheme := beforeFirst ':' url
    if url.contains ':' && first.isAlpha && scheme.all isSchemeChar then
      (scheme.map Char.toLower, afterFirst ':' url)
    else ([], url)
  | [] => ([], [])

/-- Whether the character ends an authority. -/
def endsAuthority (c : Char) : Bool := c = '/' || c = '?' || c = '#'

/-- The authority, which follows two slashes, and the rest. -/
def splitAuthority (rest : List Char) : List Char × List Char :=
  match rest with
  | '/' :: '/' :: rest =>
    (rest.takeWhile (!endsAuthority ·), rest.dropWhile (!endsAuthority ·))
  | _ => ([], rest)

/-- Takes a URL apart. -/
def split (url : List Char) : Except Problem Parts := do
  let (scheme, rest) := splitScheme (clean url)
  let (authority, rest) := splitAuthority rest
  checkBrackets authority
  checkForms authority
  return { scheme, authority, path := beforeFirst '?' rest }

end TunnelRelay.Url
