import TunnelRelay.Fault
import TunnelRelay.Text.Cut
import TunnelRelay.Text.Numeral
/-!
# Socket addresses

The written form of the ends of sockets, and its reverse for the address to
listen on. `PeerName.text` writes `host:port`, with brackets around a host that
has colons itself; `ListenAddress.parse` splits at the last colon and takes
brackets off.
-/

namespace TunnelRelay

/-- The name of one end of a socket: host, port and more for internet sockets,
a path or nothing for others. -/
inductive PeerName where
  | tuple (fields : List Value)
  | plain (value : Value)
  deriving Inhabited

namespace PeerName

/-- The name of an internet socket. -/
def ofHostPort (host : String) (port : Int) : PeerName := .tuple [.string host, .int port]

/-- Whether the host has a colon; only texts and collections can be asked. -/
def hostHasColon : Value → Except Fault Bool
  | .string s => .ok (s.toList.contains ':')
  | .list items => .ok (items.any fun | .string s => s == ":" | _ => false)
  | .dict entries => .ok (entries.any (·.1 == ":"))
  | v => .error (.ofText .mismatch ("argument of type '" ++ v.kindName ++ "' is not iterable"))

/-- The written form of a name. -/
def text : PeerName → Except Fault String
  | .tuple (host :: port :: _) => do
    if ← hostHasColon host then return "[" ++ host.text ++ "]:" ++ port.text
    else return host.text ++ ":" ++ port.text
  | .tuple [] => .ok ""
  | .tuple fields => .ok (Value.tupleLiteral fields)
  | .plain value => .ok (if value.isSet then value.text else "")

end PeerName

/-- An address to accept connections on; a part that is not given is left to
the configuration. -/
structure ListenAddress where
  host : Option String := none
  port : Option Int := none
  deriving DecidableEq, Repr

namespace ListenAddress

/-- Whether the character is a square bracket. -/
def isBracket (c : Char) : Bool := c = '[' || c = ']'

/-- The text without the brackets at both ends. -/
def stripBrackets (s : List Char) : List Char :=
  ((s.dropWhile isBracket).reverse.dropWhile isBracket).reverse

/-- Reads `HOST:PORT` or `PORT`; `none` if the port is no integer. -/
def parse (value : String) : Option ListenAddress :=
  let s := value.toList
  let host := (Text.beforeLast? ':' s).getD []
  match Text.Numeral.parse (Text.afterLast ':' s) with
  | .error _ => none
  | .ok port =>
    match stripBrackets host with
    | [] => some { port }
    | host => some { host := String.ofList host, port }

/-- The fault of an address that is no text, and so cannot be split. -/
def notText (v : Value) : Fault :=
  .ofText .attribute ("'" ++ v.kindName ++ "' object has no attribute 'rpartition'")

end ListenAddress

end TunnelRelay
