/-!
# Cutting texts

The pieces of a text around a character: before and after its first place,
and after its last. Also what is left of a text without a given start.
-/

namespace TunnelRelay.Text

/-- What stands before the first `c`; all of the text if there is none. -/
def beforeFirst (c : Char) (s : List Char) : List Char := s.takeWhile (· != c)

/-- What follows the first `c`; nothing if there is none. -/
def afterFirst (c : Char) (s : List Char) : List Char := (s.dropWhile (· != c)).drop 1

/-- What follows the last `c`; all of the text if there is none. -/
def afterLast (c : Char) (s : List Char) : List Char := (s.reverse.takeWhile (· != c)).reverse

/-- What stands before the last `c`, if there is one. -/
def beforeLast? (c : Char) (s : List Char) : Option (List Char) :=
  match s.reverse.dropWhile (· != c) with
  | _ :: rest => some rest.reverse
  | [] => none

/-- The pieces between the places of `c`; one more than there are places. -/
def pieces (c : Char) : List Char → List (List Char)
  | [] => [[]]
  | d :: rest =>
    if d = c then [] :: pieces c rest
    else match pieces c rest with
      | p :: ps => (d :: p) :: ps
      | [] => [[d]]

/-- What follows `start` in a text that starts with it. -/
def after? (start s : List Char) : Option (List Char) :=
  if s.take start.length = start then some (s.drop start.length) else none

end TunnelRelay.Text
