import TunnelRelay.Text.Quoted
/-!
# Values

Settings, the arguments of faults and the names of sockets are values of a
few kinds. Each value has two texts: `text` shows a string as it is, `literal`
shows it quoted, and the two agree on everything else.
-/

namespace TunnelRelay

/-- A value of a setting, of a fault's argument or of a socket's name. -/
inductive Value where
  | none
  | bool (value : Bool)
  | int (value : Int)
  | string (value : String)
  | list (items : List Value)
  | dict (entries : List (String × Value))
  deriving Inhabited, Repr

namespace Value

/-! ## Equality -/

mutual

/-- Whether two values are the same. -/
def same : Value → Value → Bool
  | .none, .none => true
  | .bool a, .bool b => a == b
  | .int a, .int b => a == b
  | .string a, .string b => a == b
  | .list a, .list b => sameItems a b
  | .dict a, .dict b => sameEntries a b
  | _, _ => false

/-- Whether two lists hold the same values. -/
def sameItems : List Value → List Value → Bool
  | [], [] => true
  | a :: as, b :: bs => same a b && sameItems as bs
  | _, _ => false

/-- Whether two dictionaries have the same entries in the same order. -/
def sameEntries : List (String × Value) → List (String × Value) → Bool
  | [], [] => true
  | (j, a) :: as, (k, b) :: bs => j == k && same a b && sameEntries as bs
  | _, _ => false

end

mutual

theorem same_iff : (a b : Value) → (same a b = true ↔ a = b)
  | .list a, b => by cases b <;> simp [same, sameItems_iff a]
  | .dict a, b => by cases b <;> simp [same, sameEntries_iff a]
  | .none, b | .bool _, b | .int _, b | .string _, b => by cases b <;> simp [same]

theorem sameItems_iff : (as bs : List Value) → (sameItems as bs = true ↔ as = bs)
  | [], bs => by cases bs <;> simp [sameItems]
  | a :: as, bs => by cases bs <;> simp [sameItems, same_iff a, sameItems_iff as]

theorem sameEntries_iff :
    (as bs : List (String × Value)) → (sameEntries as bs = true ↔ as = bs)
  | [], bs => by cases bs <;> simp [sameEntries]
  | (k, a) :: as, bs => by
    cases bs <;> simp [sameEntries, same_iff a, sameEntries_iff as, Prod.ext_iff]

end

instance : DecidableEq Value := fun a b => decidable_of_iff _ (same_iff a b)

/-! ## Texts -/

/-- Pieces of text with a comma and a space between them. -/
def commaSeparated (pieces : List String) : String := String.intercalate ", " pieces

mutual

/-- The text of a value in which strings are quoted. -/
def literal : Value → String
  | .none => "None"
  | .bool true => "True"
  | .bool false => "False"
  | .int n => toString n
  | .string s => Text.quoted s
  | .list items => "[" ++ commaSeparated (literals items) ++ "]"
  | .dict entries => "\x7b" ++ commaSeparated (entryLiterals entries) ++ "\x7d"

/-- The quoted texts of several values. -/
def literals : List Value → List String
  | [] => []
  | v :: vs => v.literal :: literals vs

/-- The entries of a dictionary, each as key, colon and value. -/
def entryLiterals : List (String × Value) → List String
  | [] => []
  | (k, v) :: rest => (Text.quoted k ++ ": " ++ v.literal) :: entryLiterals rest

end

/-- The text of a value in which a string stands as it is. -/
def text : Value → String
  | .string s => s
  | v => v.literal

/-- Whether the value counts as set: neither nothing, nor zero, nor empty. -/
def isSet : Value → Bool
  | .none => false
  | .bool b => b
  | .int n => n != 0
  | .string s => s != ""
  | .list items => !items.isEmpty
  | .dict entries => !entries.isEmpty

/-- The value if it is set, and else a text in its place. -/
def orText (v : Value) (default : String) : Value := if v.isSet then v else .string default

/-- The integer that the value counts as, if it is a number; a truth value
counts as one or zero. -/
def number? : Value → Option Int
  | .int n => some n
  | .bool b => some (if b then 1 else 0)
  | _ => Option.none

/-- What kind of thing the value is, as messages name it. -/
def kindName : Value → String
  | .none => "NoneType"
  | .bool _ => "bool"
  | .int _ => "int"
  | .string _ => "str"
  | .list _ => "list"
  | .dict _ => "dict"

/-- The value, or nothing in its place. -/
def ofOption (s : Option String) : Value := s.elim .none .string

/-- Several values in round brackets; a single one is followed by a comma. -/
def tupleLiteral (items : List Value) : String :=
  match items with
  | [v] => "(" ++ v.literal ++ ",)"
  | _ => "(" ++ commaSeparated (literals items) ++ ")"

end Value

end TunnelRelay
