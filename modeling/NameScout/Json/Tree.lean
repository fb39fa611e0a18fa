import NameScout.Json.Basic

namespace NameScout.Json

structure Numeral where
  negative : Bool
  whole : List Char
  fraction : List Char
  exponent : Option (Bool × List Char)
  deriving DecidableEq, Repr

/-- A JSON text as written: members in their order, repeated names kept, numbers by their
digits. A string is `none` when an escape in it stands for half a character. -/
inductive Tree where
  | null
  | bool (b : Bool)
  | number (n : Numeral)
  | string (s : Option String)
  | array (items : List Tree)
  | object (members : List (Option String × Tree))
  deriving Repr, Inhabited

end NameScout.Json
