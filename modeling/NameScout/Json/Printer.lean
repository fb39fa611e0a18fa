import NameScout.Decimal.Shortest
import NameScout.Json.Basic

namespace NameScout.Json

def hexDigit (n : Nat) : Char :=
  if n < 10 then Char.ofNat (n + '0'.toNat) else Char.ofNat (n - 10 + 'a'.toNat)

def escapeChar (c : Char) : List Char :=
  if c = '"' then ['\\', '"']
  else if c = '\\' then ['\\', '\\']
  else if c = '\n' then ['\\', 'n']
  else if c = '\r' then ['\\', 'r']
  else if c = '\t' then ['\\', 't']
  else if c = '\x08' then ['\\', 'b']
  else if c = '\x0c' then ['\\', 'f']
  else if c.toNat < 0x20 then
    ['\\', 'u', '0', '0', hexDigit (c.toNat / 16), hexDigit (c.toNat % 16)]
  else [c]

def quoted (s : String) : List Char :=
  '"' :: s.toList.flatMap escapeChar ++ ['"']

def intChars (i : Int) : List Char :=
  if i < 0 then '-' :: Nat.toDigits 10 i.natAbs else Nat.toDigits 10 i.natAbs

def floatChars (bits : UInt64) : List Char :=
  match Decimal.shape bits with
  | .finite b => (if Decimal.isNegative bits then ['-'] else []) ++ b.shortest.scientific
  | _ => "null".toList

mutual

def compactChars : Json → List Char
  | null => "null".toList
  | bool true => "true".toList
  | bool false => "false".toList
  | int i => intChars i
  | float bits => floatChars bits
  | string s => quoted s
  | array items => '[' :: compactItems items ++ [']']
  | object members => '\x7b' :: compactMembers members ++ ['\x7d']

def compactItems : List Json → List Char
  | [] => []
  | [item] => compactChars item
  | item :: items => compactChars item ++ ',' :: compactItems items

def compactMembers : List (String × Json) → List Char
  | [] => []
  | [(k, v)] => quoted k ++ ':' :: compactChars v
  | (k, v) :: members => quoted k ++ ':' :: compactChars v ++ ',' :: compactMembers members

end

def compact (j : Json) : String :=
  String.ofList (compactChars j)

def newline (depth : Nat) : List Char :=
  '\n' :: List.replicate (2 * depth) ' '

mutual

/-- The text of a value with one item or member a line, two spaces a level. -/
def prettyChars (depth : Nat) : Json → List Char
  | array (item :: items) =>
      '[' :: newline (depth + 1) ++ prettyItems (depth + 1) (item :: items)
        ++ newline depth ++ [']']
  | object (member :: members) =>
      '\x7b' :: newline (depth + 1) ++ prettyMembers (depth + 1) (member :: members)
        ++ newline depth ++ ['\x7d']
  | array [] => ['[', ']']
  | object [] => ['\x7b', '\x7d']
  | null => "null".toList
  | bool true => "true".toList
  | bool false => "false".toList
  | int i => intChars i
  | float bits => floatChars bits
  | string s => quoted s

def prettyItems (depth : Nat) : List Json → List Char
  | [] => []
  | [item] => prettyChars depth item
  | item :: items => prettyChars depth item ++ ',' :: newline depth ++ prettyItems depth items

def prettyMembers (depth : Nat) : List (String × Json) → List Char
  | [] => []
  | [(k, v)] => quoted k ++ ':' :: ' ' :: prettyChars depth v
  | (k, v) :: members =>
      quoted k ++ ':' :: ' ' :: prettyChars depth v ++ ',' :: newline depth
        ++ prettyMembers depth members

end

def pretty (j : Json) : String :=
  String.ofList (prettyChars 0 j)

end NameScout.Json
