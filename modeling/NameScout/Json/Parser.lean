import NameScout.Json.Number
import NameScout.Text.Blank

namespace NameScout.Json

def isBlank (c : Char) : Bool :=
  c == ' ' || c == '\t' || c == '\n' || c == '\r'

def skipBlank (cs : List Char) : List Char :=
  cs.dropWhile isBlank

inductive Piece where
  | char (c : Char)
  | unit (n : Nat)
  deriving DecidableEq, Repr

def hexValue? (c : Char) : Option Nat :=
  if '0' ≤ c ∧ c ≤ '9' then some (c.toNat - '0'.toNat)
  else if 'a' ≤ c ∧ c ≤ 'f' then some (c.toNat - 'a'.toNat + 10)
  else if 'A' ≤ c ∧ c ≤ 'F' then some (c.toNat - 'A'.toNat + 10)
  else none

def hexUnit? (a b c d : Char) : Option Nat := do
  let a ← hexValue? a
  let b ← hexValue? b
  let c ← hexValue? c
  let d ← hexValue? d
  return 4096 * a + 256 * b + 16 * c + d

def shortEscape? : Char → Option Char
  | '"' => some '"'
  | '\\' => some '\\'
  | '/' => some '/'
  | 'b' => some '\x08'
  | 'f' => some '\x0c'
  | 'n' => some '\n'
  | 'r' => some '\r'
  | 't' => some '\t'
  | _ => none

def readPieces : List Char → Option (List Piece × List Char)
  | [] => none
  | c :: cs =>
      if c = '"' then some ([], cs)
      else if c = '\\' then
        match cs with
        | [] => none
        | e :: cs => match shortEscape? e with
            | some c => (readPieces cs).map fun (ps, rest) => (.char c :: ps, rest)
            | none =>
                if e = 'u' then
                  match cs with
                  | h1 :: h2 :: h3 :: h4 :: cs => match hexUnit? h1 h2 h3 h4 with
                      | some n => (readPieces cs).map fun (ps, rest) => (.unit n :: ps, rest)
                      | none => none
                  | _ => none
                else none
      else if c.toNat < 0x20 then none
      else (readPieces cs).map fun (ps, rest) => (.char c :: ps, rest)

def joinPieces : List Piece → Option (List Char)
  | [] => some []
  | .char c :: ps => (joinPieces ps).map (c :: ·)
  | .unit n :: ps =>
      if n < 0xD800 ∨ 0xE000 ≤ n then (joinPieces ps).map (Char.ofNat n :: ·)
      else if 0xDC00 ≤ n then none
      else match ps with
        | .unit m :: ps =>
            if 0xDC00 ≤ m ∧ m < 0xE000 then
              (joinPieces ps).map (Char.ofNat (0x10000 + (n - 0xD800) * 1024 + (m - 0xDC00)) :: ·)
            else none
        | _ => none

def readString (cs : List Char) : Option (Option String × List Char) :=
  (readPieces cs).map fun (ps, rest) => ((joinPieces ps).map String.ofList, rest)

def readFraction : List Char → Option (List Char × List Char)
  | '.' :: cs => match Decimal.spanDigits cs with
      | ([], _) => none
      | found => some found
  | cs => some ([], cs)

def readExponent (cs : List Char) : Option (Option (Bool × List Char) × List Char) :=
  match cs with
  | [] => some (none, [])
  | c :: rest =>
      if c = 'e' ∨ c = 'E' then
        let (negative, rest) := match rest with
          | '-' :: rest => (true, rest)
          | '+' :: rest => (false, rest)
          | rest => (false, rest)
        match Decimal.spanDigits rest with
        | ([], _) => none
        | (ds, rest) => some (some (negative, ds), rest)
      else some (none, cs)

def readWhole (cs : List Char) : Option (List Char × List Char) :=
  match Decimal.spanDigits cs with
  | ([], _) => none
  | ('0' :: _ :: _, _) => none
  | found => some found

def readNumeral (cs : List Char) : Option (Numeral × List Char) := do
  let (negative, cs) := match cs with
    | '-' :: cs => (true, cs)
    | cs => (false, cs)
  let (whole, cs) ← readWhole cs
  let (fraction, cs) ← readFraction cs
  let (exponent, cs) ← readExponent cs
  return (⟨negative, whole, fraction, exponent⟩, cs)

def readWord (word : String) (tree : Tree) (cs : List Char) : Option (Tree × List Char) :=
  (Text.dropStart? word.toList cs).map fun rest => (tree, rest)

def readScalar : List Char → Option (Tree × List Char)
  | '"' :: cs => (readString cs).map fun (s, rest) => (.string s, rest)
  | 'n' :: cs => readWord "ull" .null cs
  | 't' :: cs => readWord "rue" (.bool true) cs
  | 'f' :: cs => readWord "alse" (.bool false) cs
  | cs => (readNumeral cs).map fun (n, rest) => (.number n, rest)

mutual

def readValue : Nat → List Char → Option (Tree × List Char)
  | 0, _ => none
  | fuel + 1, cs =>
      match skipBlank cs with
      | '[' :: cs => match skipBlank cs with
          | ']' :: cs => some (.array [], cs)
          | cs => (readItems fuel cs).map fun (items, rest) => (.array items, rest)
      | '\x7b' :: cs => match skipBlank cs with
          | '\x7d' :: cs => some (.object [], cs)
          | cs => (readMembers fuel cs).map fun (members, rest) => (.object members, rest)
      | cs => readScalar cs

def readItems : Nat → List Char → Option (List Tree × List Char)
  | 0, _ => none
  | fuel + 1, cs =>
      match readValue fuel cs with
      | none => none
      | some (item, cs) => match skipBlank cs with
          | ',' :: cs => (readItems fuel cs).map fun (items, rest) => (item :: items, rest)
          | ']' :: cs => some ([item], cs)
          | _ => none

def readMembers : Nat → List Char → Option (List (Option String × Tree) × List Char)
  | 0, _ => none
  | fuel + 1, cs =>
      match skipBlank cs with
      | '"' :: cs => match readString cs with
          | none => none
          | some (name, cs) => match skipBlank cs with
              | ':' :: cs => match readValue fuel cs with
                  | none => none
                  | some (value, cs) => match skipBlank cs with
                      | ',' :: cs =>
                          (readMembers fuel cs).map fun (members, rest) =>
                            ((name, value) :: members, rest)
                      | '\x7d' :: cs => some ([(name, value)], cs)
                      | _ => none
              | _ => none
      | _ => none

end

def Tree.parse? (text : String) : Option Tree :=
  let cs := text.toList
  match readValue (2 * cs.length + 2) cs with
  | some (tree, rest) => if (skipBlank rest).isEmpty then some tree else none
  | none => none

end NameScout.Json
