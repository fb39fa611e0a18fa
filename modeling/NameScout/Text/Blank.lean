namespace NameScout.Text

/-- White space in the sense of Unicode's `White_Space` property. -/
def isBlank (c : Char) : Bool :=
  let n := c.toNat
  (9 ≤ n && n ≤ 13) || n == 32 || n == 0x85 || n == 0xA0 || n == 0x1680
    || (0x2000 ≤ n && n ≤ 0x200A) || n == 0x2028 || n == 0x2029 || n == 0x202F
    || n == 0x205F || n == 0x3000

def trimStart (cs : List Char) : List Char :=
  cs.dropWhile isBlank

def trimEnd (cs : List Char) : List Char :=
  (cs.reverse.dropWhile isBlank).reverse

def trimChars (cs : List Char) : List Char :=
  trimEnd (trimStart cs)

def trim (s : String) : String :=
  String.ofList (trimChars s.toList)

/-- The pieces between the separators, empty ones included; never the empty list. -/
def splitOn (sep : Char → Bool) : List Char → List (List Char)
  | [] => [[]]
  | c :: cs =>
      if sep c then [] :: splitOn sep cs
      else match splitOn sep cs with
        | [] => [[c]]
        | piece :: rest => (c :: piece) :: rest

theorem splitOn_ne_nil (sep : Char → Bool) (cs : List Char) : splitOn sep cs ≠ [] := by
  induction cs with
  | nil => simp [splitOn]
  | cons c cs ih =>
      simp only [splitOn]
      split
      · simp
      · split <;> simp

def splitFirst? (sep : Char → Bool) : List Char → Option (List Char × List Char)
  | [] => none
  | c :: cs =>
      if sep c then some ([], cs)
      else (splitFirst? sep cs).map fun (before, after) => (c :: before, after)

def dropStart? : List Char → List Char → Option (List Char)
  | [], cs => some cs
  | _ :: _, [] => none
  | p :: ps, c :: cs => if p = c then dropStart? ps cs else none

theorem dropStart?_append (ps cs : List Char) : dropStart? ps (ps ++ cs) = some cs := by
  induction ps with
  | nil => rfl
  | cons p ps ih => simp [dropStart?, ih]

def startsWith (s start : String) : Bool :=
  (dropStart? start.toList s.toList).isSome

def replaceChars (pattern new : List Char) : Nat → List Char → List Char
  | 0, cs => cs
  | _ + 1, [] => []
  | n + 1, c :: cs =>
      match dropStart? pattern (c :: cs) with
      | some rest => new ++ replaceChars pattern new n rest
      | none => c :: replaceChars pattern new n cs

def replace (s pattern new : String) : String :=
  String.ofList (replaceChars pattern.toList new.toList s.toList.length s.toList)

def containsChars (pattern : List Char) : List Char → Bool
  | [] => pattern.isEmpty
  | c :: cs => (dropStart? pattern (c :: cs)).isSome || containsChars pattern cs

def contains (s pattern : String) : Bool :=
  containsChars pattern.toList s.toList

end NameScout.Text
