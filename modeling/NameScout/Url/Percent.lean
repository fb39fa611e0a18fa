namespace NameScout.Url

abbrev EncodeSet := Char → Bool

def controls : EncodeSet := fun c =>
  c.toNat < 0x20 || c.toNat == 0x7F

def fragmentSet : EncodeSet := fun c =>
  controls c || [' ', '"', '<', '>', '\x60'].contains c

def pathSet : EncodeSet := fun c =>
  fragmentSet c || ['#', '?', '\x7b', '\x7d'].contains c

def userSet : EncodeSet := fun c =>
  pathSet c || ['/', ':', ';', '=', '@', '[', '\\', ']', '^', '|'].contains c

def querySet : EncodeSet := fun c =>
  controls c || [' ', '"', '#', '<', '>'].contains c

def specialQuerySet : EncodeSet := fun c =>
  querySet c || c == '\''

def upperHex (n : Nat) : Char :=
  if n < 10 then Char.ofNat (n + '0'.toNat) else Char.ofNat (n - 10 + 'A'.toNat)

def encodeByte (b : UInt8) : List Char :=
  ['%', upperHex (b.toNat / 16), upperHex (b.toNat % 16)]

/-- A character as itself, or by its bytes if it is in the set or beyond the first 128. -/
def encodeChar (set : EncodeSet) (c : Char) : List Char :=
  if c.toNat < 0x80 && !set c then [c]
  else (String.utf8EncodeChar c).flatMap encodeByte

def encode (set : EncodeSet) (cs : List Char) : List Char :=
  cs.flatMap (encodeChar set)

theorem encode_eq_self {set : EncodeSet} {cs : List Char}
    (h : ∀ c ∈ cs, c.toNat < 0x80 ∧ set c = false) : encode set cs = cs := by
  induction cs with
  | nil => rfl
  | cons c cs ih =>
      have hc := h c (List.mem_cons_self ..)
      have ih := ih fun d hd => h d (List.mem_cons_of_mem _ hd)
      simp only [encode, List.flatMap_cons] at ih ⊢
      rw [ih]
      simp [encodeChar, hc.1, hc.2]

def hexValue? (c : Char) : Option Nat :=
  if '0' ≤ c ∧ c ≤ '9' then some (c.toNat - '0'.toNat)
  else if 'a' ≤ c ∧ c ≤ 'f' then some (c.toNat - 'a'.toNat + 10)
  else if 'A' ≤ c ∧ c ≤ 'F' then some (c.toNat - 'A'.toNat + 10)
  else none

def decode : List Char → List UInt8
  | [] => []
  | '%' :: a :: b :: cs => match hexValue? a, hexValue? b with
      | some x, some y => UInt8.ofNat (16 * x + y) :: decode cs
      | _, _ => '%'.toUInt8 :: decode (a :: b :: cs)
  | c :: cs => String.utf8EncodeChar c ++ decode cs

end NameScout.Url
