import NameScout.Proofs.Decimal.Digits
import NameScout.Proofs.Json.Spelling

namespace NameScout.Json

theorem hexUnit?_control : ∀ n < 32,
    hexUnit? '0' '0' (hexDigit (n / 16)) (hexDigit (n % 16)) = some n := by
  decide

theorem readPieces_quote (cs : List Char) : readPieces ('"' :: cs) = some ([], cs) := by
  rw [readPieces.eq_def]
  exact if_pos rfl

theorem readPieces_plain {c : Char} (cs : List Char) (hquote : c ≠ '"') (hback : c ≠ '\\')
    (hc : ¬ c.toNat < 0x20) :
    readPieces (c :: cs) = (readPieces cs).map fun (ps, rest) => (.char c :: ps, rest) := by
  rw [readPieces.eq_def]
  exact (if_neg hquote).trans ((if_neg hback).trans (if_neg hc))

theorem readPieces_unit {a b c d : Char} {n : Nat} (cs : List Char)
    (h : hexUnit? a b c d = some n) : readPieces ('\\' :: 'u' :: a :: b :: c :: d :: cs) =
      (readPieces cs).map fun (ps, rest) => (.unit n :: ps, rest) := by
  have hshort : shortEscape? 'u' = none := rfl
  rw [readPieces.eq_def]
  simp [hshort, h]

theorem joinPieces_unit {n : Nat} (ps : List Piece) (h : n < 0xD800) :
    joinPieces (.unit n :: ps) = (joinPieces ps).map (Char.ofNat n :: ·) := by
  rw [joinPieces.eq_def]
  exact if_pos (Or.inl h)

theorem readPieces_escapeChar (c : Char) (cs : List Char) :
    ∃ p, readPieces (escapeChar c ++ cs) =
        (readPieces cs).map (fun (ps, rest) => (p :: ps, rest)) ∧
      ∀ ps, joinPieces (p :: ps) = (joinPieces ps).map (c :: ·) := by
  unfold escapeChar
  split
  · rename_i h
    subst h
    exact ⟨.char '"', rfl, fun _ => rfl⟩
  rename_i hquote
  split
  · rename_i h
    subst h
    exact ⟨.char '\\', rfl, fun _ => rfl⟩
  rename_i hback
  split
  · rename_i h
    subst h
    exact ⟨.char '\n', rfl, fun _ => rfl⟩
  split
  · rename_i h
    subst h
    exact ⟨.char '\r', rfl, fun _ => rfl⟩
  split
  · rename_i h
    subst h
    exact ⟨.char '\t', rfl, fun _ => rfl⟩
  split
  · rename_i h
    subst h
    exact ⟨.char '\x08', rfl, fun _ => rfl⟩
  split
  · rename_i h
    subst h
    exact ⟨.char '\x0c', rfl, fun _ => rfl⟩
  split
  · rename_i hc
    refine ⟨.unit c.toNat, ?_, fun ps => ?_⟩
    · exact readPieces_unit cs (hexUnit?_control c.toNat hc)
    · rw [joinPieces_unit ps (by omega), Char.ofNat_toNat]
  · rename_i hc
    exact ⟨.char c, readPieces_plain cs hquote hback hc, fun _ => rfl⟩

theorem readString_escaped (chars rest : List Char) :
    readString (chars.flatMap escapeChar ++ '"' :: rest) =
      some (some (String.ofList chars), rest) := by
  have hread : ∃ ps, readPieces (chars.flatMap escapeChar ++ '"' :: rest) = some (ps, rest) ∧
      joinPieces ps = some chars := by
    induction chars with
    | nil => exact ⟨[], readPieces_quote rest, rfl⟩
    | cons c chars ih =>
        obtain ⟨ps, hps, hjoin⟩ := ih
        obtain ⟨p, hp, hpjoin⟩ := readPieces_escapeChar c (chars.flatMap escapeChar ++ '"' :: rest)
        refine ⟨p :: ps, ?_, ?_⟩
        · rw [List.flatMap_cons, List.append_assoc, hp, hps]
          rfl
        · rw [hpjoin, hjoin]
          rfl
  obtain ⟨ps, hps, hjoin⟩ := hread
  simp [readString, hps, hjoin]

theorem spellsName_escaped (name : String) :
    SpellsName name (name.toList.flatMap escapeChar ++ ['"']) := by
  intro rest
  rw [List.append_assoc, List.cons_append, List.nil_append, readString_escaped,
    String.ofList_toList]

theorem scalar_quoted (s : String) : Scalar (.string (some s)) (quoted s) where
  starts := ⟨'"', _, rfl, by decide, by decide, by decide, by decide⟩
  reads rest _ := by
    have hs := spellsName_escaped s rest
    rw [quoted, List.cons_append, List.cons_append, readScalar, hs]
    rfl

theorem scalar_word (word : String) {first : Char} {tree : Tree}
    (hread : ∀ cs, readScalar (first :: cs) = readWord word tree cs)
    (hfirst : isBlank first = false ∧ first ≠ '[' ∧ first ≠ '\x7b' ∧ first ≠ ']') :
    Scalar tree (first :: word.toList) where
  starts := ⟨first, _, rfl, hfirst⟩
  reads rest _ := by
    rw [List.cons_append, hread, readWord, Text.dropStart?_append]
    rfl

theorem scalar_null : Scalar .null "null".toList :=
  scalar_word "ull" (fun _ => rfl) (by decide)

theorem scalar_true : Scalar (.bool true) "true".toList :=
  scalar_word "rue" (fun _ => rfl) (by decide)

theorem scalar_false : Scalar (.bool false) "false".toList :=
  scalar_word "alse" (fun _ => rfl) (by decide)

def Numeral.ofInt (i : Int) : Numeral :=
  { negative := decide (i < 0), whole := Nat.toDigits 10 i.natAbs, fraction := [],
    exponent := none }

theorem readWhole_toDigits (n : Nat) {rest : List Char} (hr : Ends rest) :
    readWhole (Nat.toDigits 10 n ++ rest) = some (Nat.toDigits 10 n, rest) := by
  rw [readWhole, Decimal.spanDigits_append (Decimal.allDigits_toDigits n) fun c hc => (hr c hc).1]
  by_cases hn : 0 < n
  · obtain ⟨c, cs, hcs, hc⟩ := Decimal.head_toDigits hn
    rw [hcs]
    split
    · rename_i heq
      cases heq
    · rename_i heq
      cases heq
      exact absurd rfl hc
    · rfl
  · have hzero : n = 0 := by omega
    subst hzero
    rfl

theorem readFraction_ends {rest : List Char} (hr : Ends rest) :
    readFraction rest = some ([], rest) := by
  cases rest with
  | nil => rfl
  | cons c rest =>
      rw [readFraction]
      intro cs h
      exact absurd (List.cons.inj h).1 (hr c rfl).2.1

theorem readExponent_ends {rest : List Char} (hr : Ends rest) :
    readExponent rest = some (none, rest) := by
  cases rest with
  | nil => rfl
  | cons c rest =>
      obtain ⟨-, -, he, hE⟩ := hr c rfl
      rw [readExponent.eq_def]
      exact if_neg (by simp [he, hE])

theorem readNumeral_toDigits (negative : Bool) (n : Nat) {rest : List Char} (hr : Ends rest) :
    readNumeral ((if negative then ['-'] else []) ++ (Nat.toDigits 10 n ++ rest)) =
      some (⟨negative, Nat.toDigits 10 n, [], none⟩, rest) := by
  have hwhole := readWhole_toDigits n hr
  cases negative with
  | true => simp [readNumeral, hwhole, readFraction_ends hr, readExponent_ends hr]
  | false =>
      obtain ⟨c, cs, hcs, hc⟩ := Decimal.exists_cons_toDigits n
      have hminus : c ≠ '-' := Decimal.ne_of_isSome_digitValue? hc (by decide)
      simp only [Bool.false_eq_true, if_false, List.nil_append]
      rw [hcs, List.cons_append] at hwhole ⊢
      rw [readNumeral]
      · simp [hwhole, readFraction_ends hr, readExponent_ends hr]
      · exact fun _ h => hminus (List.cons.inj h).1

theorem intChars_eq (i : Int) :
    intChars i = (if decide (i < 0) then ['-'] else []) ++ Nat.toDigits 10 i.natAbs := by
  by_cases hi : i < 0 <;> simp [intChars, hi]

theorem exists_cons_intChars (i : Int) :
    ∃ c cs, intChars i = c :: cs ∧ (c = '-' ∨ (Decimal.digitValue? c).isSome = true) := by
  by_cases hi : i < 0
  · exact ⟨'-', _, if_pos hi, .inl rfl⟩
  · obtain ⟨c, cs, hcs, hc⟩ := Decimal.exists_cons_toDigits i.natAbs
    exact ⟨c, cs, (if_neg hi).trans hcs, .inr hc⟩

theorem scalar_intChars (i : Int) : Scalar (.number (.ofInt i)) (intChars i) := by
  obtain ⟨c, cs, hcs, hc⟩ := exists_cons_intChars i
  have hne : ∀ d, d ≠ '-' → Decimal.digitValue? d = none → c ≠ d := by
    intro d hd hnone
    rcases hc with rfl | hc
    · exact hd.symm
    · exact Decimal.ne_of_isSome_digitValue? hc hnone
  constructor
  · refine ⟨c, cs, hcs, ?_, hne _ (by decide) (by decide), hne _ (by decide) (by decide),
      hne _ (by decide) (by decide)⟩
    simp only [isBlank, Bool.or_eq_false_iff, beq_eq_false_iff_ne]
    exact ⟨⟨⟨hne _ (by decide) (by decide), hne _ (by decide) (by decide)⟩,
      hne _ (by decide) (by decide)⟩, hne _ (by decide) (by decide)⟩
  · intro rest hr
    have hread := readNumeral_toDigits (decide (i < 0)) i.natAbs hr
    rw [← List.append_assoc, ← intChars_eq] at hread
    have hscalar : readScalar (intChars i ++ rest) =
        (readNumeral (intChars i ++ rest)).map fun found => (.number found.1, found.2) := by
      rw [hcs, List.cons_append, readScalar]
      · exact fun _ h => hne '"' (by decide) (by decide) (List.cons.inj h).1
      · exact fun _ h => hne 'n' (by decide) (by decide) (List.cons.inj h).1
      · exact fun _ h => hne 't' (by decide) (by decide) (List.cons.inj h).1
      · exact fun _ h => hne 'f' (by decide) (by decide) (List.cons.inj h).1
    rw [hscalar, hread]
    rfl

theorem int?_ofInt {i : Int} (hlow : -9223372036854775808 ≤ i) (hhigh : i ≤ maxUnsigned) :
    (Numeral.ofInt i).int? = some i := by
  simp only [Numeral.int?, Numeral.ofInt, Decimal.digitsValue_toDigits, List.isEmpty_nil,
    Bool.not_true, Option.isSome_none, Bool.or_false, Bool.false_eq_true, if_false,
    decide_eq_true_eq]
  by_cases hi : i < 0
  · rw [if_pos hi, if_pos (by omega)]
    congr 1
    omega
  · rw [if_neg hi, if_pos (by omega)]
    congr 1
    omega

end NameScout.Json
