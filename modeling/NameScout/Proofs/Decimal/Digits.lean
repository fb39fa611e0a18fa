import NameScout.Decimal.Reading

namespace NameScout.Decimal

theorem digitValue?_digitChar {n : Nat} (h : n < 10) : digitValue? n.digitChar = some n := by
  revert n
  decide

theorem isSome_digitValue?_iff {c : Char} :
    (digitValue? c).isSome = true ↔ 48 ≤ c.toNat ∧ c.toNat ≤ 57 := by
  unfold digitValue?
  split
  · rename_i h
    exact ⟨fun _ => h, fun _ => rfl⟩
  · rename_i h
    exact ⟨nofun, fun hc => absurd hc h⟩

theorem digitsValue_append_singleton (cs : List Char) (c : Char) :
    digitsValue (cs ++ [c]) = 10 * digitsValue cs + (c.toNat - '0'.toNat) := by
  rw [digitsValue, List.foldl_append]
  rfl

theorem toNat_digitChar {n : Nat} (h : n < 10) : n.digitChar.toNat - '0'.toNat = n := by
  revert n
  decide

theorem digitsValue_toDigits (n : Nat) : digitsValue (Nat.toDigits 10 n) = n := by
  induction n using Nat.strongRecOn with
  | ind n ih =>
      by_cases hn : n < 10
      · rw [Nat.toDigits_of_lt_base hn, ← List.nil_append [n.digitChar],
          digitsValue_append_singleton, toNat_digitChar hn]
        exact Nat.zero_add n
      · rw [Nat.toDigits_of_base_le (by decide) (by omega), digitsValue_append_singleton,
          ih (n / 10) (by omega), toNat_digitChar (Nat.mod_lt n (by decide))]
        omega

def AllDigits (cs : List Char) : Prop :=
  ∀ c ∈ cs, (digitValue? c).isSome = true

theorem allDigits_toDigits (n : Nat) : AllDigits (Nat.toDigits 10 n) := by
  induction n using Nat.strongRecOn with
  | ind n ih =>
      intro c hc
      by_cases hn : n < 10
      · rw [Nat.toDigits_of_lt_base hn, List.mem_singleton] at hc
        rw [hc, digitValue?_digitChar hn]
        rfl
      · rw [Nat.toDigits_of_base_le (by decide) (by omega), List.mem_append] at hc
        rcases hc with hc | hc
        · exact ih (n / 10) (by omega) c hc
        · rw [List.mem_singleton] at hc
          rw [hc, digitValue?_digitChar (Nat.mod_lt n (by decide))]
          rfl

theorem exists_cons_toDigits (n : Nat) :
    ∃ c cs, Nat.toDigits 10 n = c :: cs ∧ (digitValue? c).isSome = true := by
  obtain ⟨c, cs, hcs⟩ := List.exists_cons_of_ne_nil (Nat.toDigits_ne_nil (n := n) (b := 10))
  exact ⟨c, cs, hcs, allDigits_toDigits n c (hcs ▸ List.mem_cons_self)⟩

theorem ne_of_isSome_digitValue? {c d : Char} (hc : (digitValue? c).isSome = true)
    (hd : digitValue? d = none) : c ≠ d := by
  rintro rfl
  simp [hd] at hc

theorem digitChar_ne_zero {n : Nat} (h : n < 10) (hpos : 0 < n) : n.digitChar ≠ '0' := by
  revert n
  decide

theorem head_toDigits {n : Nat} (hn : 0 < n) :
    ∃ c cs, Nat.toDigits 10 n = c :: cs ∧ c ≠ '0' := by
  induction n using Nat.strongRecOn with
  | ind n ih =>
      by_cases hlt : n < 10
      · exact ⟨n.digitChar, [], Nat.toDigits_of_lt_base hlt, digitChar_ne_zero hlt hn⟩
      · obtain ⟨c, cs, hcs, hc⟩ := ih (n / 10) (by omega) (by omega)
        refine ⟨c, cs ++ [(n % 10).digitChar], ?_, hc⟩
        rw [Nat.toDigits_of_base_le (by decide) (by omega), hcs]
        rfl

theorem takeWhile_digits {ds rest : List Char} (hds : AllDigits ds)
    (hrest : ∀ c ∈ rest.head?, digitValue? c = none) :
    (ds ++ rest).takeWhile (digitValue? · |>.isSome) = ds := by
  rw [List.takeWhile_append_of_pos hds]
  cases rest with
  | nil => simp
  | cons c rest => simp [hrest c rfl]

theorem dropWhile_digits {ds rest : List Char} (hds : AllDigits ds)
    (hrest : ∀ c ∈ rest.head?, digitValue? c = none) :
    (ds ++ rest).dropWhile (digitValue? · |>.isSome) = rest := by
  rw [List.dropWhile_append_of_pos hds]
  cases rest with
  | nil => rfl
  | cons c rest => simp [hrest c rfl]

theorem spanDigits_append {ds rest : List Char} (hds : AllDigits ds)
    (hrest : ∀ c ∈ rest.head?, digitValue? c = none) :
    spanDigits (ds ++ rest) = (ds, rest) := by
  rw [spanDigits, takeWhile_digits hds hrest, dropWhile_digits hds hrest]

end NameScout.Decimal
