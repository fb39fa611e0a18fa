import NameScout.Proofs.Decimal.Digits

namespace NameScout.Decimal

section Unsigned

variable {limit n v : Nat} {excess : IntegerFault} {c d : Char} {cs ds : List Char}

theorem ne_of_allDigits (h : AllDigits (c :: ds)) (hd : digitValue? d = none) : c ≠ d :=
  ne_of_isSome_digitValue? (h c List.mem_cons_self) hd

def digitsFrom (n : Nat) (cs : List Char) : Nat :=
  cs.foldl (fun n c => 10 * n + (c.toNat - '0'.toNat)) n

theorem digitsFrom_cons (n : Nat) (c : Char) (cs : List Char) :
    digitsFrom n (c :: cs) = digitsFrom (10 * n + (c.toNat - '0'.toNat)) cs := by
  rw [digitsFrom, digitsFrom, List.foldl_cons]

theorem le_digitsFrom (n : Nat) (cs : List Char) : n ≤ digitsFrom n cs := by
  induction cs generalizing n with
  | nil => exact Nat.le_refl n
  | cons c cs ih =>
      rw [digitsFrom_cons]
      exact Nat.le_trans (by omega) (ih _)

theorem digitValue?_eq_some {c : Char} {d : Nat} (h : digitValue? c = some d) :
    d = c.toNat - '0'.toNat := by
  unfold digitValue? at h
  split at h
  · exact (Option.some.inj h).symm
  · cases h

theorem allDigits_cons : AllDigits (c :: cs) ↔ (digitValue? c).isSome = true ∧ AllDigits cs :=
  List.forall_mem_cons

theorem readDigits_eq_ok_iff (hn : n ≤ limit) : readDigits limit excess n cs = .ok v ↔
    AllDigits cs ∧ digitsFrom n cs = v ∧ v ≤ limit := by
  induction cs generalizing n with
  | nil =>
      constructor
      · intro h
        cases h
        exact ⟨nofun, rfl, hn⟩
      · rintro ⟨-, rfl, -⟩
        rfl
  | cons c cs ih =>
      rw [readDigits, allDigits_cons, digitsFrom_cons]
      cases hc : digitValue? c with
      | none =>
          constructor
          · exact nofun
          · rintro ⟨⟨hdigit, -⟩, -⟩
            cases hdigit
      | some d =>
          obtain rfl := digitValue?_eq_some hc
          simp only [Option.isSome_some, true_and]
          split
          · rename_i hexcess
            constructor
            · exact nofun
            · rintro ⟨-, rfl, hle⟩
              exact absurd (Nat.le_trans (le_digitsFrom _ cs) hle) (by omega)
          · exact ih (by omega)

inductive Unsigned : List Char → Nat → Prop
  | bare {ds : List Char} (hne : ds ≠ []) (hds : AllDigits ds) : Unsigned ds (digitsValue ds)
  | plus {ds : List Char} (hne : ds ≠ []) (hds : AllDigits ds) :
      Unsigned ('+' :: ds) (digitsValue ds)

theorem readDigits_zero_eq_ok_iff : readDigits limit excess 0 cs = .ok n ↔
    AllDigits cs ∧ digitsValue cs = n ∧ n ≤ limit :=
  readDigits_eq_ok_iff (Nat.zero_le limit)

theorem readNat_eq_ok_iff : readNat limit cs = .ok n ↔ Unsigned cs n ∧ n ≤ limit := by
  constructor
  · intro h
    unfold readNat at h
    split at h
    · cases h
    · cases h
    · rename_i ds hne
      obtain ⟨hds, rfl, hle⟩ := readDigits_zero_eq_ok_iff.mp h
      exact ⟨.plus hne hds, hle⟩
    · rename_i hne _ _
      obtain ⟨hds, rfl, hle⟩ := readDigits_zero_eq_ok_iff.mp h
      exact ⟨.bare hne hds, hle⟩
  · rintro ⟨hunsigned, hle⟩
    cases hunsigned with
    | @bare ds hne hds =>
        obtain ⟨c, ds, rfl⟩ := List.exists_cons_of_ne_nil hne
        have hplus : c ≠ '+' := ne_of_allDigits hds rfl
        have hread : readNat limit (c :: ds) = readDigits limit .tooLarge 0 (c :: ds) := by
          rw [readNat]
          · exact nofun
          · rintro heq
            exact hplus (List.cons.inj heq).1
          · rintro ds' heq
            exact hplus (List.cons.inj heq).1
        rw [hread]
        exact readDigits_zero_eq_ok_iff.mpr ⟨hds, rfl, hle⟩
    | @plus ds hne hds =>
        obtain ⟨c, ds, rfl⟩ := List.exists_cons_of_ne_nil hne
        exact readDigits_zero_eq_ok_iff.mpr ⟨hds, rfl, hle⟩

theorem Unsigned.char (h : Unsigned cs n) : ∀ c ∈ cs, c = '+' ∨ (digitValue? c).isSome = true := by
  intro c hc
  cases h with
  | bare hne hds => exact .inr (hds c hc)
  | plus hne hds => exact (List.mem_cons.mp hc).imp_right (hds c)

theorem Unsigned.head_ne_minus (h : Unsigned cs n) : ∀ c ∈ cs.head?, c ≠ '-' := by
  intro c hc
  cases h with
  | bare hne hds =>
      obtain ⟨d, ds, rfl⟩ := List.exists_cons_of_ne_nil hne
      cases hc
      exact ne_of_allDigits hds rfl
  | plus hne hds =>
      cases hc
      decide

end Unsigned

inductive Signed : List Char → Int → Prop
  | bare {ds : List Char} (hne : ds ≠ []) (hds : AllDigits ds) : Signed ds (digitsValue ds)
  | plus {ds : List Char} (hne : ds ≠ []) (hds : AllDigits ds) :
      Signed ('+' :: ds) (digitsValue ds)
  | minus {ds : List Char} (hne : ds ≠ []) (hds : AllDigits ds) :
      Signed ('-' :: ds) (-(digitsValue ds : Int))

section Reading

variable {limit : Nat} {cs : List Char} {n : Int}

theorem map_cast_eq_ok_iff {ε : Type} {f : Int → Int} {x : Except ε Nat} :
    Except.map f (do let v ← x; pure (v : Int)) = .ok n ↔ ∃ v : Nat, x = .ok v ∧ f v = n := by
  cases x with
  | error e =>
      constructor
      · exact nofun
      · rintro ⟨v, hv, -⟩
        cases hv
  | ok v =>
      constructor
      · intro h
        exact ⟨v, rfl, Except.ok.inj h⟩
      · rintro ⟨v', hv, rfl⟩
        cases hv
        rfl

theorem readInt_of_head (h : ∀ c ∈ cs.head?, c ≠ '-') :
    readInt limit cs = Except.map (fun n => n) (do let v ← readNat limit cs; pure (v : Int)) := by
  rw [readInt]
  · rintro rfl
    exact h '-' rfl rfl
  · rintro ds rfl
    exact h '-' rfl rfl

theorem Unsigned.signed {v : Nat} (h : Unsigned cs v) : Signed cs v := by
  cases h with
  | bare hne hds => exact .bare hne hds
  | plus hne hds => exact .plus hne hds

theorem readInt_eq_ok_iff : readInt limit cs = .ok n ↔
    Signed cs n ∧ -(limit : Int) - 1 ≤ n ∧ n ≤ limit := by
  have hunsigned {v : Nat} (h : Unsigned cs v) (hn : (v : Int) = n) (hle : n ≤ limit) :
      readInt limit cs = .ok n := by
    have hv : readNat limit cs = .ok v := readNat_eq_ok_iff.mpr ⟨h, by omega⟩
    rw [readInt_of_head h.head_ne_minus, hv, ← hn]
    rfl
  constructor
  · intro h
    unfold readInt at h
    split at h
    · cases h
    · rename_i ds hne
      obtain ⟨v, hv, rfl⟩ := map_cast_eq_ok_iff.mp h
      obtain ⟨hds, rfl, hle⟩ := readDigits_zero_eq_ok_iff.mp hv
      exact ⟨.minus (fun hnil => hne (hnil ▸ rfl)) hds, by omega, by omega⟩
    · obtain ⟨v, hv, rfl⟩ := map_cast_eq_ok_iff.mp h
      obtain ⟨hv, hle⟩ := readNat_eq_ok_iff.mp hv
      exact ⟨hv.signed, by omega, by omega⟩
  · rintro ⟨hsigned, hleast, hmost⟩
    cases hsigned with
    | bare hne hds => exact hunsigned (.bare hne hds) rfl hmost
    | plus hne hds => exact hunsigned (.plus hne hds) rfl hmost
    | @minus ds hne hds =>
        obtain ⟨c, ds, rfl⟩ := List.exists_cons_of_ne_nil hne
        exact map_cast_eq_ok_iff.mpr ⟨_, readDigits_zero_eq_ok_iff.mpr ⟨hds, rfl, by omega⟩, rfl⟩

end Reading

end NameScout.Decimal
