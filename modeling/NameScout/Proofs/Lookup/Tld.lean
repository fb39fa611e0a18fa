import NameScout.Lookup.Basic
import NameScout.Proofs.Text.Key

namespace NameScout

open Text

namespace NameRule

variable {cs : List Char}

theorem isPlain_of_isAlphanumeric {c : Char} (h : isAlphanumeric c = true) : IsPlain c := by
  have hrange : 48 ≤ c.toNat ∧ c.toNat ≤ 57 ∨ 65 ≤ c.toNat ∧ c.toNat ≤ 122 := by
    rcases Bool.or_eq_true_iff.mp h with hletter | hdigit
    · refine .inr ?_
      rcases Bool.or_eq_true_iff.mp hletter with hupper | hlower
      · obtain ⟨hleast, hmost⟩ : 65 ≤ c.toNat ∧ c.toNat ≤ 90 := of_decide_eq_true hupper
        omega
      · obtain ⟨hleast, hmost⟩ := Bool.and_eq_true_iff.mp hlower
        have hleast : 97 ≤ c.toNat := of_decide_eq_true hleast
        exact ⟨by omega, of_decide_eq_true hmost⟩
    · obtain ⟨hleast, hmost⟩ := Bool.and_eq_true_iff.mp hdigit
      exact .inl ⟨of_decide_eq_true hleast, of_decide_eq_true hmost⟩
  exact (isPlain_iff c).mpr (by omega)

theorem isPlain_of_label (h : label cs = true) : ∀ c ∈ cs, IsPlain c := by
  intro c hc
  rw [label, Bool.and_eq_true] at h
  rcases Bool.or_eq_true_iff.mp (List.all_eq_true.mp h.2 c hc) with hc | hc
  · exact isPlain_of_isAlphanumeric hc
  · rw [eq_of_beq hc]
    exact (isPlain_iff '-').mpr (by decide)

theorem exists_tld_of_domain (h : domain cs = true) :
    ∃ first tld, splitFirst? (· == '.') cs = some (first, tld) ∧ tld ≠ [] ∧
      (∀ c ∈ tld, IsPlain c) ∧ ∀ c ∈ tld.head?, c ≠ '.' := by
  rw [domain, Bool.and_eq_true, Bool.and_eq_true] at h
  obtain ⟨⟨-, htwo⟩, hlabels⟩ := h
  rw [List.all_eq_true] at hlabels
  cases hsplit : splitFirst? (· == '.') cs with
  | none =>
      rw [splitOn_of_splitFirst?_eq_none hsplit] at htwo
      cases htwo
  | some pair =>
      obtain ⟨first, tld⟩ := pair
      rw [splitOn_of_splitFirst? hsplit] at hlabels
      have hlabels : ∀ piece ∈ splitOn (· == '.') tld, label piece = true := fun piece hpiece =>
        hlabels piece (List.mem_cons_of_mem first hpiece)
      refine ⟨first, tld, rfl, ?_, fun c hc => ?_, fun c hc => ?_⟩
      · rintro rfl
        cases hlabels [] List.mem_cons_self
      · rcases mem_piece_of_splitOn (· == '.') hc with hdot | ⟨piece, hpiece, hc⟩
        · rw [eq_of_beq hdot]
          exact (isPlain_iff '.').mpr (by decide)
        · exact isPlain_of_label (hlabels piece hpiece) c hc
      · rintro rfl
        cases tld with
        | nil => cases hc
        | cons d rest =>
            cases hc
            cases hlabels [] List.mem_cons_self

end NameRule

theorem CheckType.normalizeTld_none (t : CheckType) : t.normalizeTld none = "" := by
  cases t <;> rfl

theorem CheckType.normalizeTld_map_lowerAscii (t : CheckType) (tld : Option String) :
    t.normalizeTld (tld.map lowerAscii) = t.normalizeTld tld := by
  cases tld with
  | none => rfl
  | some tld =>
      cases t with
      | domain => exact normalizeKey_lowerAscii tld
      | _ => rfl

theorem Text.lowerAscii_ne_empty {s : String} (h : s.toList ≠ []) : lowerAscii s ≠ "" := by
  intro hempty
  have hchars := congrArg String.toList hempty
  rw [lowerAscii, String.toList_ofList] at hchars
  exact h (List.map_eq_nil_iff.mp hchars)

namespace Lookup

variable {l l' : Lookup} {name : String}

theorem tldOf_congr (h : l'.checkType = l.checkType) (name : String) :
    l'.tldOf name = l.tldOf name := by
  rw [tldOf, tldOf, h]

theorem tldOf_eq_none (h : l.checkType ≠ .domain) (name : String) : l.tldOf name = none := by
  rw [tldOf]
  split
  · rename_i hdomain
    exact absurd hdomain h
  · rfl

theorem map_lowerAscii_tldOf (h : l.checkType.supports name = true) :
    (l.tldOf name).map lowerAscii = if l.checkType.normalizeTld (l.tldOf name) = "" then none
      else some (l.checkType.normalizeTld (l.tldOf name)) := by
  by_cases hdomain : l.checkType = .domain
  · have hrule : NameRule.domain name.toList = true := by
      rw [hdomain] at h
      exact h
    obtain ⟨first, tld, hsplit, hne, hplain, hdot⟩ := NameRule.exists_tld_of_domain hrule
    have htld : l.tldOf name = some (String.ofList tld) := by
      rw [tldOf, hdomain, hsplit]
      rfl
    have hchars : (String.ofList tld).toList = tld := String.toList_ofList
    rw [← hchars] at hne hplain hdot
    have hfrom : l.checkType.normalizeTld (l.tldOf name) = lowerAscii (String.ofList tld) := by
      rw [htld, hdomain]
      exact normalizeKey_of_plain hplain hdot
    rw [hfrom, if_neg (lowerAscii_ne_empty hne), htld, Option.map_some]
  · rw [tldOf_eq_none hdomain, Option.map_none, CheckType.normalizeTld_none, if_pos rfl]

end Lookup

end NameScout
