import NameScout.NameRule
import NameScout.Proofs.Text.Pieces

namespace NameScout.NameRule

open Text

def IsAlphanumeric (c : Char) : Prop :=
  ('0' ≤ c ∧ c ≤ '9') ∨ ('A' ≤ c ∧ c ≤ 'Z') ∨ ('a' ≤ c ∧ c ≤ 'z')

/-- A letter or a digit, or a text that begins and ends with one and has only letters, digits and
some marks in between. -/
inductive Edged (Mark : Char → Prop) : List Char → Prop
  | one {c : Char} (h : IsAlphanumeric c) : Edged Mark [c]
  | more {first last : Char} {inner : List Char} (hfirst : IsAlphanumeric first)
      (hinner : ∀ c ∈ inner, IsAlphanumeric c ∨ Mark c) (hlast : IsAlphanumeric last) :
      Edged Mark (first :: inner ++ [last])

def IsDomain (s : String) : Prop :=
  s.utf8ByteSize ≤ 253 ∧ ∃ labels, 2 ≤ labels.length ∧
    (∀ label ∈ labels, Edged (· = '-') label ∧ label.length ≤ 63) ∧
      s.toList = ['.'].intercalate labels

def IsLogin (s : String) : Prop :=
  s.length ≤ 39 ∧ ∃ runs, runs ≠ [] ∧
    (∀ run ∈ runs, run ≠ [] ∧ ∀ c ∈ run, IsAlphanumeric c) ∧ s.toList = ['-'].intercalate runs

def IsProject (s : String) : Prop :=
  Edged (fun c => c = '-' ∨ c = '.' ∨ c = '_') s.toList

section Characters

variable {c : Char} {cs : List Char}

theorem isAlphanumeric_iff : isAlphanumeric c = true ↔ IsAlphanumeric c := by
  have hdigit : c.isDigit = true ↔ '0' ≤ c ∧ c ≤ '9' :=
    Bool.and_eq_true_iff.trans (and_congr decide_eq_true_iff decide_eq_true_iff)
  have hupper : c.isUpper = true ↔ 'A' ≤ c ∧ c ≤ 'Z' := decide_eq_true_iff
  have hlower : c.isLower = true ↔ 'a' ≤ c ∧ c ≤ 'z' :=
    Bool.and_eq_true_iff.trans (and_congr decide_eq_true_iff decide_eq_true_iff)
  have hletter : isLetter c = true ↔ _ := Bool.or_eq_true_iff.trans (or_congr hupper hlower)
  exact Bool.or_eq_true_iff.trans ((or_congr hletter hdigit).trans or_comm)

theorem IsAlphanumeric.ne (h : IsAlphanumeric c) {d : Char} (hd : ¬ IsAlphanumeric d) : c ≠ d := by
  rintro rfl
  exact hd h

instance (c : Char) : Decidable (IsAlphanumeric c) :=
  inferInstanceAs (Decidable (_ ∨ _))

theorem IsAlphanumeric.utf8Size_eq (h : IsAlphanumeric c) : c.utf8Size = 1 := by
  rw [Char.utf8Size_eq_one_iff]
  rcases h with ⟨-, h⟩ | ⟨-, h⟩ | ⟨-, h⟩ <;> exact UInt32.le_trans h (by decide)

theorem bytes_eq_utf8ByteSize (s : String) : bytes s.toList = s.utf8ByteSize := by
  have hbytes (cs : List Char) : bytes cs = (String.ofList cs).utf8ByteSize := by
    induction cs with
    | nil => rfl
    | cons c cs ih =>
        rw [bytes, ih, String.ofList_cons, String.utf8ByteSize_append,
          String.utf8ByteSize_singleton]
  rw [hbytes, String.ofList_toList]

theorem bytes_eq_length (h : ∀ c ∈ cs, c.utf8Size = 1) : bytes cs = cs.length := by
  induction cs with
  | nil => rfl
  | cons c cs ih =>
      obtain ⟨hc, hcs⟩ := List.forall_mem_cons.mp h
      rw [bytes, hc, ih hcs, List.length_cons, Nat.add_comm]

theorem headIs_iff {p : Char → Bool} : headIs p cs = true ↔ ∃ c, cs.head? = some c ∧ p c = true :=
  Option.any_eq_true p cs.head?

theorem lastIs_iff {p : Char → Bool} :
    lastIs p cs = true ↔ ∃ c, cs.getLast? = some c ∧ p c = true :=
  Option.any_eq_true p cs.getLast?

theorem headIs_beq_iff : headIs (· == c) cs = true ↔ cs.head? = some c := by
  simp [headIs_iff]

theorem lastIs_beq_iff : lastIs (· == c) cs = true ↔ cs.getLast? = some c := by
  simp [lastIs_iff]

theorem sized_iff {least most : Nat} :
    sized least most cs = true ↔ least ≤ bytes cs ∧ bytes cs ≤ most := by
  rw [sized, Bool.and_eq_true, decide_eq_true_iff, decide_eq_true_iff]

end Characters

section Edges

variable {Mark : Char → Prop} {cs : List Char}

theorem edged_iff : Edged Mark cs ↔ headIs isAlphanumeric cs = true ∧
    lastIs isAlphanumeric cs = true ∧ ∀ c ∈ cs, IsAlphanumeric c ∨ Mark c := by
  simp only [headIs_iff, lastIs_iff, isAlphanumeric_iff]
  constructor
  · rintro (h | ⟨hfirst, hinner, hlast⟩)
    · exact ⟨⟨_, rfl, h⟩, ⟨_, rfl, h⟩, List.forall_mem_singleton.mpr (.inl h)⟩
    · refine ⟨⟨_, rfl, hfirst⟩, ⟨_, List.getLast?_concat, hlast⟩, ?_⟩
      simpa [or_imp, forall_and, hfirst, hlast] using hinner
  · rintro ⟨⟨first, hhead, hfirst⟩, ⟨last, hend, hlast⟩, hall⟩
    obtain ⟨rest, rfl⟩ := List.head?_eq_some_iff.mp hhead
    obtain ⟨front, hfront⟩ := List.getLast?_eq_some_iff.mp hend
    cases front with
    | nil =>
        rw [List.nil_append] at hfront
        rw [hfront]
        exact .one hlast
    | cons d inner =>
        rw [hfront] at hall ⊢
        obtain rfl : first = d := (List.cons.inj hfront).1
        exact .more hfirst (fun c hc => hall c (by simp [hc])) hlast

theorem ends_alphanumeric {e : Option Char} (hend : ∀ c ∈ e, c ∈ cs)
    (hsome : cs ≠ [] → e.isSome = true) (hall : ∀ c ∈ cs, IsAlphanumeric c ∨ c = '-') :
    (∃ c, e = some c ∧ IsAlphanumeric c) ↔ cs ≠ [] ∧ e ≠ some '-' := by
  constructor
  · rintro ⟨c, rfl, hc⟩
    exact ⟨List.ne_nil_of_mem (hend c rfl), fun heq => hc.ne (by decide) (Option.some.inj heq)⟩
  · rintro ⟨hne, hhyphen⟩
    obtain ⟨c, rfl⟩ := Option.isSome_iff_exists.mp (hsome hne)
    exact ⟨c, rfl, (hall c (hend c rfl)).resolve_right fun heq => hhyphen (congrArg some heq)⟩

theorem edged_hyphen_iff : Edged (· = '-') cs ↔ cs ≠ [] ∧ cs.head? ≠ some '-' ∧
    cs.getLast? ≠ some '-' ∧ ∀ c ∈ cs, IsAlphanumeric c ∨ c = '-' := by
  have hfirst := ends_alphanumeric (e := cs.head?) (fun c => List.mem_of_mem_head?)
    List.isSome_head?.mpr
  have hlast := ends_alphanumeric (e := cs.getLast?) (fun c => List.mem_of_getLast?)
    List.getLast?_isSome.mpr
  simp only [edged_iff, headIs_iff, lastIs_iff, isAlphanumeric_iff]
  constructor
  · rintro ⟨hhead, hend, hall⟩
    obtain ⟨hne, hhead⟩ := (hfirst hall).mp hhead
    exact ⟨hne, hhead, ((hlast hall).mp hend).2, hall⟩
  · rintro ⟨hne, hhead, hend, hall⟩
    exact ⟨(hfirst hall).mpr ⟨hne, hhead⟩, (hlast hall).mpr ⟨hne, hend⟩, hall⟩

theorem all_hyphen_iff : (cs.all fun c => isAlphanumeric c || c == '-') = true ↔
    ∀ c ∈ cs, IsAlphanumeric c ∨ c = '-' := by
  simp [isAlphanumeric_iff]

theorem bytes_of_hyphened (h : ∀ c ∈ cs, IsAlphanumeric c ∨ c = '-') : bytes cs = cs.length := by
  refine bytes_eq_length fun c hc => ?_
  rcases h c hc with hc | rfl
  · exact hc.utf8Size_eq
  · rfl

theorem sized_iff_of_hyphened {most : Nat} (h : ∀ c ∈ cs, IsAlphanumeric c ∨ c = '-') :
    sized 1 most cs = true ↔ cs ≠ [] ∧ cs.length ≤ most := by
  rw [sized_iff, bytes_of_hyphened h, ← List.length_pos_iff]
  rfl

theorem label_iff : label cs = true ↔ Edged (· = '-') cs ∧ cs.length ≤ 63 := by
  simp only [label, Bool.and_eq_true, Bool.not_eq_true', Bool.eq_false_iff, ne_eq,
    headIs_beq_iff, lastIs_beq_iff, all_hyphen_iff, edged_hyphen_iff]
  constructor
  · rintro ⟨⟨⟨hsized, hhead⟩, hlast⟩, hall⟩
    obtain ⟨hne, hlength⟩ := (sized_iff_of_hyphened hall).mp hsized
    exact ⟨⟨hne, hhead, hlast, hall⟩, hlength⟩
  · rintro ⟨⟨hne, hhead, hlast, hall⟩, hlength⟩
    exact ⟨⟨⟨(sized_iff_of_hyphened hall).mpr ⟨hne, hlength⟩, hhead⟩, hlast⟩, hall⟩

end Edges

section Grammars

variable {s : String} {cs : List Char}

theorem Edged.char {Mark : Char → Prop} (h : Edged Mark cs) :
    ∀ c ∈ cs, IsAlphanumeric c ∨ Mark c :=
  (edged_iff.mp h).2.2

theorem isDomain_iff : IsDomain s ↔ s.utf8ByteSize ≤ 253 ∧ 2 ≤ (s.toList.splitOn '.').length ∧
    ∀ label ∈ s.toList.splitOn '.', Edged (· = '-') label ∧ label.length ≤ 63 := by
  refine and_congr_right fun _ => ?_
  simp only [← and_assoc]
  refine exists_pieces_iff (P := fun labels => 2 ≤ labels.length ∧
    ∀ label ∈ labels, Edged (· = '-') label ∧ label.length ≤ 63) ?_ ?_
  · rintro labels ⟨htwo, -⟩ rfl
    cases htwo
  · rintro labels ⟨-, hlabels⟩ label hlabel hdot
    exact absurd ((hlabels label hlabel).1.char '.' hdot) (by decide)

theorem domain_iff : domain s.toList = true ↔ IsDomain s := by
  simp only [isDomain_iff, domain, splitOn_eq, Bool.and_eq_true, decide_eq_true_iff,
    List.all_eq_true, label_iff, bytes_eq_utf8ByteSize, and_assoc]

theorem forall_runs_iff :
    (∀ run ∈ cs.splitOn '-', run ≠ [] ∧ ∀ c ∈ run, IsAlphanumeric c) ↔ cs ≠ [] ∧
      cs.head? ≠ some '-' ∧ cs.getLast? ≠ some '-' ∧ ¬ containsChars ['-', '-'] cs = true ∧
        ∀ c ∈ cs, IsAlphanumeric c ∨ c = '-' := by
  have hruns := nil_mem_splitOn_iff '-' cs
  constructor
  · intro h
    have hnone : ¬ [] ∈ cs.splitOn '-' := fun hnil => (h [] hnil).1 rfl
    rw [hruns] at hnone
    simp only [not_or] at hnone
    obtain ⟨hne, hhead, hlast, hdouble⟩ := hnone
    refine ⟨hne, hhead, hlast, hdouble, fun c hc => ?_⟩
    have hcs : ['-'].intercalate (cs.splitOn '-') = cs := List.intercalate_splitOn '-'
    rw [← hcs] at hc
    rcases mem_of_mem_intercalate hc with hc | ⟨run, hrun, hc⟩
    · exact .inr hc
    · exact .inl ((h run hrun).2 c hc)
  · rintro ⟨hne, hhead, hlast, hdouble, hall⟩ run hrun
    obtain ⟨hhyphen, hmem⟩ := mem_splitOn hrun
    refine ⟨?_, fun c hc => (hall c (hmem c hc)).resolve_right fun heq => hhyphen (heq ▸ hc)⟩
    rintro rfl
    exact (hruns.mp hrun).elim hne fun h => h.elim hhead fun h => h.elim hlast hdouble

theorem isLogin_iff : IsLogin s ↔ s.length ≤ 39 ∧
    ∀ run ∈ s.toList.splitOn '-', run ≠ [] ∧ ∀ c ∈ run, IsAlphanumeric c := by
  refine and_congr_right fun _ => ?_
  simp only [← and_assoc]
  refine (exists_pieces_iff (P := fun runs => runs ≠ [] ∧
    ∀ run ∈ runs, run ≠ [] ∧ ∀ c ∈ run, IsAlphanumeric c) (fun runs h => h.1) ?_).trans
      (and_iff_right (List.splitOn_ne_nil _ _))
  rintro runs ⟨-, hruns⟩ run hrun hhyphen
  exact absurd ((hruns run hrun).2 '-' hhyphen) (by decide)

theorem github_iff : github s.toList = true ↔ IsLogin s := by
  rw [isLogin_iff, forall_runs_iff]
  simp only [github, Bool.and_eq_true, Bool.not_eq_true', Bool.eq_false_iff, ne_eq,
    headIs_beq_iff, lastIs_beq_iff, all_hyphen_iff]
  have hlength : s.toList.length = s.length := String.length_toList
  constructor
  · rintro ⟨⟨⟨⟨hsized, hhead⟩, hlast⟩, hdouble⟩, hall⟩
    obtain ⟨hne, hmost⟩ := (sized_iff_of_hyphened hall).mp hsized
    exact ⟨hlength ▸ hmost, hne, hhead, hlast, hdouble, hall⟩
  · rintro ⟨hmost, hne, hhead, hlast, hdouble, hall⟩
    exact ⟨⟨⟨⟨(sized_iff_of_hyphened hall).mpr ⟨hne, hlength ▸ hmost⟩, hhead⟩, hlast⟩, hdouble⟩,
      hall⟩

theorem pypi_iff : pypi s.toList = true ↔ IsProject s := by
  simp only [IsProject, edged_iff, pypi, Bool.and_eq_true, List.all_eq_true, Bool.or_eq_true,
    beq_iff_eq, isAlphanumeric_iff, or_assoc, and_assoc]

end Grammars

/-- The rules for domains, logins and projects take just the texts of their grammars. -/
theorem supports_iff_grammar (s : String) :
    (CheckType.domain.supports s = true ↔ IsDomain s) ∧
      (CheckType.github.supports s = true ↔ IsLogin s) ∧
        (CheckType.pypi.supports s = true ↔ IsProject s) :=
  ⟨domain_iff, github_iff, pypi_iff⟩

end NameScout.NameRule
