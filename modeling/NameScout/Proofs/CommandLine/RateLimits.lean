import NameScout.CommandLine.RateLimits
import NameScout.Proofs.Decimal.Signed
import NameScout.Proofs.Text.Normal
import NameScout.Proofs.Text.Pieces

namespace NameScout

theorem Table.get?_ofList {κ α : Type} [DecidableEq κ] (l : List (κ × α)) (k : κ) :
    (Table.ofList l).get? k = l.reverse.lookup k := by
  have hfold (t : Table κ α) : (l.foldl (fun t e => t.insert e.1 e.2) t).get? k =
      (l.reverse.lookup k).or (t.get? k) := by
    induction l generalizing t with
    | nil => rfl
    | cons e l ih =>
        rw [List.foldl_cons, ih, get?_insert, List.reverse_cons, List.lookup_append,
          Option.or_assoc, lookup_cons_if]
        congr 1
        split <;> rfl
  rw [ofList, hfold, get?_empty, Option.or_none]

namespace CommandLine

open Text

section Reading

variable {ε α β : Type} {f : α → Except ε β} {a : α} {b : β} {l : List α} {bs : List β}

theorem mapM_cons_eq_ok (ha : f a = .ok b) (hl : l.mapM f = .ok bs) :
    (a :: l).mapM f = .ok (b :: bs) := by
  rw [List.mapM_cons, ha, hl]
  rfl

theorem exists_error_mapM_iff :
    (∃ e, l.mapM f = .error e) ↔ ∃ a ∈ l, ∃ e, f a = .error e := by
  induction l with
  | nil =>
      constructor
      · rintro ⟨e, h⟩
        cases h
      · rintro ⟨a, h, -⟩
        cases h
  | cons a l ih =>
      simp only [List.mem_cons, exists_eq_or_imp]
      rw [← ih, List.mapM_cons]
      cases f a with
      | error e => exact ⟨fun _ => .inl ⟨e, rfl⟩, fun _ => ⟨e, rfl⟩⟩
      | ok b =>
          cases l.mapM f with
          | error e => exact ⟨fun _ => .inr ⟨e, rfl⟩, fun _ => ⟨e, rfl⟩⟩
          | ok bs =>
              constructor
              · rintro ⟨e, h⟩
                cases h
              · rintro (⟨e, h⟩ | ⟨e, h⟩) <;> cases h

end Reading

section Entries

variable {front back entry ds : List Char} {pair : String × UInt32} {n : Nat}

theorem exists_error_iff {ε α : Type} {x : Except ε α} : (∃ e, x = .error e) ↔ ∀ a, x ≠ .ok a := by
  cases x with
  | error e => exact ⟨fun _ _ => nofun, fun _ => ⟨e, rfl⟩⟩
  | ok a =>
      constructor
      · rintro ⟨e, h⟩
        cases h
      · intro h
        exact absurd rfl (h a)

theorem parseEntry_of_splitFirst? (h : splitFirst? (· == '=') entry = some (front, back)) :
    parseEntry entry = .ok pair ↔ String.ofList (trimChars front) = pair.1 ∧
      Decimal.Unsigned (trimChars back) pair.2.toNat := by
  rw [parseEntry, h]
  cases hread : Decimal.readNat 4294967295 (trimChars back) with
  | error fault =>
      simp only [hread]
      constructor
      · exact nofun
      · rintro ⟨-, hunsigned⟩
        have hle : pair.2.toNat ≤ 4294967295 := Nat.le_of_lt_succ pair.2.toNat_lt
        rw [Decimal.readNat_eq_ok_iff.mpr ⟨hunsigned, hle⟩] at hread
        cases hread
  | ok n =>
      simp only [hread]
      obtain ⟨hunsigned, hle⟩ := Decimal.readNat_eq_ok_iff.mp hread
      have hnat : (UInt32.ofNat n).toNat = n := UInt32.toNat_ofNat_of_lt' (Nat.lt_succ_of_le hle)
      constructor
      · intro heq
        cases heq
        rw [hnat]
        exact ⟨rfl, hunsigned⟩
      · rintro ⟨hendpoint, hunsigned'⟩
        have hsame := Decimal.readNat_eq_ok_iff.mpr
          ⟨hunsigned', Nat.le_of_lt_succ pair.2.toNat_lt⟩
        rw [hread] at hsame
        rw [hendpoint, Except.ok.inj hsame, UInt32.ofNat_toNat]

theorem parseEntry_trimChars_eq_ok_iff (hfront : '=' ∉ front) :
    parseEntry (trimChars (front ++ '=' :: back)) = .ok pair ↔
      String.ofList (trimChars front) = pair.1 ∧
        Decimal.Unsigned (trimChars back) pair.2.toNat := by
  have hstart : '=' ∉ trimStart front := fun h =>
    hfront ((List.dropWhile_sublist isBlank).subset h)
  have hsplit : splitFirst? (· == '=') (trimChars (front ++ '=' :: back)) =
      some (trimStart front, trimEnd back) := by
    rw [trimChars_append_cons (by decide)]
    refine splitFirst?_append (fun c hc => ?_) rfl
    exact beq_eq_false_iff_ne.mpr fun heq => hstart (heq ▸ hc)
  rw [parseEntry_of_splitFirst? hsplit, trimChars_trimStart, trimChars_trimEnd]

theorem parseEntry_ne_ok_of_no_equals (h : '=' ∉ entry) :
    parseEntry (trimChars entry) ≠ .ok pair := by
  obtain ⟨before, after, hentry, -, -⟩ := exists_trim entry
  have hnone : splitFirst? (· == '=') (trimChars entry) = none :=
    splitFirst?_eq_none fun c hc => beq_eq_false_iff_ne.mpr fun heq => h (by
      rw [hentry, ← heq]
      simp [hc])
  rw [parseEntry, hnone]
  exact nofun

theorem exists_error_parseEntry_iff : (∃ fault, parseEntry (trimChars entry) = .error fault) ↔
    '=' ∉ entry ∨ ∃ front back, entry = front ++ '=' :: back ∧ '=' ∉ front ∧
      ¬ ∃ limit : UInt32, Decimal.Unsigned (trimChars back) limit.toNat := by
  rw [exists_error_iff]
  by_cases hequals : '=' ∈ entry
  · obtain ⟨front, back, hentry, hfront⟩ := List.eq_append_cons_of_mem hequals
    constructor
    · intro hne
      refine .inr ⟨front, back, hentry, hfront, ?_⟩
      rintro ⟨limit, hlimit⟩
      refine hne (String.ofList (trimChars front), limit) ?_
      rw [hentry]
      exact (parseEntry_trimChars_eq_ok_iff hfront).mpr ⟨rfl, hlimit⟩
    · rintro (hnone | ⟨front', back', rfl, hfront', hnumber⟩) pair hok
      · exact hnone hequals
      · exact hnumber ⟨pair.2, ((parseEntry_trimChars_eq_ok_iff hfront').mp hok).2⟩
  · exact ⟨fun _ => .inl hequals, fun _ pair => parseEntry_ne_ok_of_no_equals hequals⟩

theorem mem_entries_iff {raw : List Char} : entry ∈ entries raw ↔
    ∃ piece ∈ raw.splitOn ',', ¬ Blanks piece ∧ trimChars piece = entry := by
  rw [entries, splitOn_eq, List.mem_filter, List.mem_map]
  simp only [Bool.not_eq_true', List.isEmpty_eq_false_iff]
  constructor
  · rintro ⟨⟨piece, hpiece, rfl⟩, hne⟩
    exact ⟨piece, hpiece, fun hblank => hne (trimChars_eq_nil_iff.mpr hblank), rfl⟩
  · rintro ⟨piece, hpiece, hblank, rfl⟩
    exact ⟨⟨piece, hpiece, rfl⟩, fun hnil => hblank (trimChars_eq_nil_iff.mp hnil)⟩

end Entries

section Notes

structure IsEndpoint (endpoint : String) : Prop where
  no_comma : ',' ∉ endpoint.toList
  no_equals : '=' ∉ endpoint.toList
  trimmed : Trimmed endpoint.toList

inductive Writes (endpoint : String) (limit : UInt32) : List Char → Prop
  | intro {before after left right ds : List Char} (hbefore : Blanks before)
      (hafter : Blanks after) (hleft : Blanks left) (hright : Blanks right)
      (hds : Decimal.Unsigned ds limit.toNat) :
      Writes endpoint limit (before ++ endpoint.toList ++ after ++ '=' :: (left ++ ds ++ right))

/-- Entries for some pairs, in their order, with blank entries anywhere among them. -/
inductive Lists : List (String × UInt32) → List (List Char) → Prop
  | nil : Lists [] []
  | blank {pairs : List (String × UInt32)} {entry : List Char} {entries : List (List Char)}
      (hentry : Blanks entry) (rest : Lists pairs entries) : Lists pairs (entry :: entries)
  | pair {endpoint : String} {limit : UInt32} {pairs : List (String × UInt32)}
      {entry : List Char} {entries : List (List Char)} (hentry : Writes endpoint limit entry)
      (rest : Lists pairs entries) : Lists ((endpoint, limit) :: pairs) (entry :: entries)

variable {endpoint : String} {limit : UInt32} {entry : List Char} {c : Char}
  {pairs : List (String × UInt32)} {written : List (List Char)}

theorem not_mem_of_blanks (h : Blanks entry) (hc : isBlank c = false) : c ∉ entry := by
  intro hmem
  rw [h c hmem] at hc
  cases hc

theorem trimmed_of_unsigned {ds : List Char} {n : Nat} (h : Decimal.Unsigned ds n) :
    Trimmed ds := by
  refine trimmed_of_no_blank fun c hc => ?_
  rcases h.char c hc with rfl | hdigit
  · rfl
  · have hrange := Decimal.isSome_digitValue?_iff.mp hdigit
    exact ((isPlain_iff c).mpr (by omega)).2

theorem Writes.parseEntry_eq (h : Writes endpoint limit entry) (hendpoint : IsEndpoint endpoint) :
    parseEntry (trimChars entry) = .ok (endpoint, limit) := by
  cases h with
  | @intro before after left right ds hbefore hafter hleft hright hds =>
      have hfront : '=' ∉ before ++ endpoint.toList ++ after := by
        simp only [List.mem_append, not_or]
        exact ⟨⟨not_mem_of_blanks hbefore rfl, hendpoint.no_equals⟩, not_mem_of_blanks hafter rfl⟩
      rw [parseEntry_trimChars_eq_ok_iff hfront, trimChars_append hbefore hafter hendpoint.trimmed,
        trimChars_append hleft hright (trimmed_of_unsigned hds)]
      exact ⟨String.ofList_toList, hds⟩

theorem Writes.not_blanks (h : Writes endpoint limit entry) : ¬ Blanks entry := by
  cases h with
  | intro hbefore hafter hleft hright hds =>
      intro hblank
      cases hblank '=' (by simp)

theorem Writes.no_comma (h : Writes endpoint limit entry) (hendpoint : IsEndpoint endpoint) :
    ',' ∉ entry := by
  cases h with
  | intro hbefore hafter hleft hright hds =>
      have hnumber : ',' ∉ _ := fun hmem => (hds.char ',' hmem).elim (by decide) (by decide)
      simp only [List.mem_append, List.mem_cons, not_or]
      exact ⟨⟨⟨not_mem_of_blanks hbefore rfl, hendpoint.no_comma⟩, not_mem_of_blanks hafter rfl⟩,
        by decide, ⟨not_mem_of_blanks hleft rfl, hnumber⟩, not_mem_of_blanks hright rfl⟩

theorem Lists.no_comma (h : Lists pairs written) (hpairs : ∀ p ∈ pairs, IsEndpoint p.1) :
    ∀ entry ∈ written, ',' ∉ entry := by
  induction h with
  | nil => exact nofun
  | blank hentry rest ih => exact List.forall_mem_cons.mpr ⟨not_mem_of_blanks hentry rfl, ih hpairs⟩
  | pair hentry rest ih =>
      obtain ⟨hfirst, hrest⟩ := List.forall_mem_cons.mp hpairs
      exact List.forall_mem_cons.mpr ⟨hentry.no_comma hfirst, ih hrest⟩

theorem Lists.mapM_parseEntry (h : Lists pairs written) (hpairs : ∀ p ∈ pairs, IsEndpoint p.1) :
    ((written.map trimChars).filter (!·.isEmpty)).mapM parseEntry = .ok pairs := by
  induction h with
  | nil => rfl
  | blank hentry rest ih =>
      rw [List.map_cons, trimChars_eq_nil_iff.mpr hentry]
      exact ih hpairs
  | @pair endpoint limit pairs entry entries hentry rest ih =>
      obtain ⟨hfirst, hrest⟩ := List.forall_mem_cons.mp hpairs
      have hne : trimChars entry ≠ [] := mt trimChars_eq_nil_iff.mp hentry.not_blanks
      rw [List.map_cons, List.filter_cons_of_pos (by simpa using hne)]
      exact mapM_cons_eq_ok (hentry.parseEntry_eq hfirst) (ih hrest)

theorem Lists.entries_eq (h : Lists pairs written) (hpairs : ∀ p ∈ pairs, IsEndpoint p.1) :
    entries ([','].intercalate written) = (written.map trimChars).filter (!·.isEmpty) := by
  cases written with
  | nil => rfl
  | cons entry rest =>
      rw [entries, splitOn_eq,
        List.splitOn_intercalate ',' (h.no_comma hpairs) (List.cons_ne_nil _ _)]

theorem exists_error_parseRateLimits_iff {raw : String} :
    (∃ fault, parseRateLimits raw = .error fault) ↔
      ∃ fault, (entries raw.toList).mapM parseEntry = .error fault := by
  rw [parseRateLimits]
  cases (entries raw.toList).mapM parseEntry with
  | error fault => exact ⟨fun _ => ⟨fault, rfl⟩, fun _ => ⟨fault, rfl⟩⟩
  | ok pairs =>
      constructor
      · rintro ⟨fault, h⟩
        cases h
      · rintro ⟨fault, h⟩
        cases h

/-- Pairs that are written as entries are read back, the last one for each endpoint; a text is
refused just when one of its entries is no pair. -/
theorem reads_back_written :
    (∀ (pairs : List (String × UInt32)) (written : List (List Char)),
      (∀ p ∈ pairs, IsEndpoint p.1) → Lists pairs written →
        ∃ limits, parseRateLimits (String.ofList ([','].intercalate written)) = .ok limits ∧
          ∀ endpoint, limits.get? endpoint = pairs.reverse.lookup endpoint) ∧
    ∀ raw : String, (∃ fault, parseRateLimits raw = .error fault) ↔
      ∃ entry ∈ raw.toList.splitOn ',', ¬ Blanks entry ∧
        ('=' ∉ entry ∨ ∃ front back, entry = front ++ '=' :: back ∧ '=' ∉ front ∧
          ¬ ∃ limit : UInt32, Decimal.Unsigned (trimChars back) limit.toNat) := by
  constructor
  · intro pairs written hpairs hlists
    refine ⟨Table.ofList pairs, ?_, Table.get?_ofList pairs⟩
    rw [parseRateLimits, String.toList_ofList, hlists.entries_eq hpairs,
      hlists.mapM_parseEntry hpairs]
    rfl
  · intro raw
    rw [exists_error_parseRateLimits_iff, exists_error_mapM_iff]
    constructor
    · rintro ⟨entry, hentry, hfault⟩
      obtain ⟨piece, hpiece, hblank, rfl⟩ := mem_entries_iff.mp hentry
      exact ⟨piece, hpiece, hblank, exists_error_parseEntry_iff.mp hfault⟩
    · rintro ⟨piece, hpiece, hblank, hfault⟩
      exact ⟨trimChars piece, mem_entries_iff.mpr ⟨piece, hpiece, hblank, rfl⟩,
        exists_error_parseEntry_iff.mpr hfault⟩

theorem isEndpoint_of_all {endpoint : String}
    (h : endpoint.toList.all (fun c => !isBlank c && c != ',' && c != '=') = true) :
    IsEndpoint endpoint := by
  have hchars : ∀ c ∈ endpoint.toList, isBlank c = false ∧ c ≠ ',' ∧ c ≠ '=' := by
    simpa [and_assoc] using h
  exact ⟨fun hc => (hchars _ hc).2.1 rfl, fun hc => (hchars _ hc).2.2 rfl,
    trimmed_of_no_blank fun c hc => (hchars c hc).1⟩

/-- Two limits for one endpoint, a blank entry, and numbers with a plus sign and zeros. -/
theorem reads_back_written_threePairs :
    (∃ limits, parseRateLimits " api.github.com = +060 ,, pypi.org=100,api.github.com=7" =
        .ok limits ∧ limits.get? "api.github.com" = some 7 ∧ limits.get? "pypi.org" = some 100) ∧
      ∃ fault, parseRateLimits "pypi.org=1, api.github.com = 4294967296" = .error fault := by
  have hspace : Blanks [' '] := List.forall_mem_singleton.mpr rfl
  have hnone : Blanks [] := nofun
  have hnumber (ds : List Char) {n : Nat} (h : Decimal.readNat 4294967295 ds = .ok n) :
      Decimal.Unsigned ds n := (Decimal.readNat_eq_ok_iff.mp h).1
  have hgithub : IsEndpoint "api.github.com" := isEndpoint_of_all (by decide)
  have hpypi : IsEndpoint "pypi.org" := isEndpoint_of_all (by decide)
  obtain ⟨hreads, hrefuses⟩ := reads_back_written
  constructor
  · have hlists : Lists [("api.github.com", 60), ("pypi.org", 100), ("api.github.com", 7)] _ :=
      .pair (.intro hspace hspace hspace hspace (hnumber "+060".toList rfl))
        (.blank hnone
          (.pair (.intro hspace hnone hnone hnone (hnumber "100".toList rfl))
            (.pair (.intro hnone hnone hnone hnone (hnumber "7".toList rfl)) .nil)))
    obtain ⟨limits, hparse, hlimits⟩ := hreads _ _ (by simp [hgithub, hpypi]) hlists
    exact ⟨limits, hparse, (hlimits _).trans (by decide), (hlimits _).trans (by decide)⟩
  · refine (hrefuses _).mpr ⟨" api.github.com = 4294967296".toList, by decide, ?_, .inr
      ⟨" api.github.com ".toList, " 4294967296".toList, by decide, by decide, ?_⟩⟩
    · intro hblank
      cases hblank 'a' (by decide)
    · rintro ⟨limit, hlimit⟩
      have hread := Decimal.readNat_eq_ok_iff.mpr
        ⟨hlimit, Nat.le_of_lt_succ limit.toNat_lt⟩
      cases hread

end Notes

end CommandLine

end NameScout
