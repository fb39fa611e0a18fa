import NameScout.Lookup.Basic
import NameScout.Proofs.Decimal.Signed
import NameScout.Proofs.Text.Key

namespace NameScout.Lookup

open Decimal Text

/-- A text is a whole number, with a sign or without one, between spaces and tabs. A header with
other white space cannot be read. -/
def Tells (text : String) (n : Int) : Prop :=
  ∃ before cs after, text.toList = before ++ cs ++ after ∧ Signed cs n ∧
    ∀ c ∈ before ++ after, c = ' ' ∨ c = '\t'

/-- The wait that a header asks for: the seconds that it tells if they are positive, fit into a
signed number of 64 bits and make a duration, and a minute if it tells no such number. -/
inductive Waits (header : Option String) : Duration → Prop
  | told {text : String} {n : Int} (found : header = some text) (tells : Tells text n)
      (pos : 0 < n) (le : n ≤ 9223372036854775807) (fits : (Duration.ofSeconds n).Representable) :
      Waits header (.ofSeconds n)
  | untold (none_told : ∀ text n, header = some text → Tells text n →
      ¬ (0 < n ∧ n ≤ 9223372036854775807 ∧ (Duration.ofSeconds n).Representable)) :
      Waits header (.ofSeconds 60)

section Characters

theorem char_of_signed {cs : List Char} {n : Int} (h : Signed cs n) :
    ∀ c ∈ cs, 43 ≤ c.toNat ∧ c.toNat ≤ 57 := by
  have hdigits : ∀ {ds : List Char}, AllDigits ds → ∀ c ∈ ds, 43 ≤ c.toNat ∧ c.toNat ≤ 57 := by
    intro ds hds c hc
    have hdigit := isSome_digitValue?_iff.mp (hds c hc)
    omega
  cases h with
  | bare hne hds => exact hdigits hds
  | plus hne hds =>
      intro c hc
      rcases List.mem_cons.mp hc with rfl | hc
      · decide
      · exact hdigits hds c hc
  | minus hne hds =>
      intro c hc
      rcases List.mem_cons.mp hc with rfl | hc
      · decide
      · exact hdigits hds c hc

theorem isBlank_eq_false {c : Char} (h : 43 ≤ c.toNat ∧ c.toNat ≤ 57) : isBlank c = false :=
  ((isPlain_iff c).mpr ⟨by omega, by omega, by omega⟩).2

theorem blank_of_visible {c : Char}
    (hvisible : (c == '\t' || (0x20 ≤ c.toNat && c.toNat < 0x7F)) = true)
    (hblank : isBlank c = true) : c = ' ' ∨ c = '\t' := by
  rcases Bool.or_eq_true_iff.mp hvisible with htab | hrange
  · exact .inr (eq_of_beq htab)
  · rw [Bool.and_eq_true, decide_eq_true_iff, decide_eq_true_iff] at hrange
    refine .inl (Char.toNat_inj.mp ?_)
    refine Classical.byContradiction fun hne => ?_
    have hspace : c.toNat ≠ 32 := hne
    have hplain := ((isPlain_iff c).mpr ⟨by omega, by omega, hspace⟩).2
    rw [hplain] at hblank
    cases hblank

end Characters

section Header

variable {text : String} {n : Int}

theorem backoffSeconds?_of_visible (h : isVisible text = true) : backoffSeconds? text = some n ↔
    readInt 9223372036854775807 (trimChars text.toList) = .ok n ∧ 0 < n := by
  rw [backoffSeconds?, if_pos h, Option.filter_eq_some_iff, decide_eq_true_iff]
  cases readInt 9223372036854775807 (trimChars text.toList) with
  | error e => exact ⟨nofun, nofun⟩
  | ok m =>
      constructor
      · rintro ⟨hm, hpos⟩
        exact ⟨congrArg Except.ok (Option.some.inj hm), hpos⟩
      · rintro ⟨hm, hpos⟩
        exact ⟨congrArg some (Except.ok.inj hm), hpos⟩

theorem isVisible_of_tells (h : Tells text n) : isVisible text = true := by
  obtain ⟨before, cs, after, hsplit, hsigned, hblanks⟩ := h
  rw [isVisible, List.all_eq_true]
  intro c hc
  have hmem : c ∈ cs ∨ c ∈ before ++ after := by
    rw [hsplit] at hc
    simp only [List.mem_append] at hc ⊢
    rcases hc with (hc | hc) | hc
    · exact .inr (.inl hc)
    · exact .inl hc
    · exact .inr (.inr hc)
  rcases hmem with hc | hc
  · have hrange := char_of_signed hsigned c hc
    simp only [Bool.or_eq_true, Bool.and_eq_true, decide_eq_true_iff]
    omega
  · rcases hblanks c hc with rfl | rfl <;> rfl

theorem signed_of_tells (h : Tells text n) : Signed (trimChars text.toList) n := by
  obtain ⟨before, cs, after, hsplit, hsigned, hblanks⟩ := h
  have hblank : ∀ c ∈ before ++ after, isBlank c = true := by
    intro c hc
    rcases hblanks c hc with rfl | rfl <;> rfl
  have htrimmed := trimmed_of_no_blank fun c hc => isBlank_eq_false (char_of_signed hsigned c hc)
  rw [hsplit, trimChars_append (fun c hc => hblank c (List.mem_append_left _ hc))
    (fun c hc => hblank c (List.mem_append_right _ hc)) htrimmed]
  exact hsigned

theorem tells_of_signed (hvisible : isVisible text = true)
    (h : Signed (trimChars text.toList) n) : Tells text n := by
  obtain ⟨before, after, hsplit, hbefore, hafter⟩ := exists_trim text.toList
  refine ⟨before, _, after, hsplit, h, fun c hc => ?_⟩
  have hmem : c ∈ text.toList := by
    rw [hsplit]
    rcases List.mem_append.mp hc with hc | hc
    · exact List.mem_append_left _ (List.mem_append_left _ hc)
    · exact List.mem_append_right _ hc
  refine blank_of_visible (List.all_eq_true.mp hvisible c hmem) ?_
  exact (List.mem_append.mp hc).elim (hbefore c) (hafter c)

theorem backoffSeconds?_eq_some_iff :
    backoffSeconds? text = some n ↔ Tells text n ∧ 0 < n ∧ n ≤ 9223372036854775807 := by
  constructor
  · intro h
    cases hvisible : isVisible text with
    | false =>
        rw [backoffSeconds?, hvisible] at h
        cases h
    | true =>
        obtain ⟨hread, hpos⟩ := (backoffSeconds?_of_visible hvisible).mp h
        obtain ⟨hsigned, -, hle⟩ := readInt_eq_ok_iff.mp hread
        exact ⟨tells_of_signed hvisible hsigned, hpos, hle⟩
  · rintro ⟨htells, hpos, hle⟩
    refine (backoffSeconds?_of_visible (isVisible_of_tells htells)).mpr ⟨?_, hpos⟩
    exact readInt_eq_ok_iff.mpr ⟨signed_of_tells htells, by omega, hle⟩

theorem ofSeconds?_eq_some_iff {d : Duration} : Duration.ofSeconds? n = some d ↔
    d = .ofSeconds n ∧ (Duration.ofSeconds n).Representable := by
  rw [Duration.ofSeconds?]
  split
  · rename_i hfits
    exact ⟨fun h => ⟨(Option.some.inj h).symm, hfits⟩, fun h => congrArg some h.1.symm⟩
  · rename_i hfits
    exact ⟨nofun, fun h => absurd h.2 hfits⟩

end Header

theorem backoffOf_eq (reply : Http.Reply) : backoffOf reply =
    (((reply.header? "retry-after").bind backoffSeconds?).bind Duration.ofSeconds?).getD
      defaultBackoff := by
  rw [backoffOf]
  cases ((reply.header? "retry-after").bind backoffSeconds?).bind Duration.ofSeconds? <;> rfl

/-- Every header, and none, asks for one wait, and that is the one that is read from it. -/
theorem waits_iff (reply : Http.Reply) (d : Duration) :
    Waits (reply.header? "retry-after") d ↔ d = backoffOf reply := by
  rw [backoffOf_eq]
  generalize reply.header? "retry-after" = header
  have hread : ∀ n, header.bind backoffSeconds? = some n ↔ ∃ text, header = some text ∧
      Tells text n ∧ 0 < n ∧ n ≤ 9223372036854775807 := by
    intro n
    rw [Option.bind_eq_some_iff]
    exact exists_congr fun text => and_congr_right fun _ => backoffSeconds?_eq_some_iff
  constructor
  · intro h
    cases h with
    | told found tells pos le fits =>
        rw [(hread _).mpr ⟨_, found, tells, pos, le⟩, Option.bind_some,
          ofSeconds?_eq_some_iff.mpr ⟨rfl, fits⟩, Option.getD_some]
    | untold none_told =>
        cases hfound : (header.bind backoffSeconds?).bind Duration.ofSeconds? with
        | none => rfl
        | some d =>
            obtain ⟨n, hn, hd⟩ := Option.bind_eq_some_iff.mp hfound
            obtain ⟨text, found, tells, pos, le⟩ := (hread n).mp hn
            have hfits := (ofSeconds?_eq_some_iff.mp hd).2
            exact absurd ⟨pos, le, hfits⟩ (none_told text n found tells)
  · rintro rfl
    cases hfound : (header.bind backoffSeconds?).bind Duration.ofSeconds? with
    | some d =>
        obtain ⟨n, hn, hd⟩ := Option.bind_eq_some_iff.mp hfound
        obtain ⟨text, found, tells, pos, le⟩ := (hread n).mp hn
        obtain ⟨rfl, hfits⟩ := ofSeconds?_eq_some_iff.mp hd
        exact .told found tells pos le hfits
    | none =>
        refine .untold fun text n found tells ⟨pos, le, fits⟩ => ?_
        have hn := (hread n).mpr ⟨text, found, tells, pos, le⟩
        rw [hn, Option.bind_some, ofSeconds?_eq_some_iff.mpr ⟨rfl, fits⟩] at hfound
        cases hfound

theorem exists_seconds_backoffOf (reply : Http.Reply) :
    ∃ n, backoffOf reply = .ofSeconds n ∧ 0 < n ∧ n ≤ 9223372036854775 := by
  have hwaits := (waits_iff reply _).mpr rfl
  generalize backoffOf reply = b at hwaits
  cases hwaits with
  | told found tells pos le fits =>
      refine ⟨_, rfl, pos, ?_⟩
      have hmost := Duration.le_iff.mp fits.2
      simp only [Duration.ofSeconds, Duration.nanosPerSecond, Duration.max] at hmost
      omega
  | untold none_told => exact ⟨60, rfl, by decide, by decide⟩

end NameScout.Lookup
