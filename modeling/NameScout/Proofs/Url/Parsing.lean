import Mathlib.Data.List.TakeDrop
import NameScout.Proofs.Text.Key
import NameScout.Proofs.Text.Pieces
import NameScout.Url.Parser

namespace NameScout.Url

open Text

section Path

variable {cs : List Char} {segments : List (List Char)}

def isInner (c : Char) : Bool :=
  0x20 < c.toNat && !(['/', '\\', '?', '#'].contains c)

structure MakesSegment (cs : List Char) : Prop where
  inner : cs.all isInner = true
  not_here : Path.isHere cs = false
  not_above : Path.isAbove cs = false

theorem not_dots_of_head (h : ∀ c ∈ cs.head?, c ≠ '.' ∧ c ≠ '%') :
    Path.isHere cs = false ∧ Path.isAbove cs = false := by
  have hnone {dots : List String}
      (hdots : ∀ dot ∈ dots, dot.toList.head? = some '.' ∨ dot.toList.head? = some '%') :
      dots.contains (String.ofList (cs.map Char.toLower)) = false := by
    rw [List.contains_eq_mem, decide_eq_false_iff_not]
    intro hmem
    have hhead := hdots _ hmem
    rw [String.toList_ofList, List.head?_map] at hhead
    cases hc : cs.head? with
    | none =>
        rw [hc] at hhead
        simp at hhead
    | some c =>
        rw [hc, Option.map_some, Option.some.injEq, Option.some.injEq] at hhead
        obtain ⟨hdot, hpercent⟩ := h c hc
        exact hhead.elim (toLower_ne hdot (by decide)) (toLower_ne hpercent (by decide))
  exact ⟨hnone (by decide), hnone (by decide)⟩

namespace Path

theorem segment_eq (done : List String) (cs : List Char) :
    segment false done cs = String.ofList (encode pathSet cs) := by
  unfold segment
  split
  · exact if_neg fun h => Bool.false_ne_true h.1
  · rfl

theorem resolve_eq (done : List String)
    (h : ∀ s ∈ segments, isHere s = false ∧ isAbove s = false) :
    resolve false done segments =
      done ++ segments.map fun s => String.ofList (encode pathSet s) := by
  induction segments generalizing done with
  | nil => exact (List.append_nil done).symm
  | cons s segments ih =>
      obtain ⟨⟨hhere, habove⟩, hrest⟩ := List.forall_mem_cons.mp h
      rw [resolve, habove, hhere, if_neg Bool.false_ne_true, if_neg Bool.false_ne_true,
        ih _ hrest, segment_eq, List.append_assoc]
      rfl

theorem afterHost_eq (hne : segments ≠ []) (h : ∀ s ∈ segments, MakesSegment s) :
    afterHost true ('/' :: ['/'].intercalate segments) =
      .segments (segments.map fun s => String.ofList (encode pathSet s)) := by
  have hslash : ∀ s ∈ segments, ∀ c ∈ s, isSlash true c = false := by
    intro s hs c hc
    have hinner := List.all_eq_true.mp (h s hs).inner c hc
    simp [isInner] at hinner
    simp [isSlash, hinner]
  have hpieces : pieces true (['/'].intercalate segments) = segments := by
    rw [pieces, splitOn_eq_splitOnP, splitOnP_intercalate rfl hne hslash]
  have hcut : afterHost true ('/' :: ['/'].intercalate segments) =
      .segments (resolve false [] (pieces true (['/'].intercalate segments))) := rfl
  rw [hcut, hpieces, resolve_eq [] fun s hs => ⟨(h s hs).not_here, (h s hs).not_above⟩]
  rfl

end Path

end Path

section Host

variable {scheme : String} {cs host rest : List Char} {h : Host}

def isOfHost (c : Char) : Bool :=
  isInner c && !(['@', ':', '['].contains c)

theorem isInner_iff (c : Char) : isInner c = true ↔
    0x20 < c.toNat ∧ c ≠ '/' ∧ c ≠ '\\' ∧ c ≠ '?' ∧ c ≠ '#' := by
  simp [isInner]

theorem isOfHost_iff (c : Char) : isOfHost c = true ↔
    isInner c = true ∧ c ≠ '@' ∧ c ≠ ':' ∧ c ≠ '[' := by
  simp [isOfHost]

theorem isSlash_of_isInner {c : Char} (h : isInner c = true) : Path.isSlash true c = false := by
  obtain ⟨-, hslash, hback, -, -⟩ := (isInner_iff c).mp h
  simp [Path.isSlash, hslash, hback]

theorem span_append {p : Char → Bool} {cs rest : List Char} (hcs : ∀ c ∈ cs, p c = true)
    (hrest : ∀ c ∈ rest.head?, p c = false) : (cs ++ rest).span p = (cs, rest) := by
  have htake : rest.takeWhile p = [] := by
    cases rest with
    | nil => rfl
    | cons c rest => exact List.takeWhile_cons_of_neg (by simp [hrest c rfl])
  have hdrop : rest.dropWhile p = rest := by
    cases rest with
    | nil => rfl
    | cons c rest => exact List.dropWhile_cons_of_neg (by simp [hrest c rfl])
  rw [List.span_eq_takeWhile_dropWhile, List.takeWhile_append_of_pos hcs,
    List.dropWhile_append_of_pos hcs, htake, hdrop, List.append_nil]

theorem splitHost_eq (h : ∀ c ∈ host, isOfHost c = true) : splitHost false host = (host, []) := by
  induction host with
  | nil => rfl
  | cons c host ih =>
      obtain ⟨hc, hhost⟩ := List.forall_mem_cons.mp h
      obtain ⟨-, -, hcolon, hbracket⟩ := (isOfHost_iff c).mp hc
      have hinside : (c == '[' || (false && c != ']')) = false := by simp [hbracket]
      rw [splitHost, if_neg fun heq => hcolon heq.1, hinside, ih hhost]

theorem readAuthority_eq (last : Bool) (hne : host ≠ []) (hchars : ∀ c ∈ host, isOfHost c = true)
    (hhost : Host.parse (isSpecial scheme) host = .ok h) :
    readAuthority scheme last host = .ok (.ofHost h, []) := by
  have hat : ∀ c ∈ host.reverse, (c == '@') = false := by
    intro c hc
    obtain ⟨-, hat, -⟩ := (isOfHost_iff c).mp (hchars c (List.mem_reverse.mp hc))
    simp [hat]
  have huser : splitUser? host = none := by
    rw [splitUser?, Text.splitFirst?_eq_none hat]
    rfl
  have hsign : host ≠ ['@'] := by
    rintro rfl
    exact absurd (hchars '@' List.mem_cons_self) (by decide)
  have hfilled : host.isEmpty = false := List.isEmpty_eq_false_iff.mpr hne
  simp [readAuthority, huser, splitHost_eq hchars, hhost, hsign, hfilled]
  rfl

end Host

section Whole

variable {cs host : List Char} {segments : List (List Char)} {h : Host}

theorem cleaned_eq (h : ∀ c ∈ cs, 0x20 < c.toNat) : cleaned cs = cs := by
  have hedge {ds : List Char} (hds : ∀ c ∈ ds, 0x20 < c.toNat) :
      ds.dropWhile (fun c => decide (c.toNat ≤ 0x20)) = ds := by
    cases ds with
    | nil => rfl
    | cons c ds =>
        refine List.dropWhile_cons_of_neg ?_
        rw [decide_eq_true_iff]
        exact Nat.not_le_of_lt (hds c List.mem_cons_self)
  have hkept : ∀ c ∈ cs, (c != '\t' && c != '\n' && c != '\r') = true := by
    intro c hc
    have hc := h c hc
    simp only [Bool.and_eq_true, bne_iff_ne]
    refine ⟨⟨?_, ?_⟩, ?_⟩ <;> rintro rfl <;> exact absurd hc (by decide)
  rw [cleaned, hedge h, hedge fun c hc => h c (List.mem_reverse.mp hc), List.reverse_reverse]
  exact List.filter_eq_self.mpr hkept

theorem Parts.of_eq (h : ∀ c ∈ cs, c ≠ '#' ∧ c ≠ '?') : Parts.of cs = ⟨cs, none, none⟩ := by
  have hhash : Text.splitFirst? (· == '#') cs = none :=
    Text.splitFirst?_eq_none fun c hc => beq_eq_false_iff_ne.mpr (h c hc).1
  have hmark : Text.splitFirst? (· == '?') cs = none :=
    Text.splitFirst?_eq_none fun c hc => beq_eq_false_iff_ne.mpr (h c hc).2
  simp only [Parts.of, hhash, hmark]

def hostAndPath (host : List Char) (segments : List (List Char)) : List Char :=
  host ++ '/' :: ['/'].intercalate segments

theorem readHierarchy_eq (hne : host ≠ []) (hchars : ∀ c ∈ host, isOfHost c = true)
    (hhost : Host.parse true host = .ok h) (hfilled : segments ≠ [])
    (hsegments : ∀ s ∈ segments, MakesSegment s) :
    readHierarchy "https" true (hostAndPath host segments) = .ok (.ofHost h,
      .segments (segments.map fun s => String.ofList (encode pathSet s))) := by
  have hspan : (hostAndPath host segments).span (fun c => !Path.isSlash true c) =
      (host, '/' :: ['/'].intercalate segments) := by
    refine span_append (fun c hc => ?_) fun c hc => ?_
    · rw [isSlash_of_isInner ((isOfHost_iff c).mp (hchars c hc)).1]
      rfl
    · rw [← Option.some.inj hc]
      rfl
  have hspecial : isSpecial "https" = true := by decide
  simp only [readHierarchy, hspecial, hspan]
  rw [readAuthority_eq _ hne hchars (hspecial ▸ hhost), ← Path.afterHost_eq hfilled hsegments]
  rfl

def secureStart : List Char :=
  ['h', 't', 't', 'p', 's', ':']

theorem splitScheme?_secureStart (rest : List Char) :
    splitScheme? (secureStart ++ rest) = some ("https", rest) :=
  rfl

def pageChars (host : List Char) (segments : List (List Char)) : List Char :=
  secureStart ++ '/' :: '/' :: hostAndPath host segments

theorem char_hostAndPath (hchars : ∀ c ∈ host, isOfHost c = true)
    (hsegments : ∀ s ∈ segments, MakesSegment s) :
    ∀ c ∈ '/' :: '/' :: hostAndPath host segments, 0x20 < c.toNat ∧ c ≠ '#' ∧ c ≠ '?' := by
  intro c hc
  have hinner : c = '/' ∨ isInner c = true := by
    rcases List.mem_cons.mp hc with rfl | hc
    · exact .inl rfl
    rcases List.mem_cons.mp hc with rfl | hc
    · exact .inl rfl
    rcases List.mem_append.mp hc with hc | hc
    · exact .inr ((isOfHost_iff c).mp (hchars c hc)).1
    rcases List.mem_cons.mp hc with rfl | hc
    · exact .inl rfl
    refine (Text.mem_of_mem_intercalate hc).imp_right ?_
    rintro ⟨s, hs, hc⟩
    exact List.all_eq_true.mp (hsegments s hs).inner c hc
  rcases hinner with rfl | hinner
  · decide
  · obtain ⟨hspace, -, -, hmark, hhash⟩ := (isInner_iff c).mp hinner
    exact ⟨hspace, hhash, hmark⟩

theorem dropSlashes_eq (hne : host ≠ []) (hchars : ∀ c ∈ host, isOfHost c = true) :
    ('/' :: '/' :: hostAndPath host segments).dropWhile (Path.isSlash true) =
      hostAndPath host segments := by
  obtain ⟨c, host, rfl⟩ := List.exists_cons_of_ne_nil hne
  have hslash := isSlash_of_isInner ((isOfHost_iff c).mp (hchars c List.mem_cons_self)).1
  rw [List.dropWhile_cons_of_pos rfl, List.dropWhile_cons_of_pos rfl]
  exact List.dropWhile_cons_of_neg (by rw [hslash]; exact Bool.false_ne_true)

theorem readAbsolute_https {body rest : List Char} {authority : Authority} {path : Path}
    (hslashes : body.dropWhile (Path.isSlash true) = rest)
    (hread : readHierarchy "https" true rest = .ok (authority, path)) :
    readAbsolute "https" ⟨body, none, none⟩ =
      .ok { scheme := "https", authority := some authority, path, query := none
            fragment := none } := by
  have hspecial : isSpecial "https" = true := by decide
  have hfile : "https" ≠ "file" := by decide
  have hwhole : Parts.isWhole ⟨body, none, none⟩ = true := rfl
  simp only [readAbsolute, hspecial, if_neg hfile, if_true, hwhole, hslashes, hread]
  rfl

/-- A text that has a host and a path only is read as just these. -/
theorem parse_eq (hne : host ≠ []) (hchars : ∀ c ∈ host, isOfHost c = true)
    (hhost : Host.parse true host = .ok h) (hfilled : segments ≠ [])
    (hsegments : ∀ s ∈ segments, MakesSegment s) :
    parse (String.ofList (pageChars host segments)) = .ok
      { scheme := "https"
        authority := some (.ofHost h)
        path := .segments (segments.map fun s => String.ofList (encode pathSet s))
        query := none
        fragment := none } := by
  have hall := char_hostAndPath hchars hsegments
  have hclean : cleaned (pageChars host segments) = pageChars host segments := by
    have hscheme : (secureStart.all fun c => decide (0x20 < c.toNat)) = true := rfl
    refine cleaned_eq fun c hc => ?_
    exact (List.mem_append.mp hc).elim
      (fun hc => decide_eq_true_iff.mp (List.all_eq_true.mp hscheme c hc)) fun hc => (hall c hc).1
  rw [parse, String.toList_ofList, hclean, pageChars, splitScheme?_secureStart]
  change readAbsolute "https" (Parts.of ('/' :: '/' :: hostAndPath host segments)) = _
  rw [Parts.of_eq fun c hc => (hall c hc).2, readAbsolute_https (dropSlashes_eq hne hchars)
    (readHierarchy_eq hne hchars hhost hfilled hsegments)]

end Whole

end NameScout.Url
