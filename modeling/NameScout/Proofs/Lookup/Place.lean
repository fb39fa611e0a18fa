import NameScout.Lookup.Basic
import NameScout.Proofs.NameRule.Grammar
import NameScout.Proofs.Url.Parsing

namespace NameScout

open Text

namespace Url

def IsUnreserved (c : Char) : Prop :=
  NameRule.IsAlphanumeric c ∨ c ∈ ['-', '.', '_', '~']

instance (c : Char) : Decidable (IsUnreserved c) :=
  inferInstanceAs (Decidable (_ ∨ _))

structure PlainSegment (cs : List Char) : Prop where
  unreserved : ∀ c ∈ cs, IsUnreserved c
  undotted : cs.head? ≠ some '.'

variable {c : Char} {cs : List Char}

def isPlainSegment (cs : List Char) : Bool :=
  (cs.all fun c => decide (IsUnreserved c)) && cs.head? != some '.'

theorem isPlainSegment_iff : isPlainSegment cs = true ↔ PlainSegment cs := by
  simp only [isPlainSegment, Bool.and_eq_true, List.all_eq_true, decide_eq_true_iff, bne_iff_ne]
  exact ⟨fun h => ⟨h.1, h.2⟩, fun h => ⟨h.unreserved, h.undotted⟩⟩

theorem IsUnreserved.ne (h : IsUnreserved c) {d : Char} (hd : ¬ IsUnreserved d) : c ≠ d := by
  rintro rfl
  exact hd h

theorem IsUnreserved.toNat (h : IsUnreserved c) : 0x20 < c.toNat ∧ c.toNat < 0x7F := by
  have hrange {first last : Char} (hfirst : 0x20 < first.toNat) (hlast : last.toNat < 0x7F)
      (h : first ≤ c ∧ c ≤ last) : 0x20 < c.toNat ∧ c.toNat < 0x7F :=
    ⟨Nat.lt_of_lt_of_le hfirst h.1, Nat.lt_of_le_of_lt h.2 hlast⟩
  rcases h with (h | h | h) | h
  · exact hrange (by decide) (by decide) h
  · exact hrange (by decide) (by decide) h
  · exact hrange (by decide) (by decide) h
  · simp only [List.mem_cons, List.not_mem_nil, or_false] at h
    rcases h with rfl | rfl | rfl | rfl <;> decide

theorem IsUnreserved.isOfHost (h : IsUnreserved c) : isOfHost c = true := by
  rw [isOfHost_iff, isInner_iff]
  exact ⟨⟨h.toNat.1, h.ne (by decide), h.ne (by decide), h.ne (by decide), h.ne (by decide)⟩,
    h.ne (by decide), h.ne (by decide), h.ne (by decide)⟩

theorem IsUnreserved.pathSet (h : IsUnreserved c) : pathSet c = false := by
  have hnone {cs : List Char} (hcs : (cs.all fun d => !decide (IsUnreserved d)) = true) :
      cs.contains c = false := by
    rw [List.contains_eq_mem, decide_eq_false_iff_not]
    intro hc
    have hreserved := List.all_eq_true.mp hcs c hc
    simp [h] at hreserved
  have hcontrols : controls c = false := by
    obtain ⟨hleast, hmost⟩ := h.toNat
    rw [controls, Bool.or_eq_false_iff, decide_eq_false_iff_not, beq_eq_false_iff_ne]
    omega
  rw [Url.pathSet, fragmentSet, hcontrols, hnone (by decide), hnone (by decide)]
  rfl

theorem encode_of_unreserved (h : ∀ c ∈ cs, IsUnreserved c) : encode pathSet cs = cs :=
  encode_eq_self fun c hc => ⟨Nat.lt_succ_of_lt (h c hc).toNat.2, (h c hc).pathSet⟩

theorem PlainSegment.makesSegment (h : PlainSegment cs) : MakesSegment cs := by
  have hhead : ∀ c ∈ cs.head?, c ≠ '.' ∧ c ≠ '%' := fun c hc =>
    ⟨fun hdot => h.undotted (hdot ▸ hc),
      (h.unreserved c (List.mem_of_mem_head? hc)).ne (by decide)⟩
  obtain ⟨hhere, habove⟩ := not_dots_of_head hhead
  refine ⟨List.all_eq_true.mpr fun c hc => ?_, hhere, habove⟩
  exact ((isOfHost_iff c).mp (h.unreserved c hc).isOfHost).1

end Url

section Names

open NameRule Url

variable {c : Char} {cs : List Char} {name : String}

theorem plainSegment_of_head {p : Char → Bool} (hp : p '.' = false) (hhead : headIs p cs = true)
    (h : ∀ c ∈ cs, IsUnreserved c) : PlainSegment cs := by
  refine ⟨h, fun hdot => ?_⟩
  obtain ⟨c, hc, hpc⟩ := headIs_iff.mp hhead
  rw [hdot] at hc
  rw [← Option.some.inj hc, hp] at hpc
  cases hpc

theorem plainSegment_of_domain (h : domain cs = true) : PlainSegment cs := by
  rw [← String.toList_ofList (l := cs), domain_iff, isDomain_iff, String.toList_ofList] at h
  obtain ⟨-, -, hlabels⟩ := h
  refine ⟨fun c hc => ?_, fun hdot => ?_⟩
  · have hjoin : ['.'].intercalate (cs.splitOn '.') = cs := List.intercalate_splitOn '.'
    rw [← hjoin] at hc
    rcases mem_of_mem_intercalate hc with rfl | ⟨label, hlabel, hc⟩
    · decide
    · exact ((hlabels label hlabel).1.char c hc).imp_right fun heq => by simp [heq]
  · have hempty := (head_splitOn_eq_nil_iff '.' cs).mpr (.inr hdot)
    exact (edged_hyphen_iff.mp (hlabels [] (List.mem_of_mem_head? hempty)).1).1 rfl

theorem plainSegment_of_npm (h : npm cs = true) : PlainSegment cs := by
  have hlower {c : Char} (hc : c.isLower = true) : IsAlphanumeric c :=
    isAlphanumeric_iff.mp (Bool.or_eq_true_iff.mpr (.inl (Bool.or_eq_true_iff.mpr (.inr hc))))
  have hdigit {c : Char} (hc : isDigit c = true) : IsAlphanumeric c :=
    isAlphanumeric_iff.mp (Bool.or_eq_true_iff.mpr (.inr hc))
  simp only [npm, Bool.and_eq_true, Bool.or_eq_true, List.all_eq_true, beq_iff_eq] at h
  obtain ⟨⟨-, hhead⟩, hall⟩ := h
  refine ⟨fun c hc => ?_, fun hdot => ?_⟩
  · rcases hall c hc with ((((hc | hc) | rfl) | rfl) | rfl) | rfl
    · exact .inl (hlower hc)
    · exact .inl (hdigit hc)
    all_goals decide
  · rw [headIs, hdot] at hhead
    cases hhead

theorem plainSegment_of_pypi (h : pypi cs = true) : PlainSegment cs := by
  rw [← String.toList_ofList (l := cs), pypi_iff, IsProject, edged_iff, String.toList_ofList] at h
  obtain ⟨hhead, -, hall⟩ := h
  refine plainSegment_of_head (by decide) hhead fun c hc => (hall c hc).imp_right ?_
  rintro (rfl | rfl | rfl) <;> decide

theorem plainSegment_of_cargo (h : cargo cs = true) : PlainSegment cs := by
  simp only [cargo, Bool.and_eq_true, Bool.or_eq_true, List.all_eq_true, beq_iff_eq,
    isAlphanumeric_iff, or_assoc] at h
  obtain ⟨⟨-, hhead⟩, hall⟩ := h
  refine plainSegment_of_head (by decide) hhead fun c hc => (hall c hc).imp_right ?_
  rintro (rfl | rfl) <;> decide

theorem plainSegment_of_github (h : github cs = true) : PlainSegment cs := by
  simp only [github, Bool.and_eq_true] at h
  have hall := all_hyphen_iff.mp h.2
  refine ⟨fun c hc => (hall c hc).imp_right fun heq => by simp [heq], fun hdot => ?_⟩
  exact absurd (hall '.' (List.mem_of_mem_head? hdot)) (by decide)

theorem plainSegment_of_supports {t : CheckType} (ht : t ∈ CheckType.looked)
    (h : t.supports name = true) : PlainSegment name.toList := by
  simp only [CheckType.looked, List.mem_cons, List.not_mem_nil, or_false] at ht
  rcases ht with rfl | rfl | rfl | rfl | rfl
  · exact plainSegment_of_domain h
  · exact plainSegment_of_npm h
  · exact plainSegment_of_pypi h
  · exact plainSegment_of_cargo h
  · exact plainSegment_of_github h

end Names

/-- A host, and the segments of a path around the one that stands for a name. -/
structure Place where
  host : List Char
  before : List (List Char)
  after : List (List Char)
  host_ne : host ≠ []
  host_plain : (host.all fun c => decide (Url.IsUnreserved c)) = true
  host_read : (Url.Host.parse true host).toOption = some (.name (String.ofList host))
  plain : (before ++ after).all Url.isPlainSegment = true

namespace Place

open Url

variable {p : Place} {s : List Char}

def segments (p : Place) (s : List Char) : List (List Char) :=
  p.before ++ s :: p.after

def chars (p : Place) (s : List Char) : List Char :=
  pageChars p.host (p.segments s)

def url (p : Place) (s : List Char) : Url :=
  { scheme := "https"
    authority := some (.ofHost (.name (String.ofList p.host)))
    path := .segments ((p.segments s).map String.ofList)
    query := none
    fragment := none }

theorem host_unreserved (p : Place) : ∀ c ∈ p.host, IsUnreserved c := fun c hc =>
  decide_eq_true_iff.mp (List.all_eq_true.mp p.host_plain c hc)

theorem plain_around (p : Place) : ∀ s ∈ p.before ++ p.after, PlainSegment s := fun s hs =>
  isPlainSegment_iff.mp (List.all_eq_true.mp p.plain s hs)

theorem parse_host (p : Place) : Host.parse true p.host = .ok (.name (String.ofList p.host)) := by
  have hread := p.host_read
  cases hparse : Host.parse true p.host with
  | error fault =>
      rw [hparse] at hread
      cases hread
  | ok h =>
      rw [hparse] at hread
      rw [Option.some.inj hread]

theorem segments_ne_nil (p : Place) (s : List Char) : p.segments s ≠ [] :=
  List.append_ne_nil_of_right_ne_nil _ (List.cons_ne_nil _ _)

theorem map_segments {α : Type} (f : List Char → α) :
    (p.segments s).map f = p.before.map f ++ f s :: p.after.map f := by
  rw [segments, List.map_append, List.map_cons]

theorem forall_mem_segments {P : List Char → Prop} (h : ∀ t ∈ p.before ++ p.after, P t)
    (hs : P s) : ∀ t ∈ p.segments s, P t := by
  intro t ht
  simp only [segments, List.mem_append, List.mem_cons] at ht
  rcases ht with ht | rfl | ht
  · exact h t (List.mem_append_left _ ht)
  · exact hs
  · exact h t (List.mem_append_right _ ht)

theorem parse_chars (hs : MakesSegment s) : Url.parse (String.ofList (p.chars s)) =
    .ok (p.url (encode pathSet s)) := by
  have hread := parse_eq p.host_ne (fun c hc => (p.host_unreserved c hc).isOfHost) p.parse_host
    (p.segments_ne_nil s) (forall_mem_segments (fun t ht => (p.plain_around t ht).makesSegment) hs)
  have hkept {before : List (List Char)} (h : ∀ t ∈ before, PlainSegment t) :
      (before.map fun t => String.ofList (encode pathSet t)) = before.map String.ofList :=
    List.map_congr_left fun t ht =>
      congrArg String.ofList (encode_of_unreserved (h t ht).unreserved)
  have hlist : (p.segments s).map (fun t => String.ofList (encode pathSet t)) =
      (p.segments (encode pathSet s)).map String.ofList := by
    rw [map_segments, map_segments,
      hkept fun t ht => p.plain_around t (List.mem_append_left _ ht),
      hkept fun t ht => p.plain_around t (List.mem_append_right _ ht)]
  rw [hlist] at hread
  exact hread

theorem parse_plain (hs : PlainSegment s) : Url.parse (String.ofList (p.chars s)) =
    .ok (p.url s) := by
  rw [parse_chars hs.makesSegment, encode_of_unreserved hs.unreserved]

def front (p : Place) : List Char :=
  secureStart ++ '/' :: '/' :: (p.host ++ p.before.flatMap ('/' :: ·) ++ ['/'])

def back (p : Place) : List Char :=
  p.after.flatMap ('/' :: ·)

theorem chars_eq (p : Place) (s : List Char) : p.chars s = p.front ++ (s ++ p.back) := by
  have hpath : '/' :: ['/'].intercalate (p.segments s) =
      p.before.flatMap ('/' :: ·) ++ ('/' :: s ++ p.back) := by
    rw [cons_intercalate '/' (p.segments_ne_nil s), segments, List.flatMap_append,
      List.flatMap_cons, back]
  simp only [Place.chars, pageChars, hostAndPath, hpath, front, List.append_assoc,
    List.cons_append, List.nil_append]

theorem chars_inj {s t : List Char} (h : p.chars s = p.chars t) : s = t := by
  rw [chars_eq, chars_eq] at h
  exact List.append_cancel_right (List.append_cancel_left h)

theorem brace_not_mem_flatMap {list : List (List Char)} (h : ∀ t ∈ list, PlainSegment t) :
    '\x7b' ∉ list.flatMap ('/' :: ·) := by
  intro hmem
  obtain ⟨t, ht, hmem⟩ := List.mem_flatMap.mp hmem
  rcases List.mem_cons.mp hmem with hslash | hmem
  · exact absurd hslash (by decide)
  · exact absurd ((h t ht).unreserved _ hmem) (by decide)

theorem brace_not_mem_front (p : Place) : '\x7b' ∉ p.front := by
  have hhost : '\x7b' ∉ p.host := fun hmem => absurd (p.host_unreserved _ hmem) (by decide)
  have hbefore := brace_not_mem_flatMap fun t ht => p.plain_around t (List.mem_append_left _ ht)
  simp [front, secureStart, hhost, hbefore]

theorem path_url (p : Place) (s : List Char) : (p.url s).path = .segments
    (p.before.map String.ofList ++ String.ofList s :: p.after.map String.ofList) :=
  congrArg Path.segments (map_segments String.ofList)

theorem host?_url (p : Place) (s : List Char) :
    (p.url s).host? = some (String.ofList p.host) := by
  have hne : String.ofList p.host ≠ "" := fun heq => p.host_ne (String.ofList_inj.mp heq)
  exact if_neg hne

theorem text_url (p : Place) (s : List Char) : (p.url s).text = String.ofList (p.chars s) := by
  have hhost : (Authority.ofHost (.name (String.ofList p.host))).chars = p.host := by
    simp [Authority.chars, Authority.userChars, Authority.ofHost, Host.text]
  have hpath : (p.url s).pathChars = (p.segments s).flatMap ('/' :: ·) := by
    change ((p.segments s).map String.ofList).flatMap (fun t => '/' :: t.toList) = _
    simp [List.flatMap_map]
  have hstart : secureStart = "https".toList ++ [':'] := by decide
  have hchars : (p.url s).chars = "https".toList ++ ':' :: '/' :: '/' ::
      (Authority.ofHost (.name (String.ofList p.host))).chars ++ (p.url s).pathChars ++ [] ++ [] :=
    rfl
  refine congrArg String.ofList (hchars.trans ?_)
  simp only [hhost, hpath, ← cons_intercalate '/' (p.segments_ne_nil s), Place.chars, pageChars,
    hostAndPath, hstart, List.append_nil, List.append_assoc, List.cons_append, List.nil_append]

theorem replace_placeholder (p : Place) (name : String) :
    Text.replace (String.ofList (p.chars placeholder.toList)) placeholder name =
      String.ofList (p.chars name.toList) := by
  have hback : '\x7b' ∉ p.back :=
    brace_not_mem_flatMap fun t ht => p.plain_around t (List.mem_append_right _ ht)
  have hchars := String.toList_ofList.trans (p.chars_eq placeholder.toList)
  rw [replace_once rfl hchars p.brace_not_mem_front hback, chars_eq]

end Place

namespace CheckType

def place? : CheckType → Option Place
  | domain => some ⟨"rdap.org".toList, ["domain".toList], [], by decide, rfl, rfl, rfl⟩
  | npm => some ⟨"registry.npmjs.org".toList, [], [], by decide, rfl, rfl, rfl⟩
  | pypi => some ⟨"pypi.org".toList, ["pypi".toList], ["json".toList], by decide, rfl, rfl, rfl⟩
  | cargo => some ⟨"crates.io".toList, ["api".toList, "v1".toList, "crates".toList], [], by decide,
      rfl, rfl, rfl⟩
  | github => some ⟨"api.github.com".toList, ["users".toList], [], by decide, rfl, rfl, rfl⟩
  | _ => none

theorem defaultTemplate?_eq (t : CheckType) : t.defaultTemplate? =
    t.place?.map fun p => String.ofList (p.chars placeholder.toList) := by
  cases t <;> rfl

theorem exists_place {t : CheckType} {template : String} (h : t.defaultTemplate? = some template) :
    ∃ p : Place, template = String.ofList (p.chars placeholder.toList) := by
  rw [defaultTemplate?_eq] at h
  obtain ⟨p, -, hp⟩ := Option.map_eq_some_iff.mp h
  exact ⟨p, hp.symm⟩

end CheckType

theorem makesSegment_placeholder : Url.MakesSegment placeholder.toList :=
  ⟨by decide, by decide, by decide⟩

namespace Lookup

variable {l : Lookup} {p : Place} {name : String}

theorem urlText_eq (hl : l.template = String.ofList (p.chars placeholder.toList)) (name : String) :
    l.urlText name = String.ofList (p.chars name.toList) := by
  rw [urlText, hl, p.replace_placeholder]

theorem url_eq (hl : l.template = String.ofList (p.chars placeholder.toList))
    (hname : Url.PlainSegment name.toList) : l.url name = .ok (p.url name.toList) := by
  rw [url, urlText_eq hl, Place.parse_plain hname]

/-- A name that can exist stays where the template has its placeholder: the rest of the URL is
the template's, and no other name that can exist has the same URL. -/
theorem supported_name_stays_in_place (hl : l.checkType.defaultTemplate? = some l.template) :
    ∃ place endpoint before after, Url.parse l.template = .ok place ∧
      place.host? = some endpoint ∧ place.path = .segments (before ++ "%7Bname%7D" :: after) ∧
      place.query = none ∧ place.fragment = none ∧
      ∀ name, l.checkType.supports name = true → ∃ url, l.url name = .ok url ∧
        url.scheme = place.scheme ∧ url.authority = place.authority ∧
        url.host? = some endpoint ∧ url.path = .segments (before ++ name :: after) ∧
        url.query = none ∧ url.fragment = none ∧ url.text = l.urlText name ∧
        ∀ other, l.checkType.supports other = true → other ≠ name →
          ∃ url', l.url other = .ok url' ∧ url'.text ≠ url.text := by
  obtain ⟨p, hp⟩ := CheckType.exists_place hl
  have hlooked : l.checkType ∈ CheckType.looked := by
    rw [CheckType.mem_looked_iff, hl]
    rfl
  have hurl (name : String) (h : l.checkType.supports name = true) :
      l.url name = .ok (p.url name.toList) := url_eq hp (plainSegment_of_supports hlooked h)
  have htext (name : String) : (p.url name.toList).text = l.urlText name :=
    (p.text_url name.toList).trans (urlText_eq hp name).symm
  refine ⟨p.url (Url.encode Url.pathSet placeholder.toList), String.ofList p.host,
    p.before.map String.ofList, p.after.map String.ofList, ?_, p.host?_url _, ?_, rfl, rfl,
    fun name hname => ⟨p.url name.toList, hurl name hname, rfl, rfl, p.host?_url _, ?_, rfl, rfl,
      htext name, fun other hother hne => ⟨p.url other.toList, hurl other hother, ?_⟩⟩⟩
  · rw [hp]
    exact Place.parse_chars makesSegment_placeholder
  · rw [Place.path_url]
    rfl
  · rw [Place.path_url, String.ofList_toList]
  · rw [p.text_url, p.text_url]
    exact fun heq => hne (String.toList_inj.mp (p.chars_inj (String.ofList_inj.mp heq)))

/-- Two dots in a row are not taken for the directory above, nor for one dot. -/
theorem supported_name_stays_in_place_twoDots : ∃ l : Lookup, ofDefault .pypi = .ok l ∧
    l.checkType.supports "a..b" = true ∧ ∃ url url', l.url "a..b" = .ok url ∧
      l.url "a.b" = .ok url' ∧ url.text = "https://pypi.org/pypi/a..b/json" ∧
      url'.host? = url.host? ∧ url'.text ≠ url.text := by
  refine ⟨_, rfl, by decide, ?_⟩
  obtain ⟨place, endpoint, before, after, -, -, -, -, -, hnames⟩ :=
    supported_name_stays_in_place (l := ⟨.pypi, _, none, some agent, none, none⟩) rfl
  obtain ⟨url, hurl, -, -, hhost, -, -, -, htext, hothers⟩ := hnames "a..b" (by decide)
  obtain ⟨url', hurl', hne⟩ := hothers "a.b" (by decide) (by decide)
  obtain ⟨url'', hurl'', -, -, hhost', -⟩ := hnames "a.b" (by decide)
  obtain rfl : url' = url'' := Except.ok.inj (hurl'.symm.trans hurl'')
  exact ⟨url, url', hurl, hurl', htext.trans (by decide), hhost'.trans hhost.symm, hne⟩

end Lookup

end NameScout
