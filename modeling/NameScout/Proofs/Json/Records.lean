import NameScout.Cache.Json
import NameScout.Profile.Json
import NameScout.Proofs.Json.Compact
import NameScout.Proofs.Time.Stamp
import NameScout.RateLimit.Json
import NameScout.Report

namespace NameScout

open Json Json.Record

theorem toTree_instant_ne_null (t : Instant) : toTree t.toJson ≠ .null := by
  simp [Instant.toJson, toTree]

theorem decodes_instant (t : Instant) : Decodes .instant 0 t.toJson t := by
  intro room hroom
  rw [Decoder.instant, Instant.toJson, decodes_text t.stamp room hroom, Option.bind_some,
    Instant.ofStamp?_stamp]

theorem decodes_optionalInstant (o : Option Instant) :
    Decodes (Decoder.instant.optional) 0 (ofOption Instant.toJson o) o :=
  decodes_optional decodes_instant toTree_instant_ne_null

theorem decodes_checkType (t : CheckType) : Decodes .checkType 0 t.toJson t :=
  decodes_word (CheckType.ofLabel?_label t)

theorem decodes_availability (a : Availability) : Decodes .availability 0 a.toJson a :=
  decodes_word (Availability.ofLabel?_label a)

theorem decodes_statusCode (o : Option UInt16) :
    Decodes (Decoder.uint16.optional) 0 (ofOption (fun n : UInt16 => .int n.toNat) o) o :=
  decodes_optional decodes_uint16 (by simp [toTree])

theorem decodes_texts (texts : List String) : Decodes (.list .text) 1 (.ofTexts texts) texts :=
  decodes_list fun s _ => decodes_text s

theorem decodes_extraData {room : Nat} {members sorted : List (String × Json)}
    (hperm : members.Perm sorted) (h : isStorable room (.object sorted) = true) :
    Decodes .extraData room (.object members) sorted := by
  intro room' hroom
  have h := isStorable_mono _ hroom h
  cases room' with
  | zero => cases h
  | succ room' =>
      obtain ⟨hincreasing, hmembers⟩ := Bool.and_eq_true_iff.mp h
      rw [Decoder.extraData, toTree, pairs_toFields, Option.map_some,
        ofMembers_of_perm hperm (of_decide_eq_true hincreasing)]
      exact fun member hmember => isStorable_of_mem hmembers (hperm.mem_iff.mp hmember)

namespace Profile

theorem decodes_toJson (p : Profile) : Decodes decoder 2 p.toJson p := by
  intro room hroom
  obtain ⟨room, rfl⟩ : ∃ n, room = n + 1 := ⟨room - 1, by omega⟩
  have hroom : 1 ≤ room := by omega
  have hopen : open? fields (room + 1) (toTree p.toJson) = some (ofMembers room _) :=
    open?_object room rfl (by decide)
  rw [decoder, hopen]
  simp only [Option.bind_eq_bind, Option.bind_some, required_cons, defaulted_cons, String.reduceEq,
    if_true, if_false, decodes_text p.name room (Nat.zero_le room),
    decodes_texts _ room hroom]
  rfl

theorem isWhole_ofTexts (texts : List String) : (Json.ofTexts texts).isWhole = true := by
  rw [ofTexts, isWhole, allWhole_eq_all, List.all_map]
  exact List.all_eq_true.mpr fun _ _ => rfl

theorem isWhole_toJson (p : Profile) : p.toJson.isWhole = true := by
  simp only [toJson, isWhole, allMembersWhole, isWhole_ofTexts, Bool.and_self]

end Profile

namespace Provenance

theorem decodes_toJson (p : Provenance) : Decodes decoder 1 p.toJson p := by
  intro room hroom
  obtain ⟨room, rfl⟩ : ∃ n, room = n + 1 := ⟨room - 1, by omega⟩
  have hopen : open? fields (room + 1) (toTree p.toJson) = some (ofMembers room _) :=
    open?_object room rfl (by decide)
  rw [decoder, hopen]
  simp only [Option.bind_eq_bind, Option.bind_some, required_cons, optional_cons, String.reduceEq,
    if_true, if_false, decodes_text _ room (Nat.zero_le room),
    decodes_bool _ room (Nat.zero_le room), decodes_optionalInstant _ room (Nat.zero_le room)]
  rfl

theorem isWhole_toJson (p : Provenance) : p.toJson.isWhole = true := by
  obtain ⟨requestedAt, resolvedAt, _, cacheExpiresAt, _, _⟩ := p
  cases requestedAt <;> cases resolvedAt <;> cases cacheExpiresAt <;> rfl

end Provenance

namespace CheckResult

def Reordered (r r' : CheckResult) : Prop :=
  ∃ members, members.Perm r.extraData ∧ r' = { r with extraData := members }

theorem decodes_optionalText (o : Option String) :
    Decodes (Decoder.text.optional) 0 (ofOption .string o) o :=
  decodes_optional decodes_text (by simp [toTree])

theorem decodes_toJson {r r' : CheckResult} {k : Nat} (hr : r.Reordered r')
    (h : isStorable k (.object r.extraData) = true) : Decodes decoder (k + 1) r'.toJson r := by
  obtain ⟨members, hperm, rfl⟩ := hr
  intro room hroom
  obtain ⟨room, rfl⟩ : ∃ n, room = n + 1 := ⟨room - 1, by omega⟩
  have hk : k ≤ room := by omega
  have hpos : 1 ≤ room := by
    cases k with
    | zero => cases h
    | succ k => omega
  have hopen : open? fields (room + 1) (toTree (toJson { r with extraData := members })) =
      some (ofMembers room _) := open?_object room rfl (by decide)
  rw [decoder, hopen]
  simp only [Option.bind_eq_bind, Option.bind_some, required_cons, optional_cons, defaulted_cons,
    String.reduceEq, if_true, if_false, decodes_text _ room (Nat.zero_le room),
    decodes_checkType r.checkType room (Nat.zero_le room),
    decodes_availability r.available room (Nat.zero_le room),
    decodes_optionalText r.tld room (Nat.zero_le room),
    decodes_statusCode r.statusCode room (Nat.zero_le room),
    decodes_extraData hperm h room hk, Provenance.decodes_toJson r.provenance room hpos]
  rfl

theorem isWhole_toJson {r r' : CheckResult} {k : Nat} (hr : r.Reordered r')
    (h : isStorable k (.object r.extraData) = true) : r'.toJson.isWhole = true := by
  obtain ⟨members, hperm, rfl⟩ := hr
  have hextra : isWhole (.object members) = true := by
    have hsorted := isWhole_of_isStorable _ h
    rw [isWhole, allMembersWhole_eq_all] at hsorted ⊢
    rw [hperm.all_eq, hsorted]
  obtain ⟨_, _, tld, _, statusCode, _, _, provenance⟩ := r
  simp only [toJson, isWhole, allMembersWhole] at hextra ⊢
  rw [hextra, provenance.isWhole_toJson]
  cases tld <;> cases statusCode <;> rfl

end CheckResult

namespace Report

def Reordered (b b' : Report) : Prop :=
  ∃ results, List.Forall₂ CheckResult.Reordered b.results results ∧ b' = { b with results }

variable {b b' : Report} {k : Nat}

theorem decodes_toJson (hb : b.Reordered b')
    (h : ∀ r ∈ b.results, isStorable k (.object r.extraData) = true) :
    Decodes decoder (k + 3) b'.toJson b := by
  obtain ⟨results, hresults, rfl⟩ := hb
  intro room hroom
  obtain ⟨room, rfl⟩ : ∃ n, room = n + 1 := ⟨room - 1, by omega⟩
  have hk : k + 1 + 1 ≤ room := by omega
  have hitems : Decodes (.list CheckResult.decoder) (k + 1 + 1)
      (.array (results.map CheckResult.toJson)) b.results := by
    have hboth := (List.forall₂_and_left _ _).mpr ⟨h, hresults⟩
    refine decodes_items (List.forall₂_map_left_iff.mpr (.flip (hboth.imp ?_)))
    exact fun r r' hr => CheckResult.decodes_toJson hr.2 hr.1
  have hopen : open? fields (room + 1) (toTree (toJson { b with results })) =
      some (ofMembers room _) := open?_object room rfl (by decide)
  rw [decoder, hopen]
  simp only [Option.bind_eq_bind, Option.bind_some, required_cons, String.reduceEq, if_true,
    if_false, decodes_text _ room (Nat.zero_le room), hitems room hk,
    decodes_uint64 _ room (Nat.zero_le room), decodes_instant _ room (Nat.zero_le room)]
  rfl

theorem isWhole_toJson (hb : b.Reordered b')
    (h : ∀ r ∈ b.results, isStorable k (.object r.extraData) = true) :
    b'.toJson.isWhole = true := by
  obtain ⟨results, hresults, rfl⟩ := hb
  have hboth := (List.forall₂_and_left _ _).mpr ⟨h, hresults⟩
  have hwhole : ∀ r' ∈ results, r'.toJson.isWhole = true :=
    ((List.forall₂_and_left (R := fun _ _ => True) results b.results).mp
      (.flip (hboth.imp fun _ _ hr => ⟨CheckResult.isWhole_toJson hr.2 hr.1, trivial⟩))).1
  have hitems : allWhole (results.map CheckResult.toJson) = true := by
    rw [allWhole_eq_all, List.all_map]
    exact List.all_eq_true.mpr hwhole
  simp only [toJson, isWhole, allMembersWhole, hitems]
  rfl

end Report

namespace Row

theorem decodes_toJson (r : Row) : Decodes decoder 1 r.toJson r := by
  intro room hroom
  obtain ⟨room, rfl⟩ : ∃ n, room = n + 1 := ⟨room - 1, by omega⟩
  have hopen : open? fields (room + 1) (toTree r.toJson) = some (ofMembers room _) :=
    open?_object room rfl (by decide)
  rw [decoder, hopen]
  simp only [Option.bind_eq_bind, Option.bind_some, required_cons, optional_cons, String.reduceEq,
    if_true, if_false, decodes_text r.endpoint room (Nat.zero_le room),
    decodes_uint32 r.requestCount room (Nat.zero_le room),
    decodes_instant r.windowStart room (Nat.zero_le room),
    decodes_optionalInstant _ room (Nat.zero_le room)]
  rfl

theorem isWhole_toJson (r : Row) : r.toJson.isWhole = true := by
  obtain ⟨endpoint, requestCount, windowStart, backoffUntil, last429At⟩ := r
  cases backoffUntil <;> cases last429At <;> rfl

end Row

namespace Entry

theorem decodes_toJson (e : Entry) : Decodes decoder 1 e.toJson e := by
  intro room hroom
  obtain ⟨room, rfl⟩ : ∃ n, room = n + 1 := ⟨room - 1, by omega⟩
  have hopen : open? fields (room + 1) (toTree e.toJson) = some (ofMembers room _) :=
    open?_object room rfl (by decide)
  rw [decoder, hopen]
  simp only [Option.bind_eq_bind, Option.bind_some, required_cons, optional_cons, String.reduceEq,
    if_true, if_false, decodes_text _ room (Nat.zero_le room),
    decodes_checkType e.checkType room (Nat.zero_le room),
    decodes_availability e.available room (Nat.zero_le room),
    decodes_statusCode e.statusCode room (Nat.zero_le room),
    decodes_instant _ room (Nat.zero_le room)]
  rfl

theorem isWhole_toJson (e : Entry) : e.toJson.isWhole = true := by
  obtain ⟨_, _, _, _, statusCode, _, _, _, _⟩ := e
  cases statusCode <;> rfl

end Entry

namespace Json

def ReadsBack {α : Type} (d : Decoder α) (j : Json) (a : α) : Prop :=
  decode? d (compact j) = some a ∧ decode? d (pretty j) = some a

theorem readsBack {α : Type} {d : Decoder α} {k : Nat} {j : Json} {a : α} (hj : isWhole j = true)
    (hd : Decodes d k j a) (hk : k ≤ maxDepth) : ReadsBack d j a :=
  ⟨decode?_compact hj hd hk, decode?_pretty hj hd hk⟩

/-- Profiles, results, reports, rows and cached answers are read back from their texts. The extra
members of a result may have been written in any order; their numbers must be integers of 64 bits,
and they must leave enough of the levels that a text may have. -/
theorem texts_read_back :
    (∀ p : Profile, ReadsBack Profile.decoder p.toJson p) ∧
    (∀ r r' : CheckResult, r.Reordered r' →
      isStorable (maxDepth - 1) (.object r.extraData) = true →
        ReadsBack CheckResult.decoder r'.toJson r) ∧
    (∀ b b' : Report, b.Reordered b' →
      (∀ r ∈ b.results, isStorable (maxDepth - 3) (.object r.extraData) = true) →
        ReadsBack Report.decoder b'.toJson b) ∧
    (∀ r : Row, ReadsBack Row.decoder r.toJson r) ∧
    ∀ e : Entry, ReadsBack Entry.decoder e.toJson e := by
  refine ⟨fun p => ?_, fun r r' hr h => ?_, fun b b' hb h => ?_, fun r => ?_, fun e => ?_⟩
  · exact readsBack p.isWhole_toJson p.decodes_toJson (by decide)
  · exact readsBack (CheckResult.isWhole_toJson hr h) (CheckResult.decodes_toJson hr h) (by decide)
  · exact readsBack (Report.isWhole_toJson hb h) (Report.decodes_toJson hb h) (by decide)
  · exact readsBack r.isWhole_toJson r.decodes_toJson (by decide)
  · exact readsBack e.isWhole_toJson e.decodes_toJson (by decide)

/-- A report of one result: with two extra members in the order given, some text that has to be
escaped, a year before the first and a moment in a leap second. -/
def knotted (extraData : List (String × Json)) : Report :=
  { name := "\u0001\"\\é", score := 0, total := 18446744073709551615, unknown := 1
    completedAt := (Instant.of? 1483228799 1800000000).getD .epoch
    results := [
      { name := "acme.co.uk", checkType := .domain, tld := some "co.uk", available := .unknown
        statusCode := some 65535, message := "\n", extraData
        provenance :=
          { Provenance.empty with
            requestedAt := some (Instant.epoch.addOrMax (.ofSeconds (-62198755200))) } }] }

def least : String × Json := ("least", .int (-9223372036854775808))

def nested : String × Json := ("nested", .object [("", .array [.null, .bool true, .object []])])

theorem texts_read_back_knotted :
    ReadsBack Report.decoder (knotted [nested, least]).toJson (knotted [least, nested]) := by
  refine texts_read_back.2.2.1 _ _ ⟨(knotted [nested, least]).results, ?_, rfl⟩ fun r hr => ?_
  · exact .cons ⟨[nested, least], .swap .., rfl⟩ .nil
  · cases List.mem_singleton.mp hr
    decide

end Json

end NameScout
