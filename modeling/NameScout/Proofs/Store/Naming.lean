import NameScout.Proofs.Text.Pieces
import NameScout.Store.Path

namespace NameScout.Path

/-- The extension of the last component of a path: what follows its last dot, unless that dot
begins the component. -/
def extension? (path : String) : Option String :=
  let last := (split path).2
  if last = ['.', '.'] then none
  else match last.reverse.dropWhile (· != '.') with
    | _ :: _ :: _ => some (String.ofList (last.reverse.takeWhile (· != '.')).reverse)
    | _ => none

def stepsOf (cs : List Char) : List String :=
  (Text.splitOn (· == '/') cs).filterMap fun piece =>
    if piece.isEmpty || piece == ['.'] then none else some (String.ofList piece)

theorem stepsOf_append_slash (xs ys : List Char) :
    stepsOf (xs ++ '/' :: ys) = stepsOf xs ++ stepsOf ys := by
  rw [stepsOf, stepsOf, stepsOf, Text.splitOn_eq_splitOnP, List.splitOnP_append_cons xs ys (by rfl),
    List.filterMap_append, Text.splitOn_eq_splitOnP, Text.splitOn_eq_splitOnP]

theorem stepsOf_append_end (xs : List Char) : stepsOf (xs ++ ['/']) = stepsOf xs := by
  rw [stepsOf_append_slash]
  exact List.append_nil _

theorem stepsOf_single {cs : List Char} (h : ∀ c ∈ cs, c ≠ '/') :
    stepsOf cs = if cs = [] ∨ cs = ['.'] then [] else [String.ofList cs] := by
  rw [stepsOf, Text.splitOn_eq_splitOnP, List.splitOnP_eq_singleton (by simpa using h)]
  by_cases hnil : cs = []
  · simp [hnil]
  · by_cases hdot : cs = ['.']
    · simp [hdot]
    · simp [hnil, hdot]

theorem stepsOf_stripEnd (cs : List Char) : stepsOf (stripEnd cs).reverse = stepsOf cs.reverse := by
  fun_induction stripEnd cs with
  | case1 cs ih => rw [ih, List.reverse_cons, stepsOf_append_end]
  | case2 cs ih =>
      rw [ih, List.reverse_cons, List.reverse_cons, List.reverse_cons, List.append_assoc,
        stepsOf_append_end]
      exact ((stepsOf_append_slash cs.reverse ['.']).trans (List.append_nil _)).symm
  | case3 cs => rfl

theorem stripEnd_shape (cs : List Char) : (∀ rest, stripEnd cs ≠ '/' :: rest) ∧
    ∀ rest, stripEnd cs ≠ '.' :: '/' :: rest := by
  fun_induction stripEnd cs with
  | case1 cs ih => exact ih
  | case2 cs ih => exact ih
  | case3 cs hslash hdot => exact ⟨hslash, hdot⟩

theorem slash_of_stripEnd_eq_nil {cs : List Char} (h : stripEnd cs = []) :
    ∀ c ∈ cs.getLast?, c = '/' := by
  fun_induction stripEnd cs with
  | case1 cs ih =>
      intro c hc
      cases cs with
      | nil =>
          cases hc
          rfl
      | cons d cs =>
          rw [List.getLast?_cons_cons] at hc
          exact ih h c hc
  | case2 cs ih =>
      intro c hc
      rw [List.getLast?_cons_cons] at hc
      exact ih h c hc
  | case3 cs hslash hdot =>
      intro c hc
      rw [h] at hc
      cases hc

section Split

variable (path : String)

def before : List Char :=
  (split path).1

def last : List Char :=
  (split path).2

theorem before_append_last : before path ++ last path = (stripEnd path.toList.reverse).reverse := by
  change ((stripEnd path.toList.reverse).dropWhile (· != '/')).reverse ++
    ((stripEnd path.toList.reverse).takeWhile (· != '/')).reverse = _
  rw [← List.reverse_append, List.takeWhile_append_dropWhile]

theorem before_shape : before path = [] ∨ ∃ start, before path = start ++ ['/'] := by
  change ((stripEnd path.toList.reverse).dropWhile (· != '/')).reverse = [] ∨
    ∃ start, ((stripEnd path.toList.reverse).dropWhile (· != '/')).reverse = start ++ ['/']
  cases h : (stripEnd path.toList.reverse).dropWhile (· != '/') with
  | nil => exact .inl rfl
  | cons c cs =>
      have hc := List.head?_dropWhile_not (· != '/') (stripEnd path.toList.reverse)
      rw [h] at hc
      have hslash : c = '/' := by simpa using hc
      exact .inr ⟨cs.reverse, by rw [List.reverse_cons, hslash]⟩

theorem not_slash_of_mem_last : ∀ c ∈ last path, c ≠ '/' := by
  intro c hc
  have hall := List.all_takeWhile (p := (· != '/')) (l := stripEnd path.toList.reverse)
  simpa using List.all_eq_true.mp hall c (List.mem_reverse.mp hc)

theorem stepsOf_before_append (cs : List Char) :
    stepsOf (before path ++ cs) = stepsOf (before path) ++ stepsOf cs := by
  rcases before_shape path with h | ⟨start, h⟩
  · rw [h]
    rfl
  · rw [h, stepsOf_append_end, List.append_assoc]
    exact stepsOf_append_slash start cs

theorem steps_eq : steps path = stepsOf (before path) ++ stepsOf (last path) := by
  rw [← stepsOf_before_append, before_append_last, stepsOf_stripEnd, List.reverse_reverse]
  rfl

/-- Whether the last component of a path is the name of a file. -/
def Named : Prop :=
  last path ≠ [] ∧ last path ≠ ['.'] ∧ last path ≠ ['.', '.']

end Split

variable {path : String}

theorem steps_of_named (h : Named path) :
    steps path = stepsOf (before path) ++ [String.ofList (last path)] := by
  rw [steps_eq, stepsOf_single (not_slash_of_mem_last path), if_neg]
  rintro (hnil | hdot)
  · exact h.1 hnil
  · exact h.2.1 hdot

theorem last_of_not_named (h : ¬ Named path) :
    last path = [] ∨ last path = ['.'] ∨ last path = ['.', '.'] := by
  by_cases hnil : last path = []
  · exact .inl hnil
  by_cases hdot : last path = ['.']
  · exact .inr (.inl hdot)
  by_cases hup : last path = ['.', '.']
  · exact .inr (.inr hup)
  · exact absurd ⟨hnil, hdot, hup⟩ h

theorem before_eq_nil (h : last path = [] ∨ last path = ['.']) : before path = [] := by
  have hback := before_append_last path
  obtain ⟨hslash, hdot⟩ := stripEnd_shape path.toList.reverse
  rcases before_shape path with hb | ⟨start, hb⟩
  · exact hb
  · rw [hb] at hback
    rcases h with h | h
    · rw [h, List.append_nil] at hback
      exact absurd (by rw [← List.reverse_reverse (stripEnd _), ← hback, List.reverse_append]; rfl)
        (hslash start.reverse)
    · rw [h] at hback
      exact absurd (by rw [← List.reverse_reverse (stripEnd _), ← hback, List.reverse_append,
        List.reverse_append]; rfl) (hdot start.reverse)

theorem steps_of_not_named (h : ¬ Named path) :
    steps path = [] ∨ steps path = stepsOf (before path) ++ [".."] := by
  rw [steps_eq]
  rcases last_of_not_named h with hlast | hlast | hlast
  · rw [before_eq_nil (.inl hlast), hlast]
    exact .inl rfl
  · rw [before_eq_nil (.inr hlast), hlast]
    exact .inl rfl
  · rw [hlast]
    exact .inr rfl

theorem steps_ofList (cs : List Char) : steps (String.ofList cs) = stepsOf cs := by
  rw [steps, String.toList_ofList]
  rfl

theorem steps_parent? {dir : String} (h : parent? path = some dir) :
    steps dir = stepsOf (before path) := by
  change (if (last path).isEmpty = true then none else
    some (String.ofList (if ((stripEnd (before path).reverse).reverse).isEmpty = true
      then (before path).take 1 else (stripEnd (before path).reverse).reverse))) = some dir at h
  split at h
  · cases h
  · cases h
    have hkept := stepsOf_stripEnd (before path).reverse
    rw [List.reverse_reverse] at hkept
    rw [steps_ofList]
    split
    · rename_i hnil
      rw [List.isEmpty_iff, List.reverse_eq_nil_iff] at hnil
      rw [hnil] at hkept
      rw [← hkept]
      have hslash := slash_of_stripEnd_eq_nil hnil
      rw [List.getLast?_reverse] at hslash
      cases hb : before path with
      | nil => rfl
      | cons c cs =>
          rw [hb] at hslash
          rw [hslash c rfl]
          rfl
    · exact hkept

theorem withExtension_eq (ext : String) : withExtension path ext =
    if (last path).isEmpty || last path == ['.'] || last path == ['.', '.'] then path
    else String.ofList (before path ++ stem (last path) ++ '.' :: ext.toList) :=
  rfl

theorem withExtension_of_not_named (h : ¬ Named path) (ext : String) :
    withExtension path ext = path := by
  rw [withExtension_eq, if_pos]
  simpa [or_assoc] using last_of_not_named h

theorem stem_ne_nil {name : List Char} (h : name ≠ []) : stem name ≠ [] := by
  unfold stem
  split
  · simp
  · exact h

theorem mem_of_mem_stem {name : List Char} {c : Char} (h : c ∈ stem name) : c ∈ name := by
  unfold stem at h
  split at h
  · rename_i heq
    have hmem : c ∈ name.reverse.dropWhile (· != '.') := by
      rw [heq]
      exact List.mem_cons_of_mem _ (List.mem_reverse.mp h)
    exact List.mem_reverse.mp (List.dropWhile_subset _ hmem)
  · exact h

def renamed (path ext : String) : List Char :=
  stem (last path) ++ '.' :: ext.toList

theorem steps_withExtension (h : Named path) {ext : String} (hext : '/' ∉ ext.toList) :
    steps (withExtension path ext) =
      stepsOf (before path) ++ [String.ofList (renamed path ext)] := by
  obtain ⟨hnil, hdot, hup⟩ := h
  have hslash : ∀ c ∈ renamed path ext, c ≠ '/' := by
    intro c hc
    rcases List.mem_append.mp hc with hc | hc
    · exact not_slash_of_mem_last path c (mem_of_mem_stem hc)
    · rcases List.mem_cons.mp hc with rfl | hc
      · decide
      · exact fun h => hext (h ▸ hc)
  have hstem := stem_ne_nil hnil
  rw [withExtension_eq, if_neg (by simp [hnil, hdot, hup]), steps_ofList, List.append_assoc,
    stepsOf_before_append]
  change _ ++ stepsOf (renamed path ext) = _
  rw [stepsOf_single hslash, if_neg]
  obtain ⟨c, cs, hcs⟩ := List.exists_cons_of_ne_nil hstem
  simp [renamed, hcs]

theorem renamed_ne_last (h : Named path) {ext : String} (hdot : '.' ∉ ext.toList)
    (hext : extension? path ≠ some ext) : renamed path ext ≠ last path := by
  intro heq
  apply hext
  have hback : (renamed path ext).reverse =
      ext.toList.reverse ++ '.' :: (stem (last path)).reverse := by
    simp [renamed]
  rw [heq] at hback
  have hplain : ∀ c ∈ ext.toList.reverse, (c != '.') = true := by
    intro c hc
    have hne : c ≠ '.' := fun h => hdot (h ▸ List.mem_reverse.mp hc)
    simpa using hne
  obtain ⟨c, cs, hstem⟩ := List.exists_cons_of_ne_nil
    (List.reverse_ne_nil_iff.mpr (stem_ne_nil h.1))
  change (if last path = ['.', '.'] then none else
    match (last path).reverse.dropWhile (· != '.') with
    | _ :: _ :: _ => some (String.ofList ((last path).reverse.takeWhile (· != '.')).reverse)
    | _ => none) = some ext
  rw [if_neg h.2.2, hback, List.dropWhile_append_of_pos hplain, List.takeWhile_append_of_pos hplain,
    hstem]
  simp

end NameScout.Path
