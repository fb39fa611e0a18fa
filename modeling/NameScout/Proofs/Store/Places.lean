import NameScout.Store.Disk

namespace NameScout.Disk

variable {d d' : Disk}

def Reached (d : Disk) (place : List String) : Prop :=
  ∀ q, q <+: place → q ≠ place → d.node? q = some .directory

def Open (d : Disk) (place : List String) : Prop :=
  ∀ q, q <+: place → d.node? q = some .directory

theorem Open.node? {place : List String} (h : d.Open place) : d.node? place = some .directory :=
  h place List.prefix_rfl

theorem Open.of_prefix {p q : List String} (h : d.Open q) (hp : p <+: q) : d.Open p :=
  fun r hr => h r (hr.trans hp)

theorem Reached.open {place : List String} (h : d.Reached place)
    (hnode : d.node? place = some .directory) : d.Open place := by
  intro q hq
  by_cases hne : q = place
  · rw [hne, hnode]
  · exact h q hq hne

theorem reached_nil (d : Disk) : d.Reached [] := by
  intro q hq hne
  exact absurd (List.prefix_nil.mp hq) hne

theorem Open.dropLast {place : List String} (h : d.Open place) : d.Open place.dropLast :=
  h.of_prefix (List.dropLast_prefix place)

theorem Open.reached {place : List String} (h : d.Open place) : d.Reached place :=
  fun q hq _ => h q hq

theorem Open.reached_append {place : List String} (h : d.Open place) (step : String) :
    d.Reached (place ++ [step]) := by
  intro q hq hne
  rcases List.prefix_concat_iff.mp hq with hq | hq
  · exact absurd hq hne
  · exact h q hq

def next (place : List String) (step : String) : List String :=
  if step = ".." then place.dropLast else place ++ [step]

theorem enter_eq_ok_iff {place place' : List String} {step : String} :
    d.enter place step = .ok place' ↔
      d.node? place = some .directory ∧ (step = ".." ∨ step.utf8ByteSize ≤ 255) ∧
        next place step = place' := by
  unfold enter next
  split <;> rename_i hnode
  · simp [hnode]
  · simp [hnode]
  · rw [hnode]
    by_cases hup : step = ".."
    · simp [hup]
    · by_cases hlong : 255 < step.utf8ByteSize
      · simp [hup, hlong, show ¬ step.utf8ByteSize ≤ 255 by omega]
      · simp [hup, hlong, show step.utf8ByteSize ≤ 255 by omega]

theorem Open.reached_next {place : List String} (h : d.Open place) (step : String) :
    d.Reached (next place step) := by
  unfold next
  split
  · exact h.dropLast.reached
  · exact h.reached_append step

theorem reached_walk {steps : List String} {place place' : List String} (hr : d.Reached place)
    (h : steps.foldlM d.enter place = .ok place') : d.Reached place' := by
  induction steps generalizing place with
  | nil =>
      cases h
      exact hr
  | cons step steps ih =>
      rw [List.foldlM_cons] at h
      cases he : d.enter place step with
      | error e =>
          rw [he] at h
          cases h
      | ok next =>
          rw [he] at h
          obtain ⟨hnode, -, rfl⟩ := enter_eq_ok_iff.mp he
          exact ih ((hr.open hnode).reached_next step) h

def Grows (d d' : Disk) : Prop :=
  ∀ q, d.Open q → d'.Open q

theorem Grows.walk {steps : List String} {place place' : List String} (hg : Grows d d')
    (hr : d.Reached place) (h : steps.foldlM d.enter place = .ok place') :
    steps.foldlM d'.enter place = .ok place' := by
  induction steps generalizing place with
  | nil => exact h
  | cons step steps ih =>
      rw [List.foldlM_cons] at h ⊢
      cases he : d.enter place step with
      | error e =>
          rw [he] at h
          cases h
      | ok next =>
          rw [he] at h
          obtain ⟨hnode, hstep, rfl⟩ := enter_eq_ok_iff.mp he
          have hopen := hr.open hnode
          have he' := enter_eq_ok_iff.mpr ⟨(hg _ hopen).node?, hstep, rfl⟩
          rw [he']
          exact ih (hopen.reached_next step) h

def Askable (path : String) : Prop :=
  path.toList.contains '\x00' = false ∧ path ≠ "" ∧ path.utf8ByteSize ≤ longestPath

theorem ok_bind {ε α β : Type} (a : α) (f : α → Except ε β) : (Except.ok a >>= f) = f a :=
  rfl

theorem bind_eq_ok {ε α β : Type} {x : Except ε α} {f : α → Except ε β} {b : β}
    (h : x >>= f = .ok b) : ∃ a, x = .ok a ∧ f a = .ok b := by
  cases x with
  | error e => cases h
  | ok a => exact ⟨a, rfl, h⟩

theorem locate_eq_ok_iff {path : String} {place : List String} :
    d.locate path = .ok place ↔
      Askable path ∧ (Path.steps path).foldlM d.enter [] = .ok place ∧
        (Path.endsInDot path = true → d.node? place = some .directory) := by
  unfold locate Askable
  by_cases hnul : path.toList.contains '\x00' = true
  · rw [if_pos hnul]
    exact iff_of_false (fun h => by cases h) fun h => Bool.eq_false_iff.mp h.1.1 hnul
  rw [if_neg hnul]
  by_cases hempty : path = ""
  · rw [if_pos hempty]
    exact iff_of_false (fun h => by cases h) fun h => h.1.2.1 hempty
  rw [if_neg hempty]
  by_cases hlong : longestPath < path.utf8ByteSize
  · rw [if_pos hlong]
    exact iff_of_false (fun h => by cases h) fun h => Nat.not_lt.mpr h.1.2.2 hlong
  rw [if_neg hlong]
  have hask : path.toList.contains '\x00' = false ∧ path ≠ "" ∧ path.utf8ByteSize ≤ longestPath :=
    ⟨Bool.eq_false_iff.mpr hnul, hempty, Nat.le_of_not_lt hlong⟩
  rw [and_iff_right hask]
  cases hwalk : (Path.steps path).foldlM d.enter [] with
  | error e => exact iff_of_false (fun h => by cases h) fun h => by cases h.1
  | ok p =>
      change (ite _ _ _ : Except DiskError (List String)) = .ok place ↔ Except.ok p = .ok place ∧ _
      by_cases hdot : Path.endsInDot path = true
      · rw [if_pos hdot]
        split
        · rename_i hnode
          refine iff_of_false (fun h => by cases h) fun h => ?_
          cases h.1
          rw [hnode] at h
          cases h.2 hdot
        · rename_i hnode
          refine iff_of_false (fun h => by cases h) fun h => ?_
          cases h.1
          rw [hnode] at h
          cases h.2 hdot
        · rename_i hnode
          exact ⟨fun h => ⟨h, fun _ => by cases h; exact hnode⟩, fun h => h.1⟩
      · rw [if_neg hdot]
        exact ⟨fun h => ⟨h, fun h' => absurd h' hdot⟩, fun h => h.1⟩

theorem reached_of_locate {path : String} {place : List String} (h : d.locate path = .ok place) :
    d.Reached place :=
  reached_walk (reached_nil d) (locate_eq_ok_iff.mp h).2.1

theorem Grows.locate {path : String} {place : List String} (hg : Grows d d')
    (h : d.locate path = .ok place) : d'.locate path = .ok place := by
  obtain ⟨hask, hwalk, hdot⟩ := locate_eq_ok_iff.mp h
  refine locate_eq_ok_iff.mpr ⟨hask, hg.walk (reached_nil d) hwalk, fun hends => ?_⟩
  exact (hg _ ((reached_of_locate h).open (hdot hends))).node?

theorem isDirectory_eq_true_iff {path : String} :
    d.isDirectory path = true ↔ ∃ place, d.locate path = .ok place ∧ d.Open place := by
  unfold isDirectory
  cases h : d.locate path with
  | error e => simp
  | ok place =>
      have hopen : d.Open place ↔ d.node? place = some .directory :=
        ⟨fun ho => ho.node?, (reached_of_locate h).open⟩
      simp only [Except.ok.injEq, exists_eq_left', hopen]
      split <;> simp_all

theorem Grows.isDirectory {path : String} (hg : Grows d d') (h : d.isDirectory path = true) :
    d'.isDirectory path = true := by
  obtain ⟨place, hplace, hopen⟩ := isDirectory_eq_true_iff.mp h
  exact isDirectory_eq_true_iff.mpr ⟨place, hg.locate hplace, hg _ hopen⟩

theorem exists?_of_isDirectory {path : String} (h : d.isDirectory path = true) :
    d.exists? path = true := by
  obtain ⟨place, hplace, hopen⟩ := isDirectory_eq_true_iff.mp h
  unfold exists?
  simp only [hplace, hopen.node?]

def SameDirectories (d d' : Disk) : Prop :=
  ∀ q, d.Open q ↔ d'.Open q

namespace SameDirectories

theorem refl (d : Disk) : SameDirectories d d :=
  fun _ => Iff.rfl

theorem symm (h : SameDirectories d d') : SameDirectories d' d :=
  fun q => (h q).symm

theorem trans {d'' : Disk} (h : SameDirectories d d') (h' : SameDirectories d' d'') :
    SameDirectories d d'' :=
  fun q => (h q).trans (h' q)

theorem grows (h : SameDirectories d d') : Grows d d' :=
  fun q => (h q).mp

end SameDirectories

theorem ne_nil_of_node? {place : List String} (h : d.node? place ≠ some .directory) :
    place ≠ [] := by
  rintro rfl
  exact h rfl

theorem node?_put {place : List String} (n : Node) (hplace : place ≠ []) (q : List String) :
    (d.put place n).node? q = if q = place then some n else d.node? q := by
  cases q with
  | nil => rw [if_neg (Ne.symm hplace)]; rfl
  | cons => exact Table.get?_insert ..

theorem node?_remove {place : List String} (hplace : place ≠ []) (q : List String) :
    (d.remove place).node? q = if place <+: q then none else d.node? q := by
  cases q with
  | nil =>
      rw [if_neg fun h => hplace (List.prefix_nil.mp h)]
      rfl
  | cons step steps =>
      have h := Table.get?_filter_key d.nodes (fun p => !place.isPrefixOf p) (step :: steps)
      rw [show (d.remove place).node? (step :: steps) = _ from h]
      by_cases hp : place <+: step :: steps
      · rw [if_pos hp, List.isPrefixOf_iff_prefix.mpr hp]
        rfl
      · rw [if_neg hp, Bool.eq_false_iff.mpr fun h => hp (List.isPrefixOf_iff_prefix.mp h)]
        rfl

theorem sameDirectories_put_file {place : List String} (c : ByteArray)
    (h : d.node? place ≠ some .directory) : SameDirectories d (d.put place (.file c)) := by
  intro q
  constructor
  · intro ho r hr
    have hne : r ≠ place := by
      rintro rfl
      exact h (ho r hr)
    rw [node?_put _ (ne_nil_of_node? h), if_neg hne]
    exact ho r hr
  · intro ho r hr
    have hnode := ho r hr
    rw [node?_put _ (ne_nil_of_node? h)] at hnode
    split at hnode
    · cases hnode
    · exact hnode

theorem sameDirectories_remove {place : List String} {c : ByteArray}
    (h : d.node? place = some (.file c)) : SameDirectories d (d.remove place) := by
  have hplace : place ≠ [] := ne_nil_of_node? (by rw [h]; simp)
  intro q
  constructor
  · intro ho r hr
    rw [node?_remove hplace, if_neg, ho r hr]
    intro hp
    have hdir := ho place (hp.trans hr)
    rw [h] at hdir
    cases hdir
  · intro ho r hr
    have hnode := ho r hr
    rw [node?_remove hplace] at hnode
    split at hnode
    · cases hnode
    · exact hnode

theorem write_eq_ok_iff {path : String} {c : ByteArray} :
    d.write path c = .ok d' ↔ ∃ place, d.locate path = .ok place ∧
      d.node? place ≠ some .directory ∧ Path.wantsDirectory path = false ∧
        d.put place (.file c) = d' := by
  unfold write
  cases h : d.locate path with
  | error e => exact iff_of_false (fun h => by cases h) fun ⟨_, h, _⟩ => by cases h
  | ok place =>
      simp only [ok_bind, Except.ok.injEq, exists_eq_left']
      split
      · rename_i hnode
        simp [hnode]
      all_goals
        rename_i hnode
        cases hwants : Path.wantsDirectory path <;> simp [hnode]

theorem read_eq_ok_iff {path : String} {c : ByteArray} :
    d.read path = .ok c ↔ ∃ place, d.locate path = .ok place ∧
      d.node? place = some (.file c) ∧ Path.wantsDirectory path = false := by
  unfold read
  cases h : d.locate path with
  | error e => exact iff_of_false (fun h => by cases h) fun ⟨_, h, _⟩ => by cases h
  | ok place =>
      simp only [ok_bind, Except.ok.injEq, exists_eq_left']
      split
      all_goals
        rename_i hnode
        cases hwants : Path.wantsDirectory path <;> simp [hnode]

theorem of_rename_eq_ok {source target : String} (h : d.rename source target = .ok d') :
    ∃ c origin place, d.read source = .ok c ∧ d.locate source = .ok origin ∧
      d.locate target = .ok place ∧ d.node? place ≠ some .directory ∧
        Path.wantsDirectory target = false ∧
          (if origin = place then d else (d.remove origin).put place (.file c)) = d' := by
  obtain ⟨c, hread, h⟩ := bind_eq_ok h
  obtain ⟨origin, horigin, h⟩ := bind_eq_ok h
  obtain ⟨place, hplace, h⟩ := bind_eq_ok h
  refine ⟨c, origin, place, hread, horigin, hplace, ?_⟩
  split at h
  · cases h
  split at h
  · cases h
  rename_i hwants
  split at h
  · cases h
  · rename_i hnode
    refine ⟨hnode, Bool.eq_false_iff.mpr hwants, ?_⟩
    split at h
    · rename_i heq
      rw [if_pos heq]
      exact Except.ok.inj h
    · rename_i hne
      rw [if_neg hne]
      exact Except.ok.inj h

theorem grows_put_directory {place : List String} (h : d.node? place = none) :
    Grows d (d.put place .directory) := by
  have hplace : place ≠ [] := ne_nil_of_node? (by rw [h]; simp)
  intro q ho r hr
  rw [node?_put _ hplace]
  split
  · rfl
  · exact ho r hr

theorem isDirectory_of_makeDirectory {path : String} (h : d.makeDirectory path = .ok d') :
    d'.isDirectory path = true := by
  unfold makeDirectory at h
  obtain ⟨place, hplace, h⟩ := bind_eq_ok h
  split at h
  · cases h
  · rename_i hnode
    cases h
    have hgrows := grows_put_directory hnode
    have hplace' : place ≠ [] := ne_nil_of_node? (by rw [hnode]; simp)
    refine isDirectory_eq_true_iff.mpr ⟨place, hgrows.locate hplace, ?_⟩
    refine (reached_of_locate (hgrows.locate hplace)).open ?_
    rw [node?_put _ hplace', if_pos rfl]

theorem isDirectory_of_makeDirectories {fuel : Nat} {path : String} (hpath : path ≠ "")
    (h : makeDirectories fuel d path = .ok d') : d'.isDirectory path = true := by
  cases fuel with
  | zero => cases h
  | succ fuel =>
      rw [makeDirectories, if_neg hpath] at h
      split at h
      · rename_i hmake
        cases h
        exact isDirectory_of_makeDirectory hmake
      · split at h
        · obtain ⟨_, -, h⟩ := bind_eq_ok h
          obtain ⟨d₁, -, h⟩ := bind_eq_ok h
          split at h
          · rename_i hmake
            cases h
            exact isDirectory_of_makeDirectory hmake
          · split at h
            · rename_i hdir
              cases h
              exact hdir
            · cases h
        · cases h
      · split at h
        · rename_i hdir
          cases h
          exact hdir
        · cases h

end NameScout.Disk
