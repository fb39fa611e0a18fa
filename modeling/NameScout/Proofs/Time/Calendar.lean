import NameScout.Time.Calendar

namespace NameScout.Date

def yearStart (year : Int) : Int :=
  365 * year + year / 4 - year / 100 + year / 400

def evenDays (day : Int) : Int :=
  day - day / 1460 + day / 36524 - day / 146096

theorem evenDays_mono {a b : Int} (h : a ≤ b) : evenDays a ≤ evenDays b := by
  have h4 : a - a / 1460 ≤ b - b / 1460 := by omega
  have h100 : a / 36524 - a / 146096 ≤ b / 36524 - b / 146096 := by omega
  unfold evenDays
  omega

theorem evenDays_first : ∀ year < 400, evenDays (yearStart (year : Nat)) / 365 = year := by
  decide +kernel

theorem evenDays_last : ∀ year < 400, evenDays (yearStart (year + 1 : Nat) - 1) / 365 = year := by
  decide +kernel

theorem yearOfEra_bounds {day : Int} (h0 : 0 ≤ day) (h1 : day < 146097) :
    0 ≤ evenDays day / 365 ∧ evenDays day / 365 < 400 := by
  unfold evenDays
  omega

theorem yearStart_le {day : Int} (h0 : 0 ≤ day) (h1 : day < 146097) :
    yearStart (evenDays day / 365) ≤ day := by
  obtain ⟨hlow, hhigh⟩ := yearOfEra_bounds h0 h1
  obtain ⟨year, hyear⟩ := Int.eq_ofNat_of_zero_le hlow
  rw [hyear] at hhigh ⊢
  cases year with
  | zero => exact h0
  | succ year =>
      have hlast := evenDays_last year (by omega)
      refine Int.not_lt.mp fun hlt => ?_
      have hmono := evenDays_mono (show day ≤ yearStart (year + 1 : Nat) - 1 by omega)
      omega

theorem lt_yearStart_succ {day : Int} (h0 : 0 ≤ day) (h1 : day < 146097) :
    day < yearStart (evenDays day / 365 + 1) := by
  obtain ⟨hlow, hhigh⟩ := yearOfEra_bounds h0 h1
  obtain ⟨year, hyear⟩ := Int.eq_ofNat_of_zero_le hlow
  rw [hyear] at hhigh ⊢
  by_cases hnext : year + 1 < 400
  · have hfirst := evenDays_first (year + 1) hnext
    rw [Int.natCast_succ] at hfirst
    refine Int.not_le.mp fun hle => ?_
    have hmono := evenDays_mono hle
    omega
  · have hlast : year = 399 := by omega
    subst hlast
    exact h1

theorem yearStart_of_lt {year : Int} (h0 : 0 ≤ year) (h1 : year < 400) :
    yearStart year = 365 * year + year / 4 - year / 100 := by
  unfold yearStart
  omega

def ofYearDay (year day : Int) : Date :=
  let month := (5 * day + 2) / 153
  ⟨if month < 10 then year else year + 1, (if month < 10 then month + 3 else month - 9).toNat,
    (day - (153 * month + 2) / 5 + 1).toNat⟩

theorem ofYearDay_eq {year day : Int} (h0 : 0 ≤ day) (h1 : day < 366) :
    let month := (5 * day + 2) / 153
    let month := if month < 10 then month + 3 else month - 9
    ofYearDay year day = ⟨if month ≤ 2 then year + 1 else year, month.toNat,
      (day - (153 * ((5 * day + 2) / 153) + 2) / 5 + 1).toNat⟩ := by
  intro month month'
  rw [ofYearDay]
  congr 1
  by_cases hm : (5 * day + 2) / 153 < 10
  · rw [if_pos hm, if_neg (by simp only [month', month, if_pos hm]; omega)]
  · rw [if_neg hm, if_pos (by simp only [month', month, if_neg hm]; omega)]

theorem yearStart_succ_le (year : Int) : yearStart (year + 1) ≤ yearStart year + 366 := by
  unfold yearStart
  omega

theorem exists_ofDays (days : Int) : ∃ era year day : Int,
    0 ≤ year ∧ year < 400 ∧ 0 ≤ day ∧ yearStart year + day < yearStart (year + 1) ∧
      days + 719468 = era * 146097 + yearStart year + day ∧
      ofDays days = ofYearDay (year + era * 400) day := by
  have h0 : 0 ≤ (days + 719468) % 146097 := Int.emod_nonneg _ (by decide)
  have h1 : (days + 719468) % 146097 < 146097 := Int.emod_lt_of_pos _ (by decide)
  obtain ⟨hlow, hhigh⟩ := yearOfEra_bounds h0 h1
  have hstart := yearStart_le h0 h1
  have hnext := lt_yearStart_succ h0 h1
  have hlong := yearStart_succ_le (evenDays ((days + 719468) % 146097) / 365)
  refine ⟨(days + 719468) / 146097, evenDays ((days + 719468) % 146097) / 365,
    (days + 719468) % 146097 - yearStart (evenDays ((days + 719468) % 146097) / 365),
    hlow, hhigh, by omega, by omega, by omega, ?_⟩
  rw [ofYearDay_eq (by omega) (by omega), yearStart_of_lt hlow hhigh]
  rfl

theorem toDays_ofYearDay {era year day : Int} (h0 : 0 ≤ year) (h1 : year < 400) (hd : 0 ≤ day)
    (hnext : yearStart year + day < yearStart (year + 1)) :
    (ofYearDay (year + era * 400) day).toDays =
      era * 146097 + yearStart year + day - 719468 := by
  have hlong := yearStart_succ_le year
  have hera : (year + era * 400) / 400 = era := by omega
  have hyear : (year + era * 400) % 400 = year := by omega
  have hday : ((day - (153 * ((5 * day + 2) / 153) + 2) / 5 + 1).toNat : Int) =
      day - (153 * ((5 * day + 2) / 153) + 2) / 5 + 1 := Int.toNat_of_nonneg (by omega)
  rw [yearStart_of_lt h0 h1]
  by_cases hm : (5 * day + 2) / 153 < 10
  · have hmonth : ((((5 * day + 2) / 153 + 3).toNat : Int) + 9) % 12 = (5 * day + 2) / 153 := by
      omega
    have hmarch : ¬ ((5 * day + 2) / 153 + 3).toNat ≤ 2 := by omega
    simp only [toDays, ofYearDay, if_pos hm, if_neg hmarch, hera, hyear, hmonth, hday]
    omega
  · have hmonth : ((((5 * day + 2) / 153 - 9).toNat : Int) + 9) % 12 = (5 * day + 2) / 153 := by
      omega
    have hmarch : ((5 * day + 2) / 153 - 9).toNat ≤ 2 := by omega
    have hback : year + era * 400 + 1 - 1 = year + era * 400 := by omega
    simp only [toDays, ofYearDay, if_neg hm, if_pos hmarch, hback, hera, hyear, hmonth, hday]
    omega

theorem toDays_ofDays (days : Int) : (ofDays days).toDays = days := by
  obtain ⟨era, year, day, h0, h1, hd, hnext, hdays, hof⟩ := exists_ofDays days
  rw [hof, toDays_ofYearDay h0 h1 hd hnext]
  omega

theorem isLeap_add_era (year era : Int) : isLeap (year + era * 400) = isLeap year := by
  have h4 : (year + era * 400) % 4 = year % 4 := by omega
  have h100 : (year + era * 400) % 100 = year % 100 := by omega
  have h400 : (year + era * 400) % 400 = year % 400 := by omega
  rw [isLeap, isLeap, h4, h100, h400]

theorem isLeap_of_long {year : Int} (h0 : 0 ≤ year) (h1 : year < 400)
    (h : yearStart year + 365 < yearStart (year + 1)) : isLeap (year + 1) = true := by
  simp only [isLeap, Bool.and_eq_true, Bool.or_eq_true, beq_iff_eq, bne_iff_ne]
  unfold yearStart at h
  omega

theorem day_le_monthLength (era : Int) {year day : Int} (h0 : 0 ≤ year) (h1 : year < 400)
    (hd : 0 ≤ day) (hnext : yearStart year + day < yearStart (year + 1)) :
    (ofYearDay (year + era * 400) day).day ≤
      monthLength (ofYearDay (year + era * 400) day).year
        (ofYearDay (year + era * 400) day).month := by
  have hlong := yearStart_succ_le year
  simp only [ofYearDay]
  have hbound : day < (153 * ((5 * day + 2) / 153) + 2) / 5 + 31 := by omega
  generalize hm : (5 * day + 2) / 153 = month at hbound ⊢
  have hcases : month = 0 ∨ month = 1 ∨ month = 2 ∨ month = 3 ∨ month = 4 ∨ month = 5 ∨ month = 6 ∨
      month = 7 ∨ month = 8 ∨ month = 9 ∨ month = 10 ∨ month = 11 := by omega
  rcases hcases with rfl | rfl | rfl | rfl | rfl | rfl | rfl | rfl | rfl | rfl | rfl | rfl
  case inr.inr.inr.inr.inr.inr.inr.inr.inr.inr.inr =>
    have hfebruary : monthLength (year + era * 400 + 1) 2 =
        if isLeap (year + 1) then 29 else 28 := by
      rw [show year + era * 400 + 1 = year + 1 + era * 400 by omega, monthLength, isLeap_add_era]
    change (day - 337 + 1).toNat ≤ monthLength (year + era * 400 + 1) 2
    rw [hfebruary]
    by_cases hleap : day = 365
    · rw [isLeap_of_long h0 h1 (hleap ▸ hnext), if_pos rfl]
      omega
    · split <;> omega
  all_goals first
    | change _ ≤ 30
      omega
    | change _ ≤ 31
      omega

theorem bounds_of_of? {year : Int} {month day : Nat} {date : Date}
    (h : of? year month day = some date) : firstYear ≤ year ∧ year ≤ lastYear ∧ 1 ≤ month ∧
      month ≤ 12 ∧ 1 ≤ day ∧ day ≤ monthLength year month := by
  unfold of? at h
  split at h
  · assumption
  · cases h

theorem monthLength_le (year : Int) (month : Nat) : monthLength year month ≤ 31 := by
  unfold monthLength
  split
  · split <;> decide
  all_goals decide

theorem of?_ofDays (days : Int) (hfirst : -96465292 ≤ days) (hlast : days ≤ 95026236) :
    of? (ofDays days).year (ofDays days).month (ofDays days).day = some (ofDays days) := by
  obtain ⟨era, year, day, h0, h1, hd, hnext, hdays, hof⟩ := exists_ofDays days
  have hday := day_le_monthLength era h0 h1 hd hnext
  rw [hof]
  have hyear : firstYear ≤ (ofYearDay (year + era * 400) day).year ∧
      (ofYearDay (year + era * 400) day).year ≤ lastYear := by
    simp only [ofYearDay, firstYear, lastYear]
    have hlong := yearStart_succ_le year
    rw [yearStart_of_lt h0 h1] at hdays hlong hnext
    have hera : -656 ≤ era ∧ era ≤ 655 := by omega
    by_cases hfirstEra : era = -656
    · subst hfirstEra
      split <;> omega
    by_cases hlastEra : era = 655
    · subst hlastEra
      split <;> omega
    split <;> omega
  have hmonth : 1 ≤ (ofYearDay (year + era * 400) day).month ∧
      (ofYearDay (year + era * 400) day).month ≤ 12 := by
    have hlong := yearStart_succ_le year
    simp only [ofYearDay]
    split <;> omega
  have hpos : 1 ≤ (ofYearDay (year + era * 400) day).day := by
    simp only [ofYearDay]
    omega
  exact if_pos ⟨hyear.1, hyear.2, hmonth.1, hmonth.2, hpos, hday⟩

end NameScout.Date
