import Storyline.Time.Calendar

namespace Storyline.Time

def yearLength (year : Nat) : Nat := if isLeap year then 366 else 365

theorem daysBeforeYear_eq (n : Nat) :
    daysBeforeYear (n + 1) = 365 * n + n / 4 - n / 100 + n / 400 := rfl

/-- A count of multiples goes up by one at each multiple. -/
theorem div_succ (n k : Nat) : (n + 1) / k = n / k + if (n + 1) % k = 0 then 1 else 0 := by
  rw [Nat.succ_div]
  simp only [Nat.dvd_iff_mod_eq_zero]

theorem daysBeforeYear_succ {year : Nat} (h : 1 ≤ year) :
    daysBeforeYear (year + 1) = daysBeforeYear year + yearLength year := by
  obtain ⟨n, rfl⟩ : ∃ n, year = n + 1 := ⟨year - 1, by omega⟩
  have hleap : isLeap (n + 1) = true ↔
      (n + 1) % 4 = 0 ∧ ((n + 1) % 100 ≠ 0 ∨ (n + 1) % 400 = 0) := by simp [isLeap]
  have hle : n / 100 ≤ n / 4 := by omega
  have h100 : (n + 1) % 100 = 0 → (n + 1) % 4 = 0 := by omega
  have h400 : (n + 1) % 400 = 0 → (n + 1) % 100 = 0 := by omega
  rw [daysBeforeYear_eq, daysBeforeYear_eq, div_succ n 4, div_succ n 100, div_succ n 400, yearLength]
  simp only [hleap]
  generalize n / 4 = a, n / 100 = b, n / 400 = c at *
  by_cases p4 : (n + 1) % 4 = 0 <;> by_cases p100 : (n + 1) % 100 = 0 <;>
    by_cases p400 : (n + 1) % 400 = 0 <;>
    simp only [p4, p100, p400, if_true, if_false, ne_eq, not_true_eq_false, not_false_eq_true,
      or_true, or_false, and_true, and_false, or_self, and_self] <;> omega

theorem daysBeforeYear_le {a b : Nat} (ha : 1 ≤ a) (h : a ≤ b) :
    daysBeforeYear a ≤ daysBeforeYear b := by
  induction h with
  | refl => exact Nat.le_refl _
  | step hle ih =>
    rw [daysBeforeYear_succ (Nat.le_trans ha hle)]
    exact Nat.le_trans ih (Nat.le_add_right _ _)

/-- The days before the end of the year 9999. -/
theorem daysBeforeYear_end : daysBeforeYear 10000 = 3652059 := rfl

/-- If enough years are tried, the one is found that a day is in. -/
theorem yearFrom_holds {day : Nat} : ∀ {tries year : Nat}, daysBeforeYear year ≤ day →
    day < daysBeforeYear (year + tries + 1) →
    year ≤ yearFrom day tries year ∧ daysBeforeYear (yearFrom day tries year) ≤ day ∧
      day < daysBeforeYear (yearFrom day tries year + 1)
  | 0, _, hfrom, hto => ⟨Nat.le_refl _, hfrom, hto⟩
  | tries + 1, year, hfrom, hto => by
    rw [yearFrom]
    split
    · rename_i hnext
      obtain ⟨hle, hrest⟩ := yearFrom_holds hnext (by rwa [Nat.add_right_comm year 1])
      exact ⟨Nat.le_of_succ_le hle, hrest⟩
    · rename_i hnext
      exact ⟨Nat.le_refl _, hfrom, Nat.lt_of_not_le hnext⟩

/-- The year of a day is one of those that there are, and the day is in it. -/
theorem yearOf_holds {day : Nat} (h : day < daysBeforeYear 10000) :
    1 ≤ yearOf day ∧ yearOf day ≤ 9999 ∧ daysBeforeYear (yearOf day) ≤ day ∧
      day < daysBeforeYear (yearOf day + 1) := by
  have hfrom : daysBeforeYear (day / 366 + 1) ≤ day := by
    rw [daysBeforeYear_eq]
    omega
  have hto : day < daysBeforeYear (day / 366 + 1 + 40 + 1) := by
    rw [daysBeforeYear_end] at h
    rw [daysBeforeYear_eq]
    omega
  obtain ⟨hle, hday, hnext⟩ : day / 366 + 1 ≤ yearOf day ∧ _ := yearFrom_holds hfrom hto
  refine ⟨Nat.le_trans (Nat.le_add_left 1 _) hle, ?_, hday, hnext⟩
  refine Nat.le_of_not_lt fun hlate => ?_
  have hlater : daysBeforeYear 10000 ≤ daysBeforeYear (yearOf day) := daysBeforeYear_le (by decide) hlate
  exact absurd (Nat.lt_of_lt_of_le h hlater) (Nat.not_lt.mpr hday)

theorem monthLength_le (year month : Nat) : monthLength year month ≤ 31 := by
  unfold monthLength
  split
  · split <;> decide
  · split <;> decide

theorem daysBeforeMonth_succ (year : Nat) {month : Nat} (h : 1 ≤ month) :
    daysBeforeMonth year (month + 1) = daysBeforeMonth year month + monthLength year month := by
  cases month with
  | zero => cases h
  | succ month => rfl

/-- The months of a year make up the year. -/
theorem daysBeforeMonth_end (year : Nat) : daysBeforeMonth year 13 = yearLength year := by
  unfold yearLength
  cases h : isLeap year <;> simp [daysBeforeMonth, monthLength, h]

/-- If enough months are tried, the one is found that a day is in. -/
theorem monthFrom_holds {year day : Nat} : ∀ {tries month : Nat},
    daysBeforeMonth year month ≤ day → day < daysBeforeMonth year (month + tries + 1) →
    month ≤ monthFrom year day tries month ∧ monthFrom year day tries month ≤ month + tries ∧
      daysBeforeMonth year (monthFrom year day tries month) ≤ day ∧
      day < daysBeforeMonth year (monthFrom year day tries month + 1)
  | 0, _, hfrom, hto => ⟨Nat.le_refl _, Nat.le_refl _, hfrom, hto⟩
  | tries + 1, month, hfrom, hto => by
    rw [monthFrom]
    split
    · rename_i hnext
      obtain ⟨hle, hge, hrest⟩ := monthFrom_holds hnext (by rwa [Nat.add_right_comm month 1])
      exact ⟨Nat.le_of_succ_le hle, by omega, hrest⟩
    · rename_i hnext
      exact ⟨Nat.le_refl _, Nat.le_add_right _ _, hfrom, Nat.lt_of_not_le hnext⟩

/-- Each day up to the end of the year 9999 is the day of its date, which is valid. -/
theorem Date.ofDayNumber_holds {day : Nat} (h : day < daysBeforeYear 10000) :
    (ofDayNumber day).isValid = true ∧ (ofDayNumber day).dayNumber = day := by
  obtain ⟨hfirst, hlast, hday, hnext⟩ := yearOf_holds h
  rw [daysBeforeYear_succ hfirst] at hnext
  let rest := day - daysBeforeYear (yearOf day)
  have hrest : rest < daysBeforeMonth (yearOf day) (1 + 11 + 1) := by
    show _ < daysBeforeMonth (yearOf day) 13
    rw [daysBeforeMonth_end]
    omega
  obtain ⟨hone, htwelve, hmonth, hnextMonth⟩ := monthFrom_holds (Nat.zero_le rest) hrest
  rw [daysBeforeMonth_succ _ hone] at hnextMonth
  constructor
  · have hlength : rest - daysBeforeMonth (yearOf day) (monthFrom (yearOf day) rest 11 1) + 1 ≤
        monthLength (yearOf day) (monthFrom (yearOf day) rest 11 1) := by omega
    simp only [isValid, Bool.and_eq_true]
    exact ⟨⟨⟨⟨⟨decide_eq_true hfirst, decide_eq_true hlast⟩, decide_eq_true hone⟩,
      decide_eq_true htwelve⟩, decide_eq_true (Nat.le_add_left 1 _)⟩, decide_eq_true hlength⟩
  · show daysBeforeYear (yearOf day) +
      daysBeforeMonth (yearOf day) (monthFrom (yearOf day) rest 11 1) +
      (rest - daysBeforeMonth (yearOf day) (monthFrom (yearOf day) rest 11 1) + 1 - 1) = day
    omega

end Storyline.Time
