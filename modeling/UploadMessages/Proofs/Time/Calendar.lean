import Mathlib.Algebra.BigOperators.Intervals
import Mathlib.Data.Nat.Find
import UploadMessages.Time

/-! # The days in a row

The days are numbered in the order of their dates, and no number is left out: each
day from the start of year 0 on has a date.
-/

namespace UploadMessages.Calendar

variable {year year' month month' day day' : Nat}

theorem daysBeforeYear_mono (h : year ≤ year') : daysBeforeYear year ≤ daysBeforeYear year' := by
  induction year', h using Nat.le_induction with
  | base => exact Nat.le_refl _
  | succ later _ ih =>
    rw [daysBeforeYear_succ]
    exact Nat.le_add_right_of_le ih

theorem daysBeforeMonth_mono (first : 1 ≤ month) (h : month ≤ month') (last : month' ≤ 12) :
    daysBeforeMonth year month ≤ daysBeforeMonth year month' := by
  induction month', h using Nat.le_induction with
  | base => exact Nat.le_refl _
  | succ later before ih =>
    have earlier : later ≤ 11 := by omega
    rw [daysBeforeMonth_succ year (Nat.le_trans first before) earlier]
    exact Nat.le_add_right_of_le (ih (by omega))

theorem daysBeforeMonth_december (year : Nat) :
    daysBeforeMonth year 12 + monthLength year 12 = yearLength year := by
  simp only [daysBeforeMonth, monthLength, yearLength]
  cases isLeap year <;> rfl

/-- A month is over when a later one of its year begins. -/
theorem daysBeforeMonth_add_monthLength_le (year : Nat) (first : 1 ≤ month)
    (h : month < month') (last : month' ≤ 12) :
    daysBeforeMonth year month + monthLength year month ≤ daysBeforeMonth year month' := by
  rw [← daysBeforeMonth_succ year first (by omega)]
  exact daysBeforeMonth_mono (by omega) h last

/-- A day belongs to its year. -/
theorem dayOfYear_le (h : HasDay year month day) :
    daysBeforeMonth year month + day ≤ yearLength year := by
  obtain ⟨first, last, -, dayLast⟩ := h
  have december := daysBeforeMonth_december year
  rcases Nat.lt_or_eq_of_le last with earlier | rfl
  · have bound := daysBeforeMonth_add_monthLength_le year first earlier (Nat.le_refl 12)
    omega
  · omega

def Before (year month day year' month' day' : Nat) : Prop :=
  year < year' ∨ year = year' ∧ (month < month' ∨ month = month' ∧ day < day')

theorem dayNumber_lt (h : HasDay year month day) (h' : HasDay year' month' day')
    (before : Before year month day year' month' day') :
    dayNumber year month day < dayNumber year' month' day' := by
  obtain ⟨first, -, -, dayLast⟩ := id h
  obtain ⟨-, last', dayFirst', -⟩ := h'
  unfold dayNumber
  rcases before with years | ⟨rfl, months | ⟨rfl, days⟩⟩
  · have inYear := dayOfYear_le h
    have next := daysBeforeYear_succ year
    have later := daysBeforeYear_mono (show year + 1 ≤ year' from years)
    omega
  · have bound := daysBeforeMonth_add_monthLength_le year first months last'
    omega
  · omega

theorem dayNumber_mem (h : HasDay year month day) (earlier : year < year') :
    -719528 ≤ dayNumber year month day ∧
      dayNumber year month day < (daysBeforeYear year' : Int) - 719528 := by
  have inYear := dayOfYear_le h
  have next := daysBeforeYear_succ year
  have later := daysBeforeYear_mono (show year + 1 ≤ year' from earlier)
  obtain ⟨-, -, dayFirst, -⟩ := h
  unfold dayNumber
  omega

/-- Of the terms of a sequence the last that a number reaches. -/
theorem exists_last_reached {f : Nat → Nat} {n : Nat} (last : Nat) (start : f 0 ≤ n) :
    ∃ i ≤ last, f i ≤ n ∧ (i < last → n < f (i + 1)) := by
  refine ⟨Nat.findGreatest (fun i => f i ≤ n) last, Nat.findGreatest_le last, ?_, ?_⟩
  · exact Nat.findGreatest_spec (P := fun i => f i ≤ n) (Nat.zero_le last) start
  · intro more
    exact Nat.lt_of_not_le (Nat.findGreatest_is_greatest (P := fun i => f i ≤ n)
      (Nat.lt_succ_self _) more)

theorem exists_month (year : Nat) {n : Nat} (h : n < yearLength year) :
    ∃ month day, HasDay year month day ∧ daysBeforeMonth year month + day = n + 1 := by
  obtain ⟨i, most, reached, next⟩ :=
    exists_last_reached (f := fun i => daysBeforeMonth year (i + 1)) 11 (Nat.zero_le n)
  have within : n < daysBeforeMonth year (i + 1) + monthLength year (i + 1) := by
    rcases Nat.lt_or_eq_of_le most with earlier | rfl
    · rw [← daysBeforeMonth_succ year (by omega) (by omega)]
      exact next earlier
    · exact Nat.lt_of_lt_of_eq h (daysBeforeMonth_december year).symm
  exact ⟨i + 1, n + 1 - daysBeforeMonth year (i + 1), ⟨by omega, by omega, by omega, by omega⟩,
    by omega⟩

/-- Each day before the start of a year has a date in an earlier year. -/
theorem exists_date {n : Nat} (h : n < daysBeforeYear year') :
    ∃ year month day, year < year' ∧ HasDay year month day ∧
      dayNumber year month day = (n : Int) - 719528 := by
  obtain ⟨year, most, reached, next⟩ :=
    exists_last_reached (f := daysBeforeYear) year' (Nat.zero_le n)
  have earlier : year < year' := by
    rcases Nat.lt_or_eq_of_le most with earlier | rfl
    · exact earlier
    · omega
  have following := next earlier
  rw [daysBeforeYear_succ] at following
  obtain ⟨month, day, has, counted⟩ :=
    exists_month year (n := n - daysBeforeYear year) (by omega)
  refine ⟨year, month, day, earlier, has, ?_⟩
  unfold dayNumber
  omega

/-- The days from 1970-01-01 to a date: those of the whole years that lie between, of the whole
months of its year, and of its month. Years before 1970 count downwards. -/
def daysFromEpoch (year month day : Nat) : Int :=
  (∑ y ∈ Finset.Ico 1970 year, yearLength y : Nat) - (∑ y ∈ Finset.Ico year 1970, yearLength y : Nat)
    + (∑ m ∈ Finset.Ico 1 month, monthLength year m : Nat) + (day - 1)

theorem sum_yearLength (h : year ≤ year') :
    daysBeforeYear year + ∑ y ∈ Finset.Ico year year', yearLength y = daysBeforeYear year' := by
  induction year', h using Nat.le_induction with
  | base => simp
  | succ later before ih =>
    rw [Finset.sum_Ico_succ_top before, daysBeforeYear_succ, ← ih, Nat.add_assoc]

theorem sum_monthLength (first : 1 ≤ month) (last : month ≤ 12) :
    ∑ m ∈ Finset.Ico 1 month, monthLength year m = daysBeforeMonth year month := by
  induction month, first using Nat.le_induction with
  | base => rfl
  | succ later before ih =>
    rw [Finset.sum_Ico_succ_top before, daysBeforeMonth_succ year before (by omega),
      ih (by omega)]

/-- The closed forms count what the lengths of years and months add up to. -/
theorem dayNumber_eq_daysFromEpoch (h : HasDay year month day) :
    dayNumber year month day = daysFromEpoch year month day := by
  obtain ⟨first, last, -, -⟩ := h
  have epoch : daysBeforeYear 1970 = 719528 := rfl
  rw [dayNumber, daysFromEpoch, sum_monthLength first last]
  rcases Nat.le_total 1970 year with after | before
  · have years := sum_yearLength after
    rw [Finset.Ico_eq_empty_of_le after, Finset.sum_empty]
    omega
  · have years := sum_yearLength before
    rw [Finset.Ico_eq_empty_of_le before, Finset.sum_empty]
    omega

end UploadMessages.Calendar
