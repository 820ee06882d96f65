import Mathlib.Data.List.Basic
import Mathlib.Tactic.Common
import Mathlib.Tactic.IntervalCases
import Mathlib.Tactic.SplitIfs

/-!
# The proleptic Gregorian calendar

Days are counted from 1 January of the year zero, which is a leap year, by adding up the lengths of
years and months; day numbers count them from 1 January 1970, which is a Thursday.
-/

namespace Calendar

/-- Whether a year has a 29 February. -/
def IsLeap (year : ℕ) : Prop :=
  (year % 4 = 0 ∧ year % 100 ≠ 0) ∨ year % 400 = 0

instance (year : ℕ) : Decidable (IsLeap year) := inferInstanceAs (Decidable (_ ∨ _))

/-- The number of days in a year. -/
def daysInYear (year : ℕ) : ℕ := if IsLeap year then 366 else 365

/-- The number of days in each month of a year. -/
def monthLengths (year : ℕ) : List ℕ :=
  [31, if IsLeap year then 29 else 28, 31, 30, 31, 30, 31, 31, 30, 31, 30, 31]

/-- The number of days in a month, counted from 1. -/
def daysInMonth (year month : ℕ) : ℕ := (monthLengths year).getD (month - 1) 0

/-- The number of days before a year. -/
def daysBeforeYear : ℕ → ℕ
  | 0 => 0
  | year + 1 => daysBeforeYear year + daysInYear year

/-- The number of days of a year before a month. -/
def daysBeforeMonth (year month : ℕ) : ℕ := ((monthLengths year).take (month - 1)).sum

/-- The number of days before 1970. -/
def epoch : ℕ := 719528

/-- The day number of a date that is not before 1970. -/
def dayNumber (year month day : ℕ) : ℕ :=
  daysBeforeYear year + daysBeforeMonth year month + (day - 1) - epoch

/-- The day of the week of a day number, from 0 for Sunday. -/
def weekday (number : ℕ) : ℕ := (number + 4) % 7

/-- A day number lies in a year. -/
def InYear (year number : ℕ) : Prop :=
  daysBeforeYear year ≤ number + epoch ∧ number + epoch < daysBeforeYear (year + 1)

/-- The day number of the last Sunday of a month. -/
def lastSunday (year month : ℕ) : ℕ :=
  dayNumber year month (daysInMonth year month) -
    weekday (dayNumber year month (daysInMonth year month))

/-- The number of days before a year in closed form. -/
theorem daysBeforeYear_eq (year : ℕ) :
    daysBeforeYear year + (year + 99) / 100 =
      365 * year + (year + 3) / 4 + (year + 399) / 400 := by
  induction year with
  | zero => rfl
  | succ year ih =>
      rw [daysBeforeYear, daysInYear]
      by_cases leap : IsLeap year
      · rw [if_pos leap]
        rcases leap with ⟨fourth, century⟩ | fourth_century
        · omega
        · omega
      · rw [if_neg leap]
        obtain ⟨ordinary, fourth_century⟩ := not_or.mp leap
        omega

theorem daysBeforeYear_epoch : daysBeforeYear 1970 = epoch := by
  have closed := daysBeforeYear_eq 1970
  rw [epoch]
  omega

theorem daysBeforeYear_mono {earlier later : ℕ} (ordered : earlier ≤ later) :
    daysBeforeYear earlier ≤ daysBeforeYear later := by
  induction ordered with
  | refl => exact Nat.le_refl _
  | step _ ih => exact Nat.le_add_right_of_le ih

theorem InYear.not_lt {number earlier later : ℕ} (in_earlier : InYear earlier number)
    (in_later : InYear later number) : ¬ earlier < later := by
  intro less
  have passed := daysBeforeYear_mono (Nat.add_one_le_iff.mpr less)
  exact absurd (Nat.lt_of_lt_of_le in_earlier.2 passed) (Nat.not_lt.mpr in_later.1)

/-- A day lies in one year only. -/
theorem InYear.unique {number left right : ℕ} (in_left : InYear left number)
    (in_right : InYear right number) : left = right :=
  Nat.le_antisymm (Nat.not_lt.mp (in_right.not_lt in_left))
    (Nat.not_lt.mp (in_left.not_lt in_right))

/-- A day of a month, counted from the first day of its year. -/
theorem dayNumber_eq {year : ℕ} (modern : 1970 ≤ year) (month : ℕ) {day : ℕ} (positive : 1 ≤ day) :
    dayNumber year month day + 1 =
      daysBeforeYear year - epoch + daysBeforeMonth year month + day := by
  have later := daysBeforeYear_mono modern
  rw [daysBeforeYear_epoch] at later
  rw [dayNumber]
  omega

theorem le_daysInMonth (year : ℕ) {month : ℕ} (first : 1 ≤ month) (last : month ≤ 12) :
    28 ≤ daysInMonth year month ∧ daysInMonth year month ≤ 31 := by
  unfold daysInMonth monthLengths
  interval_cases month <;> simp
  split_ifs <;> omega

theorem daysBeforeMonth_succ (year : ℕ) {month : ℕ} (first : 1 ≤ month) :
    daysBeforeMonth year (month + 1) = daysBeforeMonth year month + daysInMonth year month := by
  obtain ⟨passed, rfl⟩ := Nat.exists_eq_add_of_le' first
  rw [daysBeforeMonth, daysBeforeMonth, daysInMonth, Nat.add_sub_cancel, Nat.add_sub_cancel,
    List.take_add_one, List.sum_append, List.getD_eq_getElem?_getD]
  cases (monthLengths year)[passed]? <;> rfl

theorem daysBeforeMonth_mono (year : ℕ) {earlier later : ℕ} (first : 1 ≤ earlier)
    (ordered : earlier ≤ later) : daysBeforeMonth year earlier ≤ daysBeforeMonth year later := by
  induction ordered with
  | refl => exact Nat.le_refl _
  | step ordered ih =>
      rw [daysBeforeMonth_succ year (Nat.le_trans first ordered)]
      exact Nat.le_add_right_of_le ih

/-- The days of a month are before the days of the months after it. -/
theorem dayNumber_lt_of_month_lt {year earlier later day other : ℕ} (modern : 1970 ≤ year)
    (first : 1 ≤ earlier) (ordered : earlier < later) (positive : 1 ≤ day)
    (inside : day ≤ daysInMonth year earlier) (other_positive : 1 ≤ other) :
    dayNumber year earlier day < dayNumber year later other := by
  have number := dayNumber_eq modern earlier positive
  have other_number := dayNumber_eq modern later other_positive
  have passed := daysBeforeMonth_mono year (Nat.le_add_left 1 earlier) ordered
  rw [daysBeforeMonth_succ year first] at passed
  omega

/-- The last Sunday of a month is a Sunday, it is in the month, and no Sunday of the month is
later. -/
theorem lastSunday_spec {year month : ℕ} (modern : 1970 ≤ year) (first : 1 ≤ month)
    (last : month ≤ 12) :
    weekday (lastSunday year month) = 0 ∧
      (∃ day, 1 ≤ day ∧ day ≤ daysInMonth year month ∧
        dayNumber year month day = lastSunday year month) ∧
      ∀ day, 1 ≤ day → day ≤ daysInMonth year month → weekday (dayNumber year month day) = 0 →
        dayNumber year month day ≤ lastSunday year month := by
  obtain ⟨long, -⟩ := le_daysInMonth year first last
  have ends := dayNumber_eq modern month (Nat.le_trans (by decide) long)
  have sunday (day : ℕ) (positive : 1 ≤ day) := dayNumber_eq modern month positive
  unfold lastSunday weekday
  refine ⟨by omega, ⟨daysInMonth year month - weekday (dayNumber year month
    (daysInMonth year month)), ?_⟩, ?_⟩
  · have day := sunday (daysInMonth year month - weekday (dayNumber year month
      (daysInMonth year month))) (by unfold weekday; omega)
    unfold weekday at day ⊢
    omega
  · intro day positive inside is_sunday
    have := sunday day positive
    omega

end Calendar
