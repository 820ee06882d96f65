import Motonet.EuDst.Timezone
import Motonet.Foundation.Calendar
import Mathlib.Tactic.IntervalCases
import Mathlib.Tactic.SplitIfs

/-!
# Summer time

The date that the loops count is the date of the calendar and Zeller's congruence finds its
Sundays, so that daylight saving time is active exactly from the last Sunday of March to the last
Sunday of October.
-/

namespace Motonet
namespace EuDst

open Calendar (InYear IsLeap daysBeforeYear daysBeforeMonth monthLengths dayNumber weekday
  lastSunday epoch)

theorem isLeapYear_iff (year : ℕ) : isLeapYear year = true ↔ IsLeap year := by
  simp [isLeapYear, IsLeap]

theorem daysInYear_eq (year : ℕ) : daysInYear year = Calendar.daysInYear year := by
  simp only [daysInYear, Calendar.daysInYear, isLeapYear_iff]

/-- The loop over the years ends in the year of the day. -/
theorem yearLoop_spec (start remainingDays : ℕ) :
    start ≤ (yearLoop start remainingDays).1 ∧
      daysBeforeYear (yearLoop start remainingDays).1 + (yearLoop start remainingDays).2 =
        daysBeforeYear start + remainingDays ∧
      (yearLoop start remainingDays).2 < daysInYear (yearLoop start remainingDays).1 := by
  induction start, remainingDays using yearLoop.induct with
  | case1 year remainingDays inside =>
      rw [yearLoop, if_pos inside]
      exact ⟨Nat.le_refl _, rfl, inside⟩
  | case2 year remainingDays outside ih =>
      rw [yearLoop, if_neg outside]
      obtain ⟨later, total, short⟩ := ih
      rw [daysBeforeYear, ← daysInYear_eq] at total
      exact ⟨by omega, by omega, short⟩

/-- The loop over the months ends in the month of the day. -/
theorem monthLoop_spec (lengths : List ℕ) (start remainingDays : ℕ)
    (enough : remainingDays < lengths.sum) :
    ∃ passed < lengths.length, (monthLoop lengths start remainingDays).1 = start + passed ∧
      (lengths.take passed).sum + (monthLoop lengths start remainingDays).2 = remainingDays ∧
      (monthLoop lengths start remainingDays).2 < lengths.getD passed 0 := by
  induction lengths generalizing start remainingDays with
  | nil => exact absurd enough (Nat.not_lt_zero _)
  | cons length lengths ih =>
      rw [List.sum_cons] at enough
      by_cases inside : remainingDays < length
      · rw [monthLoop, if_pos inside]
        exact ⟨0, Nat.succ_pos _, rfl, Nat.zero_add _, inside⟩
      · rw [monthLoop, if_neg inside]
        obtain ⟨passed, bounded, month, total, short⟩ :=
          ih (start + 1) (remainingDays - length) (by omega)
        refine ⟨passed + 1, Nat.succ_lt_succ bounded, by omega, ?_, short⟩
        rw [List.take_succ_cons, List.sum_cons]
        omega

theorem sum_monthLengths (year : ℕ) : (monthLengths year).sum = daysInYear year := by
  rw [daysInYear_eq, Calendar.daysInYear]
  by_cases leap : IsLeap year
  · simp [monthLengths, leap]
  · simp [monthLengths, leap]

theorem monthLengths_eq (year : ℕ) :
    (if isLeapYear year then [31, 29, 31, 30, 31, 30, 31, 31, 30, 31, 30, 31]
      else [31, 28, 31, 30, 31, 30, 31, 31, 30, 31, 30, 31]) = monthLengths year := by
  rw [monthLengths]
  by_cases leap : IsLeap year
  · rw [if_pos ((isLeapYear_iff year).mpr leap), if_pos leap]
  · rw [if_neg (mt (isLeapYear_iff year).mp leap), if_neg leap]

/-- The date of a time stamp is its date in the calendar. -/
theorem unixToDate_spec (unixSecs : UInt64) (in_range : unixSecs.toNat / 86400 < 2 ^ 32) :
    ∃ year month day, unixToDate unixSecs = (year, month, day, unixSecs.toNat % 86400 / 3600) ∧
      1970 ≤ year ∧ InYear year (unixSecs.toNat / 86400) ∧ 1 ≤ month ∧ month ≤ 12 ∧
      1 ≤ day ∧ day ≤ Calendar.daysInMonth year month ∧
      dayNumber year month day = unixSecs.toNat / 86400 := by
  obtain ⟨later, counted, inside⟩ := yearLoop_spec 1970 (unixSecs.toNat / 86400)
  rcases found : yearLoop 1970 (unixSecs.toNat / 86400) with ⟨year, rest⟩
  simp only [found] at later counted inside
  rw [Calendar.daysBeforeYear_epoch] at counted
  have enough : rest < (monthLengths year).sum := by rwa [sum_monthLengths]
  obtain ⟨passed, bounded, month_eq, total, short⟩ := monthLoop_spec _ 1 rest enough
  rcases rest_eq : monthLoop (monthLengths year) 1 rest with ⟨month, left⟩
  simp only [rest_eq] at month_eq total short
  have shifted : month - 1 = passed := by omega
  have number := Calendar.dayNumber_eq later month (Nat.le_add_left 1 left)
  have before : daysBeforeMonth year month + left = rest := by rw [daysBeforeMonth, shifted, total]
  have modern := Calendar.daysBeforeYear_mono later
  rw [Calendar.daysBeforeYear_epoch] at modern
  refine ⟨year, month, left + 1, ?_, later, ⟨?_, ?_⟩, by omega, ?_, by omega, ?_, ?_⟩
  · simp only [unixToDate, if_pos in_range, found, monthLengths_eq, rest_eq]
  · omega
  · rw [daysBeforeYear, ← daysInYear_eq]
    omega
  · have twelve : (monthLengths year).length = 12 := rfl
    omega
  · rw [Calendar.daysInMonth, shifted]
    exact short
  · omega

/-- The number of days before a month of a year that begins in March needs no leap years. -/
theorem dayNumber_from_march {year month day : ℕ} (modern : 1970 ≤ year) (march : 3 ≤ month)
    (last : month ≤ 12) (positive : 1 ≤ day) :
    dayNumber year month day + epoch + year / 100 =
      365 * year + year / 4 + year / 400 + (153 * (month - 3) + 2) / 5 + 59 + day := by
  have later := Calendar.daysBeforeYear_mono modern
  rw [Calendar.daysBeforeYear_epoch, epoch] at later
  have closed := Calendar.daysBeforeYear_eq (year + 1)
  have fourth : (year + 1 + 3) / 4 = year / 4 + 1 := by omega
  have century : (year + 1 + 99) / 100 = year / 100 + 1 := by omega
  have fourth_century : (year + 1 + 399) / 400 = year / 400 + 1 := by omega
  rw [daysBeforeYear, Calendar.daysInYear, fourth, century, fourth_century] at closed
  rw [dayNumber, epoch]
  by_cases leap : IsLeap year
  · rw [if_pos leap] at closed
    interval_cases month <;> simp [daysBeforeMonth, monthLengths, leap] <;> omega
  · rw [if_neg leap] at closed
    interval_cases month <;> simp [daysBeforeMonth, monthLengths, leap] <;> omega

/-- Zeller's congruence counts the weekdays of the calendar. -/
theorem zeller_eq_weekday {year month day : ℕ} (modern : 1970 ≤ year) (march : 3 ≤ month)
    (last : month ≤ 12) (positive : 1 ≤ day) :
    ((day + 13 * (month + 1) / 5 + year % 100 + year % 100 / 4 + year / 100 / 4 +
      5 * (year / 100)) % 7 + 6) % 7 = weekday (dayNumber year month day) := by
  have number := dayNumber_from_march modern march last positive
  rw [epoch] at number
  have century : year / 100 / 4 = year / 400 := Nat.div_div_eq_div_mul year 100 4
  have months : (153 * (month - 3) + 2) / 5 = 13 * (month + 1) / 5 + 28 * (month - 3) - 10 := by
    omega
  have fourth : year % 100 / 4 + 25 * (year / 100) = year / 4 := by omega
  have years : year % 100 + 100 * (year / 100) = year := Nat.mod_add_div year 100
  rw [← century, months, ← fourth] at number
  rw [weekday]
  omega

theorem daysInMonth_from_march (year : ℕ) {month : ℕ} (march : 3 ≤ month) (last : month ≤ 12) :
    (if month ∈ [1, 3, 5, 7, 8, 10, 12] then 31
      else if month = 2 then (if isLeapYear year then 29 else 28) else 30) =
      Calendar.daysInMonth year month := by
  unfold Calendar.daysInMonth monthLengths
  interval_cases month <;> simp

/-- The last Sunday of a month is the last Sunday of the calendar. -/
theorem lastSundayOfMonth_spec {year month : ℕ} (modern : 1970 ≤ year) (march : 3 ≤ month)
    (last : month ≤ 12) :
    1 ≤ lastSundayOfMonth year month ∧
      lastSundayOfMonth year month ≤ Calendar.daysInMonth year month ∧
      dayNumber year month (lastSundayOfMonth year month) = lastSunday year month := by
  obtain ⟨long, -⟩ := Calendar.le_daysInMonth year (Nat.le_trans (by decide) march) last
  have sunday := zeller_eq_weekday modern march last (Nat.le_trans (by decide) long)
  simp only [lastSundayOfMonth, daysInMonth_from_march year march last,
    if_neg (Nat.not_lt.mpr march), sunday]
  have ends := Calendar.dayNumber_eq modern month (Nat.le_trans (by decide) long)
  have short : weekday (dayNumber year month (Calendar.daysInMonth year month)) < 7 :=
    Nat.mod_lt _ (by decide)
  split
  next is_sunday =>
    rw [lastSunday, is_sunday]
    exact ⟨Nat.le_trans (by decide) long, Nat.le_refl _, (Nat.sub_zero _).symm⟩
  next =>
    have sunday_eq := Calendar.dayNumber_eq modern month
      (show 1 ≤ Calendar.daysInMonth year month -
        weekday (dayNumber year month (Calendar.daysInMonth year month)) by omega)
    rw [lastSunday]
    omega

/-- The day that `last_sunday_of_month` returns is a Sunday and no later day of the month is one. -/
theorem lastSundayOfMonth_is_last {year month : ℕ} (modern : 1970 ≤ year) (march : 3 ≤ month)
    (last : month ≤ 12) :
    weekday (dayNumber year month (lastSundayOfMonth year month)) = 0 ∧
      ∀ day, 1 ≤ day → day ≤ Calendar.daysInMonth year month →
        weekday (dayNumber year month day) = 0 → day ≤ lastSundayOfMonth year month := by
  obtain ⟨positive, -, found⟩ := lastSundayOfMonth_spec modern march last
  obtain ⟨is_sunday, -, latest⟩ :=
    Calendar.lastSunday_spec modern (Nat.le_trans (by decide) march) last
  refine ⟨found ▸ is_sunday, ?_⟩
  intro day day_positive inside day_is_sunday
  have ordered := latest day day_positive inside day_is_sunday
  rw [← found] at ordered
  have number := Calendar.dayNumber_eq modern month positive
  have day_number := Calendar.dayNumber_eq modern month day_positive
  omega

/-- The second at which daylight saving time starts in a year: 01:00 UTC of the last Sunday of
March. -/
def summerStart (year : ℕ) : ℕ := 86400 * lastSunday year 3 + 3600

/-- The second at which daylight saving time ends in a year: 01:00 UTC of the last Sunday of
October. -/
def summerEnd (year : ℕ) : ℕ := 86400 * lastSunday year 10 + 3600

/-- Daylight saving time is active exactly between the two seconds of the year. -/
theorem isDstActive_iff {unixSecs : UInt64} (in_range : unixSecs.toNat / 86400 < 2 ^ 32)
    {year : ℕ} (in_year : InYear year (unixSecs.toNat / 86400)) :
    isDstActive unixSecs = true ↔
      summerStart year ≤ unixSecs.toNat ∧ unixSecs.toNat < summerEnd year := by
  obtain ⟨found, month, day, date, modern, in_found, first, last, positive, inside, number⟩ :=
    unixToDate_spec unixSecs in_range
  obtain rfl := in_found.unique in_year
  obtain ⟨march_positive, march_inside, march⟩ :=
    lastSundayOfMonth_spec modern (Nat.le_refl 3) (by decide)
  obtain ⟨october_positive, october_inside, october⟩ :=
    lastSundayOfMonth_spec modern (show 3 ≤ 10 by decide) (by decide)
  have march_number := Calendar.dayNumber_eq modern 3 march_positive
  have october_number := Calendar.dayNumber_eq modern 10 october_positive
  have day_number := Calendar.dayNumber_eq modern month positive
  have summer := Calendar.dayNumber_lt_of_month_lt modern (by decide) (show 3 < 10 by decide)
    march_positive march_inside october_positive
  simp only [isDstActive, date, summerStart, summerEnd]
  rcases Nat.lt_trichotomy month 3 with winter | rfl | spring
  · have before := Calendar.dayNumber_lt_of_month_lt modern first winter positive inside
      march_positive
    rw [if_neg (by omega), if_neg (by omega), if_neg (by omega)]
    simp only [Bool.false_eq_true, false_iff]
    omega
  · have before := Calendar.dayNumber_lt_of_month_lt modern first (show 3 < 10 by decide) positive
      inside october_positive
    rw [if_neg (by omega), if_pos rfl, decide_eq_true_iff]
    omega
  · have after := Calendar.dayNumber_lt_of_month_lt modern (by decide) spring march_positive
      march_inside positive
    rcases Nat.lt_trichotomy month 10 with season | rfl | autumn
    · have before := Calendar.dayNumber_lt_of_month_lt modern first season positive inside
        october_positive
      rw [if_pos ⟨spring, season⟩]
      simp only [true_iff]
      omega
    · rw [if_neg (by omega), if_neg (by omega), if_pos rfl, decide_eq_true_iff]
      omega
    · have ended := Calendar.dayNumber_lt_of_month_lt modern (by decide) autumn october_positive
        october_inside positive
      rw [if_neg (by omega), if_neg (by omega), if_neg (by omega)]
      simp only [Bool.false_eq_true, false_iff]
      omega

/-- The offset that the calendar gives a time zone at a time stamp of a year. -/
def summerOffset (timezone : Timezone) (year : ℕ) (unixSecs : UInt64) : ℤ :=
  timezone.baseOffsetSecs.toInt +
    if summerStart year ≤ unixSecs.toNat ∧ unixSecs.toNat < summerEnd year then 3600 else 0

theorem offsetSecs_toInt {timezone : Timezone} {unixSecs : UInt64} {year : ℕ}
    (in_range : unixSecs.toNat / 86400 < 2 ^ 32) (in_year : InYear year (unixSecs.toNat / 86400))
    (bounded : summerOffset timezone year unixSecs < 2 ^ 63) :
    (timezone.offsetSecs unixSecs).toInt = summerOffset timezone year unixSecs := by
  have active := isDstActive_iff in_range in_year
  have low := timezone.baseOffsetSecs.le_toInt
  unfold summerOffset at bounded ⊢
  unfold Timezone.offsetSecs
  by_cases summer : summerStart year ≤ unixSecs.toNat ∧ unixSecs.toNat < summerEnd year
  · rw [if_pos summer] at bounded ⊢
    rw [if_pos (active.mpr summer), Int64.toInt_add]
    have shift : dstOffsetSecs.toInt = 3600 := rfl
    rw [shift]
    exact Int.bmod_eq_of_le (by omega) (by omega)
  · rw [if_neg summer, if_neg (mt active.mp summer), Int.add_zero]

/-- The local time of a time stamp is the time of day of the sum. -/
theorem toLocalHms_eq {timezone : Timezone} {unixSecs : UInt64}
    (in_range : unixSecs.toNat / 86400 < 2 ^ 32)
    (bounded : unixSecs.toNat + (timezone.offsetSecs unixSecs).toInt < 2 ^ 63) :
    ∃ hours < 24, ∃ minutes < 60, ∃ seconds < 60,
      timezone.toLocalHms unixSecs = (hours, minutes, seconds) ∧
        ((3600 * hours + 60 * minutes + seconds : ℕ) : ℤ) =
          (unixSecs.toNat + (timezone.offsetSecs unixSecs).toInt) % 86400 := by
  have low := (timezone.offsetSecs unixSecs).le_toInt
  have sum : Timezone.saturatingAdd unixSecs.toNat (timezone.offsetSecs unixSecs).toInt =
      unixSecs.toNat + (timezone.offsetSecs unixSecs).toInt := by
    unfold Timezone.saturatingAdd
    omega
  have whole : (if unixSecs.toNat < 2 ^ 63 then (unixSecs.toNat : ℤ) else 2 ^ 63 - 1) =
      unixSecs.toNat := if_pos (by omega)
  simp only [Timezone.toLocalHms, whole, sum]
  generalize (unixSecs.toNat : ℤ) + (timezone.offsetSecs unixSecs).toInt = localSecs
  refine ⟨_, ?_, _, ?_, _, ?_, rfl, ?_⟩ <;> omega

/-- The time stamp lies in one year; daylight saving time is active exactly from 01:00 UTC of the
last Sunday of its March to 01:00 UTC of the last Sunday of its October, and the local time is the
time of day with the offset of that season. -/
theorem daylight_saving_correct (unixSecs : UInt64) (in_range : unixSecs.toNat / 86400 < 2 ^ 32) :
    ∃ year, InYear year (unixSecs.toNat / 86400) ∧
      (∀ other, InYear other (unixSecs.toNat / 86400) → other = year) ∧
      (isDstActive unixSecs = true ↔
        summerStart year ≤ unixSecs.toNat ∧ unixSecs.toNat < summerEnd year) ∧
      ∀ timezone : Timezone, summerOffset timezone year unixSecs < 2 ^ 63 →
        unixSecs.toNat + summerOffset timezone year unixSecs < 2 ^ 63 →
        ∃ hours < 24, ∃ minutes < 60, ∃ seconds < 60,
          timezone.toLocalHms unixSecs = (hours, minutes, seconds) ∧
            ((3600 * hours + 60 * minutes + seconds : ℕ) : ℤ) =
              (unixSecs.toNat + summerOffset timezone year unixSecs) % 86400 := by
  obtain ⟨year, _, _, _, _, in_year, -⟩ := unixToDate_spec unixSecs in_range
  refine ⟨year, in_year, fun other in_other => in_other.unique in_year,
    isDstActive_iff in_range in_year, ?_⟩
  intro timezone offset_bounded bounded
  have offset := offsetSecs_toInt in_range in_year offset_bounded
  rw [← offset] at bounded ⊢
  exact toLocalHms_eq in_range bounded

theorem daylight_saving_correct_july :
    ∃ year, InYear year ((1721044800 : UInt64).toNat / 86400) ∧
      ∃ hours < 24, ∃ minutes < 60, ∃ seconds < 60,
        Timezone.EET.toLocalHms 1721044800 = (hours, minutes, seconds) ∧
          ((3600 * hours + 60 * minutes + seconds : ℕ) : ℤ) =
            (1721044800 + summerOffset Timezone.EET year 1721044800) % 86400 := by
  obtain ⟨year, in_year, -, -, local_time⟩ := daylight_saving_correct 1721044800 (by decide)
  have base : Timezone.EET.baseOffsetSecs.toInt = 7200 := rfl
  have bounded : summerOffset Timezone.EET year 1721044800 ≤ 10800 := by
    unfold summerOffset
    split <;> omega
  have secs : (1721044800 : UInt64).toNat = 1721044800 := rfl
  exact ⟨year, in_year, local_time Timezone.EET (by omega) (by omega)⟩

end EuDst
end Motonet
