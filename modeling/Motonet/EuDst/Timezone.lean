import Mathlib.Data.UInt
import Mathlib.Tactic.Common

/-!
# Local time

The offset of a time zone with the daylight saving time of the European Union: the date is counted
from the time stamp year by year and month by month, and the last Sundays of March and October come
from Zeller's congruence.
-/

namespace Motonet
namespace EuDst

/-- `DST_OFFSET_SECS`. -/
def dstOffsetSecs : Int64 := 3600

/-- `is_leap_year`. -/
def isLeapYear (year : ℕ) : Bool :=
  (year % 4 = 0 && year % 100 ≠ 0) || year % 400 = 0

/-- `days_in_year` of `unix_to_date`. -/
def daysInYear (year : ℕ) : ℕ := if isLeapYear year then 366 else 365

theorem daysInYear_pos (year : ℕ) : 0 < daysInYear year := by
  unfold daysInYear
  split <;> decide

/-- The loop of `unix_to_date` over the years: the year, and the days left in it. -/
def yearLoop (year remainingDays : ℕ) : ℕ × ℕ :=
  if remainingDays < daysInYear year then (year, remainingDays)
  else yearLoop (year + 1) (remainingDays - daysInYear year)
  termination_by remainingDays
  decreasing_by
    have positive := daysInYear_pos year
    omega

/-- The loop of `unix_to_date` over the months: the month, and the days left in it. -/
def monthLoop : List ℕ → ℕ → ℕ → ℕ × ℕ
  | [], month, remainingDays => (month, remainingDays)
  | daysInMonth :: daysInMonths, month, remainingDays =>
      if remainingDays < daysInMonth then (month, remainingDays)
      else monthLoop daysInMonths (month + 1) (remainingDays - daysInMonth)

/-- `unix_to_date`: year, month, day and hour.  No year is reached at which a `u32` overflows. -/
def unixToDate (unixSecs : UInt64) : ℕ × ℕ × ℕ × ℕ :=
  let days := if unixSecs.toNat / 86400 < 2 ^ 32 then unixSecs.toNat / 86400 else 2 ^ 32 - 1
  let hour := unixSecs.toNat % 86400 / 3600
  let (year, remainingDays) := yearLoop 1970 days
  let daysInMonths :=
    if isLeapYear year then [31, 29, 31, 30, 31, 30, 31, 31, 30, 31, 30, 31]
    else [31, 28, 31, 30, 31, 30, 31, 31, 30, 31, 30, 31]
  let (month, remainingDays) := monthLoop daysInMonths 1 remainingDays
  (year, month, remainingDays + 1, hour)

/-- `last_sunday_of_month`. -/
def lastSundayOfMonth (year month : ℕ) : ℕ :=
  let daysInMonth :=
    if month ∈ [1, 3, 5, 7, 8, 10, 12] then 31
    else if month = 2 then (if isLeapYear year then 29 else 28)
    else 30
  let day := daysInMonth
  let m := if month < 3 then month + 12 else month
  let y := if month < 3 then year - 1 else year
  let k := y % 100
  let j := y / 100
  let h := (day + 13 * (m + 1) / 5 + k + k / 4 + j / 4 + 5 * j) % 7
  let dow := (h + 6) % 7
  if dow = 0 then daysInMonth else daysInMonth - dow

/-- `is_dst_active`. -/
def isDstActive (unixSecs : UInt64) : Bool :=
  let (year, month, day, hour) := unixToDate unixSecs
  let marchLastSunday := lastSundayOfMonth year 3
  let octoberLastSunday := lastSundayOfMonth year 10
  if month > 3 ∧ month < 10 then true
  else if month = 3 then day > marchLastSunday ∨ (day = marchLastSunday ∧ hour ≥ 1)
  else if month = 10 then day < octoberLastSunday ∨ (day = octoberLastSunday ∧ hour < 1)
  else false

/-- `Timezone`. -/
structure Timezone where
  baseOffsetSecs : Int64
  deriving DecidableEq

namespace Timezone

/-- `Timezone::EET`. -/
def EET : Timezone := ⟨2 * 3600⟩

/-- `Timezone::offset_secs`. -/
def offsetSecs (timezone : Timezone) (unixSecs : UInt64) : Int64 :=
  if isDstActive unixSecs then timezone.baseOffsetSecs + dstOffsetSecs
  else timezone.baseOffsetSecs

/-- `i64::saturating_add`. -/
def saturatingAdd (left right : ℤ) : ℤ := max (-2 ^ 63) (min (left + right) (2 ^ 63 - 1))

/-- `Timezone::to_local_hms`: hours, minutes and seconds.  `rem_euclid` leaves no negative
number. -/
def toLocalHms (timezone : Timezone) (unixSecs : UInt64) : ℕ × ℕ × ℕ :=
  let offset := timezone.offsetSecs unixSecs
  let secs : ℤ := if unixSecs.toNat < 2 ^ 63 then unixSecs.toNat else 2 ^ 63 - 1
  let localSecs := saturatingAdd secs offset.toInt
  let secsToday := localSecs % 86400
  ((secsToday / 3600).toNat, (secsToday % 3600 / 60).toNat, (secsToday % 60).toNat)

end Timezone
end EuDst
end Motonet
