import SmartResidence.Billing.Dates
import SmartResidence.Foundation.Bisection
import SmartResidence.Visitors.Schema

/-!
# `condo-timezone.ts`

A time zone is given by the calendar day, counted from 1 January 1970, that each instant has there.
-/

namespace SmartResidence.Visitors

open Foundation Billing

/-- `year: 'numeric'`: the year of the era, without leading zeros. -/
def numericYear (year : ℤ) : List Char := Nat.toDigits 10 (if 0 < year then year else 1 - year).toNat

def dayKeyOf (day : ℤ) : List Char := dashed (numericYear (yearOf day)) day

def zonedDayKey (zone : Instant → ℤ) (instant : Instant) : List Char := dayKeyOf (zone instant)

def parseDayKey (dayKey : List Char) : Except String (ℚ × ℚ × ℚ) :=
  let part := fun index => ((dayKey.splitOn '-')[index]?).bind fun raw => numberOf (.ofList raw)
  match part 0, part 1, part 2 with
  | some year, some month, some day => .ok (year, month, day)
  | _, _, _ => .error ("Invalid day key: " ++ .ofList dayKey)

def addDaysToDayKey (dayKey : List Char) (days : ℤ) : Except String (List Char) := do
  let (year, month, day) ← parseDayKey dayKey
  match dateUtc year (month - 1) (day + days) with
  | some date => return (isoDate (date / msPerDay)).take 10
  | none => throw "Invalid time value"

/-- `none` stands for an invalid `Date`. A comparison with NaN ends the search at once. -/
def zonedMidnightUtc (zone : Instant → ℤ) (dayKey : List Char) : Except String (Option Instant) := do
  let (year, month, day) ← parseDayKey dayKey
  match dateUtc year (month - 1) (day - 1), dateUtc year (month - 1) (day + 2) with
  | some low, some high => return some (bisect (fun mid => decide (zonedDayKey zone mid < dayKey)) low high)
  | low, _ => return low

structure DayBounds where
  start : Option Instant
  stop : Option Instant

def condoDayBounds (zone : Instant → ℤ) (instant : Instant) : Except String DayBounds := do
  let dayKey := zonedDayKey zone instant
  let start ← zonedMidnightUtc zone dayKey
  let next ← addDaysToDayKey dayKey 1
  let stop ← zonedMidnightUtc zone next
  return ⟨start, stop⟩

end SmartResidence.Visitors
