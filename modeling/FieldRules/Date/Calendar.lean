/-!
The Gregorian calendar, extended to all years from 1 on. Day 1 is the first of January of year 1.
-/

namespace FieldRules.Calendar

def isLeap (year : Nat) : Bool := year % 4 = 0 && (year % 100 != 0 || year % 400 = 0)

def daysInYear (year : Nat) : Nat := if isLeap year then 366 else 365

def daysInMonth (year : Nat) : Nat → Nat
  | 2 => if isLeap year then 29 else 28
  | 4 | 6 | 9 | 11 => 30
  | _ => 31

def daysBeforeYear (year : Nat) : Nat :=
  let past := year - 1
  365 * past + past / 4 - past / 100 + past / 400

def daysBeforeMonth (year month : Nat) : Nat :=
  ((List.range (month - 1)).map fun i => daysInMonth year (i + 1)).foldr (· + ·) 0

def dayNumber (year month day : Nat) : Nat :=
  daysBeforeYear year + daysBeforeMonth year month + day

/-- Monday is 0. -/
def weekday (number : Nat) : Nat := (number + 6) % 7

/-- The month and day that day `r` of the months from `12 - k` on falls on. -/
def monthAndDay (year : Nat) : Nat → Nat → Nat × Nat
  | 0, r => (12, r)
  | k + 1, r =>
    let month := 12 - (k + 1)
    if r ≤ daysInMonth year month then (month, r)
    else monthAndDay year k (r - daysInMonth year month)

def ofDayNumber (n : Nat) : Nat × Nat × Nat :=
  let estimate := (n - 1) * 400 / 146097 + 1
  let year :=
    if daysBeforeYear (estimate + 1) < n then estimate + 1
    else if daysBeforeYear estimate < n then estimate
    else estimate - 1
  let (month, day) := monthAndDay year 11 (n - daysBeforeYear year)
  (year, month, day)

def lastDayNumber : Nat := 3652059

def monthNames : List String := [
  "January", "February", "March", "April", "May", "June",
  "July", "August", "September", "October", "November", "December"]

def weekdayNames : List String := [
  "Monday", "Tuesday", "Wednesday", "Thursday", "Friday", "Saturday", "Sunday"]

end FieldRules.Calendar
