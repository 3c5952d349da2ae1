import FieldRules.Date.Pattern

/-!
From the parts that a text gives to the point in time that they name. A part that is not given is
that of the first of January 1900; of two parts that say the same the later counts.
-/

namespace FieldRules

structure Found where
  year : Option Nat := none
  month : Nat := 1
  day : Nat := 1
  hour : Nat := 0
  minute : Nat := 0
  second : Nat := 0
  microsecond : Nat := 0
  weekday : Option Nat := none
  dayOfYear : Option Nat := none
  isoYear : Option Nat := none
  isoWeek : Option Nat := none
  /-- A week of the year, and whether it starts on Monday. -/
  week : Option (Nat × Bool) := none
  /-- Microseconds; nothing if the offset is not well formed. -/
  offset : Option (Option Int) := none
  zoneName : Option Text := none

namespace Found

def digitsOf (t : Text) : List Nat := t.filterMap Unicode.digit?

def numberOf (t : Text) : Nat := Decimal.value (digitsOf t)

def nameIndex (d : Directive) (t : Text) : Nat := d.names.idxOf (t.map Char.toLower)

/-- Years 69 to 99 are those of the last century. -/
def fullYear (n : Nat) : Nat := if n ≤ 68 then 2000 + n else 1900 + n

def hourOfHalfDay (hour : Nat) (afternoon : Bool) : Nat :=
  if afternoon then if hour = 12 then 12 else hour + 12
  else if hour = 12 then 0 else hour

/-- The offset in microseconds. Hours, minutes and seconds have all their colons or none. -/
def offsetOf (t : Text) : Option Int :=
  match t with
  | ['Z'] => some 0
  | sign :: body =>
    let ds := digitsOf body
    let colons := body.count ':'
    if 6 ≤ ds.length ∧ colons = 1 then none
    else
      let clock := 3600 * Decimal.value (ds.take 2) + 60 * Decimal.value ((ds.drop 2).take 2) +
        Decimal.value ((ds.drop 4).take 2)
      let fraction := ds.drop 6
      let micro := Decimal.value (fraction ++ List.replicate (6 - fraction.length) 0)
      let total : Int := clock * 1000000 + micro
      some (if sign = '-' then -total else total)
  | [] => none

def add (afternoon : Bool) (f : Found) : Directive × Text → Found
  | (.day, t) => { f with day := numberOf t }
  | (.dayOfYear, t) => { f with dayOfYear := some (numberOf t) }
  | (.month, t) => { f with month := numberOf t }
  | (.year, t) => { f with year := some (numberOf t) }
  | (.yearOfCentury, t) => { f with year := some (fullYear (numberOf t)) }
  | (.hour24, t) => { f with hour := numberOf t }
  | (.hour12, t) => { f with hour := hourOfHalfDay (numberOf t) afternoon }
  | (.minute, t) => { f with minute := numberOf t }
  | (.second, t) => { f with second := numberOf t }
  | (.microsecond, t) =>
    { f with microsecond := numberOf t * Nat.pow 10 (6 - t.length) }
  | (.shortWeekday, t) => { f with weekday := some (nameIndex .shortWeekday t) }
  | (.longWeekday, t) => { f with weekday := some (nameIndex .longWeekday t) }
  | (.shortMonth, t) => { f with month := nameIndex .shortMonth t + 1 }
  | (.longMonth, t) => { f with month := nameIndex .longMonth t + 1 }
  | (.halfDay, _) => f
  | (.weekdayFromSunday, t) => { f with weekday := some ((numberOf t + 6) % 7) }
  | (.weekdayFromMonday, t) => { f with weekday := some (numberOf t - 1) }
  | (.weekFromSunday, t) => { f with week := some (numberOf t, false) }
  | (.weekFromMonday, t) => { f with week := some (numberOf t, true) }
  | (.isoYear, t) => { f with isoYear := some (numberOf t) }
  | (.isoWeek, t) => { f with isoWeek := some (numberOf t) }
  | (.offset, t) => { f with offset := some (offsetOf t) }
  | (.zoneName, t) => { f with zoneName := some t }

def isAfternoon (captures : Pattern.Captures) : Bool :=
  match captures.lookup .halfDay with
  | some t => nameIndex .halfDay t = 1
  | none => false

def ofCaptures (captures : Pattern.Captures) : Found :=
  captures.foldl (add (isAfternoon captures)) {}

/-- A year of the calendar that numbers weeks by their Thursdays stands in for the year if it comes
with such a week and a weekday. Without it, or beside a year, such a week goes only with a week of
another kind. -/
def isoConsistent (f : Found) : Bool :=
  if f.year.isNone && f.isoYear.isSome then
    f.isoWeek.isSome && f.weekday.isSome && f.dayOfYear.isNone
  else f.isoWeek.isNone || f.week.isSome

def dayOfWeek (year week weekday : Nat) (fromMonday : Bool) : Int :=
  let shift (d : Nat) : Nat := if fromMonday then d else (d + 1) % 7
  let first := shift (Calendar.weekday (Calendar.dayNumber year 1 1))
  let weekday := shift weekday
  if week = 0 then 1 + weekday - first
  else 1 + ((7 - first) % 7 : Nat) + 7 * ((week : Int) - 1) + weekday

/-- The year, and the day of that year, of a day of a week that is numbered by its Thursday.
Weekdays count from 1. -/
def isoDay (year week weekday : Nat) : Option (Nat × Int) :=
  let correction := Calendar.weekday (Calendar.dayNumber year 1 4) + 4
  let n : Int := 7 * week + weekday - correction
  if 1 ≤ n then some (year, n)
  else if 2 ≤ year then
    some (year - 1, n + Calendar.dayNumber year 1 1 - Calendar.dayNumber (year - 1) 1 1)
  else none

def yearAndDay (f : Found) (year : Nat) : Option (Nat × Option Int) :=
  match f.dayOfYear, f.weekday with
  | some n, _ => some (year, some n)
  | none, some weekday =>
    let given : Option (Nat × Option Int) :=
      match f.week, f.isoYear, f.isoWeek with
      | some (week, fromMonday), _, _ =>
        if 1 ≤ year then some (year, some (dayOfWeek year week weekday fromMonday)) else none
      | none, some isoYear, some isoWeek =>
        if 1 ≤ isoYear then (isoDay isoYear isoWeek (weekday + 1)).map fun (y, n) => (y, some n)
        else none
      | _, _, _ => some (year, none)
    match given with
    | some (y, some n) =>
      if n ≤ 0 then some (y - 1, some (n + Calendar.daysInYear (y - 1))) else some (y, some n)
    | other => other
  | none, none => some (year, none)

def date? (f : Found) (year : Nat) : Option (Nat × Nat × Nat) :=
  match f.yearAndDay year with
  | none => none
  | some (y, none) =>
    if 1 ≤ y ∧ 1 ≤ f.day ∧ f.day ≤ Calendar.daysInMonth y f.month then some (y, f.month, f.day)
    else none
  | some (y, some n) =>
    let number := n - 1 + Calendar.dayNumber y 1 1
    if 1 ≤ y ∧ 1 ≤ number ∧ number ≤ Calendar.lastDayNumber then
      some (Calendar.ofDayNumber number.toNat)
    else none

/-- The year that is assumed: with the 29th of February a leap year, until the date is known. -/
def assumedYear (f : Found) : Nat := if f.month = 2 ∧ f.day = 29 then 1904 else 1900

def zone? (f : Found) : Option (Option Zone) :=
  match f.offset with
  | none => some none
  | some none => none
  | some (some offset) => (Zone.make? offset f.zoneName).map some

def dateTime? (f : Found) : Option DateTime :=
  if f.isoConsistent then
    match f.date? (f.year.getD f.assumedYear), f.zone? with
    | some (year, month, day), some zone =>
      let year := if f.year.isNone && f.assumedYear = 1904 then 1900 else year
      DateTime.make? year month day f.hour f.minute f.second f.microsecond zone
    | _, _ => none
  else none

end Found

namespace Pattern

inductive Problem where
  /-- The text does not fit, or names no point in time. -/
  | mismatch
  | repeated (again : Redefinition)
  deriving DecidableEq, Repr

def read (pattern text : Text) : Except Problem DateTime :=
  match items? pattern with
  | none => .error .mismatch
  | some items =>
    match redefinition? items with
    | some again => .error (.repeated again)
    | none =>
      match fit? items text with
      | some (captures, []) =>
        match (Found.ofCaptures captures).dateTime? with
        | some t => .ok t
        | none => .error .mismatch
      | _ => .error .mismatch

end Pattern

end FieldRules
