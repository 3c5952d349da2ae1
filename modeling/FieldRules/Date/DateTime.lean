import FieldRules.Text
import FieldRules.Date.Calendar

/-!
Points in time: a date of the years 1 to 9999, a time of day, and perhaps a time zone.
-/

namespace FieldRules

/-- An offset from universal time in microseconds, less than a day, and perhaps a name. -/
structure Zone where
  offset : Int
  name : Option Text
  bounded : -86400000000 < offset ∧ offset < 86400000000
  deriving DecidableEq

def DateTime.Exists (year month day hour minute second microsecond : Nat) : Prop :=
  (1 ≤ year ∧ year ≤ 9999) ∧ (1 ≤ month ∧ month ≤ 12) ∧
    (1 ≤ day ∧ day ≤ Calendar.daysInMonth year month) ∧
    hour < 24 ∧ minute < 60 ∧ second < 60 ∧ microsecond < 1000000

instance (y mo d h mi s us : Nat) : Decidable (DateTime.Exists y mo d h mi s us) := by
  unfold DateTime.Exists; infer_instance

structure DateTime where
  year : Nat
  month : Nat
  day : Nat
  hour : Nat
  minute : Nat
  second : Nat
  microsecond : Nat
  zone : Option Zone
  valid : DateTime.Exists year month day hour minute second microsecond
  deriving DecidableEq

namespace DateTime

def make? (year month day hour minute second microsecond : Nat) (zone : Option Zone) :
    Option DateTime :=
  if h : Exists year month day hour minute second microsecond then
    some ⟨year, month, day, hour, minute, second, microsecond, zone, h⟩
  else none

def dayNumber (t : DateTime) : Nat := Calendar.dayNumber t.year t.month t.day

def weekday (t : DateTime) : Nat := Calendar.weekday t.dayNumber

def dayOfYear (t : DateTime) : Nat := Calendar.daysBeforeMonth t.year t.month + t.day

def hour12 (t : DateTime) : Nat := if t.hour % 12 = 0 then 12 else t.hour % 12

def monthName (t : DateTime) : Text := (Calendar.monthNames.getD (t.month - 1) "").toList

def weekdayName (t : DateTime) : Text := (Calendar.weekdayNames.getD t.weekday "").toList

end DateTime

def Zone.make? (offset : Int) (name : Option Text) : Option Zone :=
  if h : -86400000000 < offset ∧ offset < 86400000000 then some ⟨offset, name, h⟩ else none

end FieldRules
