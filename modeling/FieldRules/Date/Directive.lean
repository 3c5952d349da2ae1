import FieldRules.Date.DateTime
import FieldRules.Decimal.Integer

/-!
The parts of a date that a pattern can name, and the forms in which a text may give them.
-/

namespace FieldRules

inductive Directive where
  | day | dayOfYear | month | year | yearOfCentury
  | hour24 | hour12 | minute | second | microsecond
  | shortWeekday | longWeekday | shortMonth | longMonth | halfDay
  | weekdayFromSunday | weekdayFromMonday | weekFromSunday | weekFromMonday
  | isoYear | isoWeek | offset | zoneName
  deriving DecidableEq, Repr

namespace Directive

def letter : Directive → Char
  | .day => 'd' | .dayOfYear => 'j' | .month => 'm' | .year => 'Y' | .yearOfCentury => 'y'
  | .hour24 => 'H' | .hour12 => 'I' | .minute => 'M' | .second => 'S' | .microsecond => 'f'
  | .shortWeekday => 'a' | .longWeekday => 'A' | .shortMonth => 'b' | .longMonth => 'B'
  | .halfDay => 'p' | .weekdayFromSunday => 'w' | .weekdayFromMonday => 'u'
  | .weekFromSunday => 'U' | .weekFromMonday => 'W' | .isoYear => 'G' | .isoWeek => 'V'
  | .offset => 'z' | .zoneName => 'Z'

def all : List Directive := [
  .day, .dayOfYear, .month, .year, .yearOfCentury, .hour24, .hour12, .minute, .second,
  .microsecond, .shortWeekday, .longWeekday, .shortMonth, .longMonth, .halfDay,
  .weekdayFromSunday, .weekdayFromMonday, .weekFromSunday, .weekFromMonday, .isoYear, .isoWeek,
  .offset, .zoneName]

def ofLetter? (c : Char) : Option Directive := all.find? (·.letter = c)

inductive Slot where
  /-- An ASCII digit in a range. -/
  | digit (low high : Char)
  /-- A digit of any script. -/
  | anyDigit
  | mark (c : Char)

def Slot.accepts : Slot → Char → Bool
  | .digit low high, c => low ≤ c && c ≤ high
  | .anyDigit, c => Unicode.isDigit c
  | .mark m, c => c == m

abbrev Form := List Slot

def Form.take? : Form → Text → Option (Text × Text)
  | [], t => some ([], t)
  | _ :: _, [] => none
  | s :: form, c :: t =>
    if s.accepts c then (take? form t).map fun (taken, rest) => (c :: taken, rest) else none

private def digit (low high : Char) : Slot := .digit low high

/-- A fraction of a second: a point and up to six digits, the longest first, or nothing. -/
def fractionForms : List Form :=
  ([6, 5, 4, 3, 2, 1].map fun n => .mark '.' :: List.replicate n .anyDigit) ++ [[]]

def afterColon (forms : List Form) : List Form := forms.map (.mark ':' :: ·) ++ forms

def offsetForms : List Form :=
  let two : Form := [digit '0' '5', .anyDigit]
  let seconds := afterColon (fractionForms.map (two ++ ·)) ++ [[]]
  let afterHours := afterColon (seconds.map (two ++ ·))
  ['+', '-'].flatMap (fun sign => afterHours.map ([.mark sign, .anyDigit, .anyDigit] ++ ·)) ++
    [[.mark 'Z']]

def forms : Directive → List Form
  | .day => [[digit '3' '3', digit '0' '1'], [digit '1' '2', .anyDigit],
      [digit '0' '0', digit '1' '9'], [digit '1' '9'], [.mark ' ', digit '1' '9']]
  | .dayOfYear => [[digit '3' '3', digit '6' '6', digit '0' '6'],
      [digit '3' '3', digit '0' '5', .anyDigit], [digit '1' '2', .anyDigit, .anyDigit],
      [digit '0' '0', digit '1' '9', .anyDigit], [digit '0' '0', digit '0' '0', digit '1' '9'],
      [digit '1' '9', .anyDigit], [digit '0' '0', digit '1' '9'], [digit '1' '9']]
  | .month | .hour12 =>
    [[digit '1' '1', digit '0' '2'], [digit '0' '0', digit '1' '9'], [digit '1' '9']]
  | .year | .isoYear => [[.anyDigit, .anyDigit, .anyDigit, .anyDigit]]
  | .yearOfCentury => [[.anyDigit, .anyDigit]]
  | .hour24 => [[digit '2' '2', digit '0' '3'], [digit '0' '1', .anyDigit], [.anyDigit]]
  | .minute => [[digit '0' '5', .anyDigit], [.anyDigit]]
  | .second => [[digit '6' '6', digit '0' '1'], [digit '0' '5', .anyDigit], [.anyDigit]]
  | .microsecond => [6, 5, 4, 3, 2, 1].map fun n => List.replicate n (digit '0' '9')
  | .weekdayFromSunday => [[digit '0' '6']]
  | .weekdayFromMonday => [[digit '1' '7']]
  | .weekFromSunday | .weekFromMonday =>
    [[digit '5' '5', digit '0' '3'], [digit '0' '4', .anyDigit], [.anyDigit]]
  | .isoWeek => [[digit '5' '5', digit '0' '3'], [digit '0' '0', digit '1' '9'],
      [digit '1' '4', .anyDigit], [.anyDigit]]
  | .offset => offsetForms
  | _ => []

def names : Directive → List Text
  | .longWeekday => Calendar.weekdayNames.map fun n => n.toList.map Char.toLower
  | .shortWeekday => Calendar.weekdayNames.map fun n => (n.toList.take 3).map Char.toLower
  | .longMonth => Calendar.monthNames.map fun n => n.toList.map Char.toLower
  | .shortMonth => Calendar.monthNames.map fun n => (n.toList.take 3).map Char.toLower
  | .halfDay => ["am".toList, "pm".toList]
  | .zoneName => ["utc".toList, "gmt".toList]
  | _ => []

/-- What stands in the group of the part in the expression that texts are matched with. -/
def expression : Directive → Text
  | .day => "3[0-1]|[1-2]\\d|0[1-9]|[1-9]| [1-9]".toList
  | .dayOfYear =>
    "36[0-6]|3[0-5]\\d|[1-2]\\d\\d|0[1-9]\\d|00[1-9]|[1-9]\\d|0[1-9]|[1-9]".toList
  | .month | .hour12 => "1[0-2]|0[1-9]|[1-9]".toList
  | .year | .isoYear => "\\d\\d\\d\\d".toList
  | .yearOfCentury => "\\d\\d".toList
  | .hour24 => "2[0-3]|[0-1]\\d|\\d".toList
  | .minute => "[0-5]\\d|\\d".toList
  | .second => "6[0-1]|[0-5]\\d|\\d".toList
  | .microsecond => "[0-9]\x7b1,6\x7d".toList
  | .weekdayFromSunday => "[0-6]".toList
  | .weekdayFromMonday => "[1-7]".toList
  | .weekFromSunday | .weekFromMonday => "5[0-3]|[0-4]\\d|\\d".toList
  | .isoWeek => "5[0-3]|0[1-9]|[1-4]\\d|\\d".toList
  | .offset => "[+-]\\d\\d:?[0-5]\\d(:?[0-5]\\d(\\.\\d\x7b1,6\x7d)?)?|(?-i:Z)".toList
  | d => Text.join ['|'] d.names

/-- The groups of the part: its own, and those inside. -/
def groups : Directive → Nat
  | .offset => 3
  | _ => 1

def takeName? (name t : Text) : Option (Text × Text) :=
  if (t.take name.length).map Char.toLower = name then
    some (t.take name.length, t.drop name.length)
  else none

def candidates (d : Directive) (t : Text) : List (Text × Text) :=
  d.forms.filterMap (·.take? t) ++ d.names.filterMap (takeName? · t)

end Directive

end FieldRules
