import FieldRules.Date.Found

/-!
The letters of a date format: each names a part of a date to read and a way to write it.
-/

namespace FieldRules

inductive Letter where
  | d | j | D | l | m | n | M | F | Y | y | H | G | h | g | i | s | u | A | a | O | P
  deriving DecidableEq, Repr

namespace Letter

def char : Letter → Char
  | .d => 'd' | .j => 'j' | .D => 'D' | .l => 'l' | .m => 'm' | .n => 'n' | .M => 'M' | .F => 'F'
  | .Y => 'Y' | .y => 'y' | .H => 'H' | .G => 'G' | .h => 'h' | .g => 'g' | .i => 'i' | .s => 's'
  | .u => 'u' | .A => 'A' | .a => 'a' | .O => 'O' | .P => 'P'

def all : List Letter :=
  [.d, .j, .D, .l, .m, .n, .M, .F, .Y, .y, .H, .G, .h, .g, .i, .s, .u, .A, .a, .O, .P]

def ofChar? (c : Char) : Option Letter := all.find? (·.char = c)

theorem ofChar?_char (x : Letter) : ofChar? x.char = some x := by
  cases x <;> rfl

def directive : Letter → Directive
  | .d | .j => .day
  | .D => .shortWeekday
  | .l => .longWeekday
  | .m | .n => .month
  | .M => .shortMonth
  | .F => .longMonth
  | .Y => .year
  | .y => .yearOfCentury
  | .H | .G => .hour24
  | .h | .g => .hour12
  | .i => .minute
  | .s => .second
  | .u => .microsecond
  | .A | .a => .halfDay
  | .O | .P => .offset

/-- Sign, hours and minutes. The seconds are cut off first, then the minutes are rounded down. -/
def offsetText (separator : Text) (t : DateTime) : Text :=
  match t.zone with
  | none => []
  | some z =>
    let minutes := (z.offset.tdiv 1000000).fdiv 60
    let sign := if minutes < 0 then '-' else '+'
    sign :: Decimal.padded 2 (minutes.natAbs / 60) ++ separator ++
      Decimal.padded 2 (minutes.natAbs % 60)

def render (t : DateTime) : Letter → Text
  | .d => Decimal.padded 2 t.day
  | .j => Decimal.natural t.day
  | .D => t.weekdayName.take 3
  | .l => t.weekdayName
  | .m => Decimal.padded 2 t.month
  | .n => Decimal.natural t.month
  | .M => t.monthName.take 3
  | .F => t.monthName
  | .Y => Decimal.padded 4 t.year
  | .y => Decimal.padded 2 (t.year % 100)
  | .H => Decimal.padded 2 t.hour
  | .G => Decimal.natural t.hour
  | .h => Decimal.padded 2 t.hour12
  | .g => Decimal.natural t.hour12
  | .i => Decimal.padded 2 t.minute
  | .s => Decimal.padded 2 t.second
  | .u => Decimal.padded 6 t.microsecond
  | .A => if t.hour < 12 then "AM".toList else "PM".toList
  | .a => if t.hour < 12 then "am".toList else "pm".toList
  | .O => offsetText [] t
  | .P => offsetText [':'] t

end Letter

end FieldRules
