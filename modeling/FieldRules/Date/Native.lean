import FieldRules.Date.Letter

/-!
Writing a point in time by a format of percent signs, each with flags, a width and a letter.
-/

namespace FieldRules.Native

structure Style where
  pad : Option Char := none
  width : Nat := 0
  upper : Bool := false
  swap : Bool := false

inductive Piece where
  /-- A number of at least so many digits. -/
  | number (digits : Nat) (n : Int)
  /-- A number padded with blanks. -/
  | spaced (digits : Nat) (n : Int)
  | text (t : Text)
  /-- A name, which the swap of case turns into capitals. -/
  | name (t : Text)
  /-- A mark of the half of the day, which the swap of case turns into small letters. -/
  | half (t : Text)
  /-- A text that keeps its case. -/
  | kept (t : Text)
  /-- No text of any width. -/
  | nothing

def two (n : Nat) : Text := Decimal.padded 2 n

def spacedTwo (n : Nat) : Text :=
  let ds := Decimal.natural n
  List.replicate (2 - ds.length) ' ' ++ ds

def halfDay (t : DateTime) : Text := if t.hour < 12 then "AM".toList else "PM".toList

def clock (t : DateTime) : Text := two t.hour ++ ':' :: two t.minute ++ ':' :: two t.second

def slashed (t : DateTime) : Text :=
  two t.month ++ '/' :: two t.day ++ '/' :: two (t.year % 100)

/-- Sunday is 0. -/
def sundayWeekday (t : DateTime) : Nat := (t.weekday + 1) % 7

def isoWeek (t : DateTime) : Nat × Nat :=
  let thursday := t.dayNumber + 3 - t.weekday
  let year := if 1 ≤ t.year ∧ thursday ≤ Calendar.daysBeforeYear t.year then t.year - 1
    else if Calendar.daysBeforeYear (t.year + 1) < thursday then t.year + 1 else t.year
  (year, (thursday - Calendar.daysBeforeYear year - 1) / 7 + 1)

def epochSeconds (t : DateTime) : Int :=
  ((t.dayNumber : Int) - Calendar.dayNumber 1970 1 1) * 86400 +
    (t.hour * 3600 + t.minute * 60 + t.second : Nat)

def piece? (t : DateTime) : Char → Option Piece
  | 'a' => some (.name (t.weekdayName.take 3))
  | 'A' => some (.name t.weekdayName)
  | 'b' | 'h' => some (.name (t.monthName.take 3))
  | 'B' => some (.name t.monthName)
  | 'c' => some (.text (t.weekdayName.take 3 ++ ' ' :: t.monthName.take 3 ++ ' ' ::
      spacedTwo t.day ++ ' ' :: clock t ++ ' ' :: Decimal.natural t.year))
  | 'C' => some (.number 1 (t.year / 100 : Nat))
  | 'd' => some (.number 2 t.day)
  | 'D' | 'x' => some (.text (slashed t))
  | 'e' => some (.spaced 2 t.day)
  | 'F' => some (.text (Decimal.natural t.year ++ '-' :: two t.month ++ '-' :: two t.day))
  | 'g' => some (.number 2 ((isoWeek t).1 % 100 : Nat))
  | 'G' => some (.number 1 (isoWeek t).1)
  | 'H' => some (.number 2 t.hour)
  | 'I' => some (.number 2 t.hour12)
  | 'j' => some (.number 3 t.dayOfYear)
  | 'k' => some (.spaced 2 t.hour)
  | 'l' => some (.spaced 2 t.hour12)
  | 'm' => some (.number 2 t.month)
  | 'M' => some (.number 2 t.minute)
  | 'n' => some (.text ['\n'])
  | 'p' => some (.half (halfDay t))
  | 'P' => some (.kept ((halfDay t).map Char.toLower))
  | 'r' => some (.text (two t.hour12 ++ ':' :: two t.minute ++ ':' :: two t.second ++
      ' ' :: halfDay t))
  | 'R' => some (.text (two t.hour ++ ':' :: two t.minute))
  | 's' => some (.kept (Decimal.integer (epochSeconds t)))
  | 'S' => some (.number 2 t.second)
  | 't' => some (.text ['\t'])
  | 'T' | 'X' => some (.text (clock t))
  | 'u' => some (.number 1 (t.weekday + 1 : Nat))
  | 'U' => some (.number 2 ((t.dayOfYear + 6 - sundayWeekday t) / 7 : Nat))
  | 'V' => some (.number 2 (isoWeek t).2)
  | 'w' => some (.number 1 (sundayWeekday t))
  | 'W' => some (.number 2 ((t.dayOfYear + 6 - t.weekday) / 7 : Nat))
  | 'y' => some (.number 2 (t.year % 100 : Nat))
  | 'Y' => some (.number 1 t.year)
  | 'z' => some .nothing
  | 'Z' => some (.kept [])
  | '%' => some (.text ['%'])
  | _ => none

def widened (s : Style) (t : Text) : Text :=
  List.replicate (s.width - t.length) (if s.pad = some '0' then '0' else ' ') ++ t

def numeral (s : Style) (digits : Nat) (n : Int) : Text :=
  let ds := Decimal.natural n.natAbs
  let sign : Text := if n < 0 then ['-'] else []
  let missing := max digits s.width - (sign ++ ds).length
  match s.pad with
  | some '-' => sign ++ ds
  | some '_' => List.replicate missing ' ' ++ sign ++ ds
  | _ => sign ++ List.replicate missing '0' ++ ds

def cased (s : Style) (t : Text) : Text := if s.upper then t.map Char.toUpper else t

def Piece.render (s : Style) : Piece → Text
  | .number digits n => widened s (numeral s digits n)
  | .spaced digits n =>
    widened s (numeral { s with pad := some (s.pad.getD '_') } digits n)
  | .text t => widened s (cased s t)
  | .name t => widened s (cased { s with upper := s.upper || s.swap } t)
  | .half t => widened s (if s.swap then t.map Char.toLower else cased s t)
  | .kept t => widened s t
  | .nothing => []

/-- A percent sign, flags, digits of a width, and a modifier, before a letter. -/
structure Head where
  style : Style
  modifier : Option Char
  /-- What has been read, from its end backwards. -/
  spelling : Text

def Head.takesFlag (h : Head) : Bool := h.style.width = 0 && h.modifier.isNone

def modifiable : Char → List Char
  | 'E' => "cCxXyYpPrRTsntuzZ".toList
  | _ => "BbhdeHIklMmSuUVwWyjgGpPrRTsntzZ".toList

def Head.piece? (h : Head) (t : DateTime) (c : Char) : Option Piece :=
  match h.modifier with
  | none => Native.piece? t c
  | some m => if (modifiable m).contains c then Native.piece? t c else none

def fractionText (micro : Nat) : Text :=
  if micro = 0 then [] else '.' :: Decimal.padded 6 micro

def offsetClock (separator : Text) (offset : Int) : Text :=
  let total := offset.natAbs
  let seconds := total / 1000000
  let micro := total % 1000000
  let rest :=
    if seconds % 60 = 0 ∧ micro = 0 then []
    else separator ++ two (seconds % 60) ++ fractionText micro
  (if offset < 0 then '-' else '+') :: two (seconds / 3600) ++ separator ++
    two (seconds / 60 % 60) ++ rest

def offsetText (t : DateTime) : Text :=
  match t.zone with
  | none => []
  | some z => offsetClock [] z.offset

def zoneText (t : DateTime) : Text :=
  match t.zone with
  | none => []
  | some ⟨_, some name, _⟩ => name
  | some ⟨offset, none, _⟩ =>
    "UTC".toList ++ if offset = 0 then [] else offsetClock [':'] offset

/-- Parts that are written only directly after the percent sign. -/
def direct? (t : DateTime) : Char → Option Text
  | 'f' => some (Decimal.padded 6 t.microsecond)
  | 'z' => some (offsetText t)
  | 'Z' => some (zoneText t)
  | _ => none

def Head.copied (h : Head) : Text := widened h.style (cased h.style h.spelling.reverse)

/-- Writes `t` by the format, up to a null character. A percent sign without a meaning is copied
with what belongs to it. Widths are not larger than `widest`. -/
def renderFrom (t : DateTime) (widest : Nat) : Option Head → Text → Text
  | none, [] => []
  | some h, [] => h.copied
  | none, c :: rest =>
    if c = '\x00' then []
    else if c = '%' then renderFrom t widest (some ⟨{}, none, ['%']⟩) rest
    else c :: renderFrom t widest none rest
  | some h, c :: rest =>
    let longer := { h with spelling := c :: h.spelling }
    let style := h.style
    if c = '\x00' then h.copied
    else if h.spelling = ['%'] ∧ (direct? t c).isSome then
      (direct? t c).getD [] ++ renderFrom t widest none rest
    else if h.takesFlag ∧ (c = '_' ∨ c = '-' ∨ c = '0') then
      renderFrom t widest (some { longer with style := { style with pad := some c } }) rest
    else if h.takesFlag ∧ c = '^' then
      renderFrom t widest (some { longer with style := { style with upper := true } }) rest
    else if h.takesFlag ∧ c = '#' then
      renderFrom t widest (some { longer with style := { style with swap := true } }) rest
    else if h.modifier.isNone ∧ c.isDigit then
      let width := min widest (10 * style.width + (c.toNat - '0'.toNat))
      renderFrom t widest (some { longer with style := { style with width } }) rest
    else if h.modifier.isNone ∧ (c = 'E' ∨ c = 'O') then
      renderFrom t widest (some { longer with modifier := some c }) rest
    else
      match h.piece? t c with
      | some p => p.render style ++ renderFrom t widest none rest
      | none => longer.copied ++ renderFrom t widest none rest

/-- The first power of two from 1024 on that is at least 256 times the length of the format. -/
def room (format : Text) : Nat :=
  let least := 256 * (format.takeWhile (· ≠ '\x00')).length
  if least ≤ 1024 then 1024 else Nat.pow 2 ((least - 1).log2 + 1)

/-- Writes `t` by the format. A text that needs more room than the format gets is not written. -/
def render (t : DateTime) (format : Text) : Text :=
  let rendered := renderFrom t (room format) none format
  if rendered.length < room format then rendered else []

end FieldRules.Native
