import FieldRules.Date.Directive
import FieldRules.Fault
import FieldRules.Unicode.Fold

/-!
Patterns of dates: literal characters, blanks and percent signs with letters. A text is matched
from left to right, going back to the next best choice where it does not fit.
-/

namespace FieldRules

namespace Pattern

inductive Item where
  /-- A character, in either case. -/
  | literal (c : Char)
  /-- One or more blanks of any kind. -/
  | blanks
  | part (d : Directive)
  deriving DecidableEq, Repr

def expand? : Char → Option (List Item)
  | '%' => some [.literal '%']
  | 'c' => some [.part .shortWeekday, .blanks, .part .shortMonth, .blanks, .part .day, .blanks,
      .part .hour24, .literal ':', .part .minute, .literal ':', .part .second, .blanks, .part .year]
  | 'x' => some [.part .month, .literal '/', .part .day, .literal '/', .part .yearOfCentury]
  | 'X' => some [.part .hour24, .literal ':', .part .minute, .literal ':', .part .second]
  | c => (Directive.ofLetter? c).map ([.part ·])

def startsBlank : Text → Bool
  | c :: _ => Unicode.isBlank c
  | [] => false

/-- The items of a pattern, or nothing if a percent sign has no letter or one without meaning. -/
def items? : Text → Option (List Item)
  | [] => some []
  | ['%'] => none
  | '%' :: c :: t =>
    match expand? c, items? t with
    | some meaning, some rest => some (meaning ++ rest)
    | _, _ => none
  | c :: t =>
    if Unicode.isBlank c then
      if startsBlank t then items? t else (items? t).map (.blanks :: ·)
    else (items? t).map (.literal c :: ·)

def Item.directive? : Item → Option Directive
  | .part d => some d
  | _ => none

def Item.width : Item → Nat
  | .literal c => if "\\.^$*+?()\x7b\x7d[]|".toList.contains c then 2 else 1
  | .blanks => "\\s+".length
  | .part d => "(?P<".length + [d.letter].length + ">".length + d.expression.length + ")".length

/-- The first part that is named again, behind parts with these groups, where an expression has this
length and this number of groups. -/
def redefinitionFrom (length groups : Nat) (earlier : List (Directive × Nat)) :
    List Item → Option Redefinition
  | [] => none
  | .part d :: items =>
    match earlier.lookup d with
    | some n => some ⟨d.letter, groups + 1, n, length + "(?P<".length⟩
    | none => redefinitionFrom (length + (Item.part d).width) (groups + d.groups)
      (earlier ++ [(d, groups + 1)]) items
  | item :: items => redefinitionFrom (length + item.width) groups earlier items

def redefinition? (items : List Item) : Option Redefinition := redefinitionFrom 0 0 [] items

def blankCandidates (t : Text) : List Text :=
  let run := (t.takeWhile Unicode.isBlank).length
  (List.range run).reverse.map fun i => t.drop (i + 1)

abbrev Captures := List (Directive × Text)

/-- The first way in which the items fit the beginning of a text: the parts and the rest. -/
def fit? : List Item → Text → Option (Captures × Text)
  | [], t => some ([], t)
  | .literal p :: items, t =>
    match t with
    | c :: rest => if Unicode.sameLetter p c then fit? items rest else none
    | [] => none
  | .blanks :: items, t => (blankCandidates t).findSome? fun rest => fit? items rest
  | .part d :: items, t =>
    (d.candidates t).findSome? fun (taken, rest) =>
      (fit? items rest).map fun (captures, last) => ((d, taken) :: captures, last)

end Pattern

end FieldRules
