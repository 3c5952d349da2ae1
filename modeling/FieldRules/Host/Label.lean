import FieldRules.Host.Punycode
import FieldRules.Unicode.Normal
import FieldRules.Unicode.Tables.HostLetter
import FieldRules.Unicode.Tables.Mark
import FieldRules.Unicode.Tables.Script

/-!
Labels of host names, in their Unicode form and in their ASCII form.
-/

namespace FieldRules.Host.Label

def isArabicDigit (c : Char) : Bool := 0x660 ≤ c.toNat && c.toNat ≤ 0x669

def isExtendedDigit (c : Char) : Bool := 0x6f0 ≤ c.toNat && c.toNat ≤ 0x6f9

/-- Whether `c` may stand between `before`, which is given backwards, and `after`. Some characters
need a neighbour, or company, of their own script. -/
def isAllowed (before : Text) (c : Char) (after : Text) : Bool :=
  let n := c.toNat
  if n < 128 then c.isLower || c.isDigit || c = '-'
  else if n = 0xb7 then before.head? == some 'l' && after.head? == some 'l'
  else if n = 0x375 then after.head?.any Unicode.Tables.greek.covers
  else if n = 0x5f3 ∨ n = 0x5f4 then before.head?.any Unicode.Tables.hebrew.covers
  else if n = 0x30fb then (before ++ after).any Unicode.Tables.japanese.covers
  else if isArabicDigit c then !(before ++ after).any isExtendedDigit
  else if isExtendedDigit c then !(before ++ after).any isArabicDigit
  else Unicode.Tables.permitted.covers c

def allAllowed (before : Text) : Text → Bool
  | [] => true
  | c :: after => isAllowed before c after && allAllowed (c :: before) after

/-- The label may be shown: it is composed, does not start with a mark, has no hyphen at its ends
nor at both its third and fourth place, and holds only characters that are allowed there. -/
def isValid (label : Text) : Bool :=
  Unicode.normal label == label && (label.drop 2).take 2 != ['-', '-'] &&
    label.head?.any (fun c => c ≠ '-' && !Unicode.Tables.marks.covers c) &&
    label.getLast? != some '-' && allAllowed [] label

def mark : Text := "xn--".toList

def unicode? (label : Text) : Option Text :=
  if label.take 4 = mark then
    let code := label.drop 4
    match Punycode.decode? code with
    | some shown =>
      if code.getLast?.any (· ≠ '-') && isValid shown && Punycode.encode shown == code then
        some shown
      else none
    | none => none
  else if isValid label then some label
  else none

def ascii (label : Text) : Text :=
  if label.isAscii then label else mark ++ Punycode.encode label

end FieldRules.Host.Label
