import FieldRules.Unicode.Tables.Direction

/-!
Labels that mix writing directions: they must read the same way wherever they are shown.
-/

namespace FieldRules.Host

inductive Direction where
  | left | right | arabicLetter | arabicNumber | europeanNumber | europeanSeparator
  | commonSeparator | europeanTerminator | otherNeutral | boundaryNeutral | nonspacing
  deriving DecidableEq, Repr

namespace Direction

def ofCode : Nat → Direction
  | 0 => .left
  | 1 => .right
  | 2 => .arabicLetter
  | 3 => .arabicNumber
  | 4 => .europeanNumber
  | 5 => .europeanSeparator
  | 6 => .commonSeparator
  | 7 => .europeanTerminator
  | 8 => .otherNeutral
  | 9 => .boundaryNeutral
  | _ => .nonspacing

def ofChar (c : Char) : Direction :=
  match Unicode.Tables.directions.below? c.toNat with
  | some (_, code) => ofCode code
  | none => .otherNeutral

def isRightward : Direction → Bool
  | .left => true
  | _ => false

def isLeftward : Direction → Bool
  | .right | .arabicLetter => true
  | _ => false

/-- A host name with such a character in it has to keep the rule in all its labels. -/
def turnsText (d : Direction) : Bool := d.isLeftward || d = .arabicNumber

def isNeutral : Direction → Bool
  | .europeanNumber | .europeanSeparator | .commonSeparator | .europeanTerminator
  | .otherNeutral | .boundaryNeutral | .nonspacing => true
  | _ => false

def ending (ds : List Direction) : Option Direction := ds.reverse.find? (· ≠ .nonspacing)

def agreeLeftward (ds : List Direction) : Bool :=
  ds.all (fun d => d.turnsText || d.isNeutral) &&
    (ending ds).any (fun d => d.turnsText || d = .europeanNumber) &&
    !(ds.contains .europeanNumber && ds.contains .arabicNumber)

def agreeRightward (ds : List Direction) : Bool :=
  ds.all (fun d => d.isRightward || d.isNeutral) &&
    (ending ds).any fun d => d.isRightward || d = .europeanNumber

/-- A label starts with a letter of its direction, holds nothing of the other one, and ends with a
letter or a number; numbers of one label are all European or all Arabic. -/
def agree (ds : List Direction) : Bool :=
  match ds with
  | [] => false
  | d :: _ =>
    if d.isLeftward then agreeLeftward ds else d.isRightward && agreeRightward ds

end Direction

def directionsAgree (labels : List (List Char)) : Bool :=
  let directions := labels.map (·.map Direction.ofChar)
  !directions.any (·.any Direction.turnsText) || directions.all Direction.agree

end FieldRules.Host
