import FieldRules.Host.Direction
import FieldRules.Host.Label
import FieldRules.Host.Mapping
import FieldRules.Unicode.Printable

/-!
Host names of any script: a mapping brings them into one form, their labels are judged one by one,
and each has an ASCII form.
-/

namespace FieldRules

structure Host where
  unicode : Text
  ascii : Text
  deriving DecidableEq, Repr

namespace Host

def isHostCharacter (c : Char) : Bool :=
  c.isAlphanum || c = '-' || c = '.' || (128 ≤ c.toNat && Unicode.isPrintable c)

def reserved : List String := ["arpa", "invalid", "local", "localhost", "onion", "test"]

def isReserved (name : Text) : Bool :=
  (name.split '.').getLast?.any fun last => reserved.any (·.toList = last)

/-- A name of two or more labels that ends in a letter and is not too long. -/
def isGlobal (name : Text) : Bool :=
  name.contains '.' && name.getLast?.any Char.isAlpha && !isReserved name &&
    name.length ≤ 253 && (name.split '.').all (·.length ≤ 63)

def ofLabels? (labels : List Text) : Option Host :=
  match labels.mapM Label.unicode? with
  | none => none
  | some shown =>
    let ascii := Text.join ['.'] (labels.map Label.ascii)
    if directionsAgree shown && isGlobal ascii then some ⟨Text.join ['.'] shown, ascii⟩ else none

def ofText? (t : Text) : Option Host :=
  if t.all isHostCharacter && !t.head?.any Unicode.Tables.marks.covers then
    match map? t with
    | some name => ofLabels? (name.split '.')
    | none => none
  else none

end Host

end FieldRules
