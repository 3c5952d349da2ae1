import FieldRules.Fault

/-!
Texts of code points. Some code points are no characters: they are halves of pairs that stand for one.
-/

namespace FieldRules

structure Surrogate where
  code : Nat
  isHalf : 0xd800 ≤ code ∧ code ≤ 0xdfff
  deriving DecidableEq, Repr

inductive CodePoint where
  | char (c : Char)
  | lone (s : Surrogate)
  deriving DecidableEq, Repr

def CodePoint.isLone : CodePoint → Bool
  | .char _ => false
  | .lone _ => true

abbrev WideText := List CodePoint

namespace WideText

def ofText (t : Text) : WideText := t.map .char

/-- The characters in front of the first code point that is none. -/
def lead : WideText → Text
  | .char c :: t => c :: lead t
  | _ => []

def afterLead : WideText → WideText
  | .char _ :: t => afterLead t
  | t => t

/-- The characters of a text that has nothing else. -/
def encode (t : WideText) : Except Fault Text :=
  match t.afterLead with
  | .lone s :: rest =>
    .error (.loneSurrogates s.code t.lead.length ((rest.takeWhile CodePoint.isLone).length + 1))
  | _ => .ok t.lead

end WideText

end FieldRules
