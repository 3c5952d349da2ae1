import FieldRules.Decimal.Integer

/-!
Numerals with an optional fraction and an optional power of ten, such as `-3.5` and `1e3`.
-/

namespace FieldRules

structure Numeral where
  negative : Bool
  whole : List Nat
  fraction : List Nat
  exponent : Int
  deriving DecidableEq, Repr

namespace Numeral

def leadingDigits : Text → List Nat × Text
  | [] => ([], [])
  | c :: t =>
    match Unicode.digit? c with
    | some d => let (ds, rest) := leadingDigits t; (d :: ds, rest)
    | none => ([], c :: t)

/-- The power of ten: nothing, or `e` and a whole number, to the end of the text. -/
def exponent? : Text → Option Int
  | [] => some 0
  | c :: t =>
    if c = 'e' ∨ c = 'E' then
      let (negative, body) := Decimal.signed t
      match leadingDigits body with
      | ([], _) => none
      | (ds, []) => some (if negative then -(Decimal.value ds : Int) else Decimal.value ds)
      | _ => none
    else none

def fractionPart : Text → List Nat × Text
  | '.' :: t => leadingDigits t
  | t => ([], t)

/-- Reads a numeral with nothing around it; there is a digit before or after the point. -/
def read? (t : Text) : Option Numeral :=
  let (negative, body) := Decimal.signed t
  let (whole, afterWhole) := leadingDigits body
  let (fraction, afterFraction) := fractionPart afterWhole
  if whole.isEmpty && fraction.isEmpty then none
  else (exponent? afterFraction).map fun e => ⟨negative, whole, fraction, e⟩

end Numeral

end FieldRules
