import FieldRules.Decimal.Numeral

/-!
Floating-point numbers of 64 bits as exact numbers: a finite one is a significand times a power of
two. Reading a numeral rounds to the nearest such number, and of two equally near to the one with
the even significand.
-/

namespace FieldRules

/-- Significands of 53 bits, all of them used unless the exponent is least. -/
def Binary64.Fits (significand : Nat) (exponent : Int) : Prop :=
  significand < Nat.pow 2 53 ∧ -1074 ≤ exponent ∧ exponent ≤ 971 ∧
    (Nat.pow 2 52 ≤ significand ∨ exponent = -1074)

instance (m : Nat) (e : Int) : Decidable (Binary64.Fits m e) := by
  unfold Binary64.Fits; infer_instance

inductive Binary64 where
  | nan
  | infinite (negative : Bool)
  | finite (negative : Bool) (significand : Nat) (exponent : Int)
      (fits : Binary64.Fits significand exponent)
  deriving DecidableEq

namespace Binary64

def zero (negative : Bool) : Binary64 := .finite negative 0 (-1074) (by decide)

def ofSignificand (negative : Bool) (m : Nat) (e : Int) : Binary64 :=
  if h : Fits m e then .finite negative m e h else .infinite negative

/-- `num / den` times `2 ^ -e`, as a numerator and a denominator. -/
def scaled (num den : Nat) (e : Int) : Nat × Nat := (num * Nat.pow 2 (-e).toNat, den * Nat.pow 2 e.toNat)

/-- The `b` with `2 ^ b ≤ num / den < 2 ^ (b + 1)`. -/
def binaryOrder (num den : Nat) : Int :=
  let b : Int := num.log2 - den.log2
  let (n, d) := scaled num den b
  if n < d then b - 1 else b

def roundHalfEven (num den : Nat) : Nat :=
  let q := num / den
  let r := num % den
  if 2 * r < den ∨ (2 * r = den ∧ q % 2 = 0) then q else q + 1

def ofQuotient (negative : Bool) (num den : Nat) : Binary64 :=
  if num = 0 then zero negative
  else
    let e := max (binaryOrder num den - 52) (-1074)
    let (n, d) := scaled num den e
    let m := roundHalfEven n d
    if m = Nat.pow 2 53 then ofSignificand negative (Nat.pow 2 52) (e + 1) else ofSignificand negative m e

/-- The number nearest to `m * 10 ^ scale`. Powers far beyond the range are not computed. -/
def ofDecimal (negative : Bool) (m : Nat) (scale : Int) : Binary64 :=
  if m = 0 then zero negative
  else
    let order : Int := scale + (Decimal.natural m).length
    if 310 < order then .infinite negative
    else if order < -330 then zero negative
    else ofQuotient negative (m * Nat.pow 10 scale.toNat) (Nat.pow 10 (-scale).toNat)

def ofNumeral (n : Numeral) : Binary64 :=
  ofDecimal n.negative (Decimal.value (n.whole ++ n.fraction)) (n.exponent - n.fraction.length)

def isIntegral : Binary64 → Bool
  | .finite _ m e _ => m % Nat.pow 2 (-e).toNat = 0
  | _ => false

def toInt : Binary64 → Int
  | .finite negative m e _ =>
    let n : Int := m * Nat.pow 2 e.toNat / Nat.pow 2 (-e).toNat
    if negative then -n else n
  | _ => 0

end Binary64

end FieldRules
