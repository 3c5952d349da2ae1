import FieldRules.Number

/-!
The shortest decimal text that reads back as a given floating-point number.
-/

namespace FieldRules.Decimal

/-- `num / den` and the numbers half a step away from it, over one denominator: what lies between
them is read back as `num / den`, the ends too if `closed`. -/
structure Neighbourhood where
  low : Nat
  centre : Nat
  high : Nat
  den : Nat
  closed : Bool

/-- Below a power of two the step is half as wide. -/
def neighbourhood (m : Nat) (e : Int) : Neighbourhood :=
  let below := if m = Nat.pow 2 52 ∧ -1074 < e then 1 else 2
  let unit := Nat.pow 2 e.toNat
  { low := (4 * m - below) * unit
    centre := 4 * m * unit
    high := (4 * m + 2) * unit
    den := 4 * Nat.pow 2 (-e).toNat
    closed := m % 2 = 0 }

namespace Neighbourhood

def holds (h : Neighbourhood) (d : Nat) (k : Int) : Bool :=
  let x := d * Nat.pow 10 k.toNat * h.den
  let scale := Nat.pow 10 (-k).toNat
  let low := h.low * scale
  let high := h.high * scale
  if h.closed then low ≤ x && x ≤ high else low < x && x < high

/-- The `k` with `10 ^ k ≤ centre < 10 ^ (k + 1)`, searched upwards from an estimate that is not
too high. -/
def decimalOrder (h : Neighbourhood) : Int :=
  let bits : Int := h.centre.log2 - h.den.log2
  let estimate := (bits - 1) * 30103 / 100000 - 1
  let reaches (k : Int) : Bool := h.den * Nat.pow 10 k.toNat ≤ h.centre * Nat.pow 10 (-k).toNat
  if reaches (estimate + 3) then estimate + 3
  else if reaches (estimate + 2) then estimate + 2
  else if reaches (estimate + 1) then estimate + 1
  else estimate

/-- The multiple of `10 ^ k` in the neighbourhood that is nearest to the centre, if there is one. -/
def nearest? (h : Neighbourhood) (k : Int) : Option Nat :=
  let num := h.centre * Nat.pow 10 (-k).toNat
  let den := h.den * Nat.pow 10 k.toNat
  let d := num / den
  let r := num % den
  match h.holds d k, h.holds (d + 1) k with
  | true, true => some (if 2 * r < den ∨ (2 * r = den ∧ d % 2 = 0) then d else d + 1)
  | true, false => some d
  | false, true => some (d + 1)
  | false, false => none

def firstHit (h : Neighbourhood) : Nat → Int → Nat × Int
  | 0, k => ((h.nearest? k).getD 0, k)
  | n + 1, k =>
    match h.nearest? k with
    | some d => (d, k)
    | none => h.firstHit n (k - 1)

end Neighbourhood

/-- Digits and a power of ten, the fewest digits that read back as `m * 2 ^ e`. -/
def shortest (m : Nat) (e : Int) : Nat × Int :=
  let h := neighbourhood m e
  h.firstHit 18 h.decimalOrder

/-- Positional notation for numbers from `10 ^ -4` up to `10 ^ 16`, scientific for others. -/
def layout (d : Nat) (k : Int) : Text :=
  let ds := natural d
  let order := k + ds.length - 1
  if -4 ≤ order ∧ order < 16 then
    if 0 ≤ k then ds ++ List.replicate k.toNat '0' ++ ".0".toList
    else if 0 ≤ order then
      ds.take (order + 1).toNat ++ '.' :: ds.drop (order + 1).toNat
    else "0.".toList ++ List.replicate (-order - 1).toNat '0' ++ ds
  else
    let mantissa := match ds with
      | [c] => [c]
      | c :: cs => c :: '.' :: cs
      | [] => []
    mantissa ++ 'e' :: (if order < 0 then '-' else '+') :: padded 2 order.natAbs

def reduced : Nat → Nat → Int → Nat × Int
  | 0, d, k => (d, k)
  | n + 1, d, k => if d ≠ 0 ∧ d % 10 = 0 then reduced n (d / 10) (k + 1) else (d, k)

def float : Binary64 → Text
  | .nan => "nan".toList
  | .infinite negative => if negative then "-inf".toList else "inf".toList
  | .finite negative m e _ =>
    let body :=
      if m = 0 then "0.0".toList
      else
        let (d, k) := shortest m e
        let (d, k) := reduced 20 d k
        layout d k
    if negative then '-' :: body else body

/-- Reads a numeral without blanks around it, or the name of infinity or of no number. -/
def float? (t : Text) : Option Binary64 :=
  let (negative, body) := signed t
  let name := body.map Char.toLower
  if name = "inf".toList ∨ name = "infinity".toList then some (.infinite negative)
  else if name = "nan".toList then some .nan
  else (Numeral.read? t).map Binary64.ofNumeral

end FieldRules.Decimal
