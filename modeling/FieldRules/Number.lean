import FieldRules.Binary64

/-!
Whole and floating-point numbers compared as the exact numbers they denote.
-/

namespace FieldRules

inductive Number where
  | integer (n : Int)
  | float (x : Binary64)
  deriving DecidableEq

/-- What a number denotes: nothing, a rational number or one of the two infinities. -/
inductive Extent where
  | undefined
  | below
  | exact (q : Rat)
  | above

namespace Extent

def less : Extent → Extent → Bool
  | .undefined, _ | _, .undefined => false
  | _, .below | .above, _ => false
  | .below, _ | _, .above => true
  | .exact p, .exact q => p < q

def same : Extent → Extent → Bool
  | .below, .below | .above, .above => true
  | .exact p, .exact q => p == q
  | _, _ => false

end Extent

namespace Number

def ofBinary64 : Binary64 → Extent
  | .nan => .undefined
  | .infinite negative => if negative then .below else .above
  | .finite negative m e _ =>
    let q := mkRat (m * Nat.pow 2 e.toNat) (Nat.pow 2 (-e).toNat)
    .exact (if negative then -q else q)

def extent : Number → Extent
  | .integer n => .exact n
  | .float x => ofBinary64 x

def less (a b : Number) : Bool := a.extent.less b.extent

def equal (a b : Number) : Bool := a.extent.same b.extent

end Number

end FieldRules
