import FieldRules.Proofs.Numeral
import FieldRules.Proofs.Run.Alone

/-! Bounds on the length of a value. A bound is read from its digits, and a value is measured unless it
is an integer that cannot be written; then a value is too long for one number or long enough for the
next. -/
namespace FieldRules

/-! ### The bound -/

namespace Decimal

/-- The digits of a number, in any script and with any zeros in front, no more of them than can be
read, with blanks around them. -/
def Writes (t : Text) (n : Nat) : Prop :=
  ∃ before digits after ds, t = before ++ (digits ++ after) ∧
    (∀ c ∈ before ++ after, Unicode.isBlank c) ∧ Numeral.Digits digits ds ∧ ds ≠ [] ∧
    ds.length ≤ digitLimit ∧ value ds = n

variable {t : Text} {n : Nat}

private theorem digits?_of_digits {ds : List Nat} (h : Numeral.Digits t ds) (given : ds ≠ []) :
    digits? t = some ds := by
  induction t generalizing ds with
  | nil => exact absurd (Numeral.digits_nil_iff.1 h) given
  | cons c t ih =>
    obtain ⟨d, ds, hd, hrest, rfl⟩ := Numeral.digits_cons_iff.1 h
    cases t with
    | nil =>
      obtain rfl := Numeral.digits_nil_iff.1 hrest
      simp [digits?, hd]
    | cons b t =>
      obtain ⟨e, es, he, -, rfl⟩ := Numeral.digits_cons_iff.1 hrest
      have hb : b ≠ '_' := by
        rintro rfl
        cases (show Unicode.digit? '_' = none by decide).symm.trans he
      conv_lhs => unfold digits?
      split
      · rename_i h
        cases h
      · rename_i h
        cases h
      · rename_i h
        cases h
        exact absurd rfl hb
      · rename_i h
        obtain ⟨rfl, rfl⟩ := List.cons.inj h
        simp only [hd, ih hrest (List.cons_ne_nil _ _)]

/-- A limit may be written with a sign, blanks around it, and digits of any script. -/
private theorem integer?_trim_of_writes (h : Writes t n) : integer? t.trim = some (n : Int) := by
  obtain ⟨before, digits, after, ds, rfl, blanks, hdigits, given, hlen, rfl⟩ := h
  have hsigned : signed digits = (false, digits) := by
    simpa using Numeral.signed_append .absent (Numeral.digits_head (u := []) hdigits given)
  rw [Text.trim, Text.strip_append blanks (Numeral.not_isBlank_of_digits hdigits), integer?, hsigned]
  simp only [digits?_of_digits hdigits given, if_pos hlen]
  rfl

private theorem Writes.ne_nil (h : Writes t n) : t ≠ [] := by
  rintro rfl
  have hread := integer?_trim_of_writes h
  cases hread

end Decimal

namespace Binary64

end Binary64

namespace Value

end Value

/-! ### The two rules -/

namespace Rule

section
variable {registry : Registry} {data : FieldMap Value} {s : Surroundings} {field t : Text}
  {n size : Nat}

end
end Rule

def tagged : FieldMap Value :=
  ⟨[("tags".toList, .list [.int 1, .null, .text "loose".toList])], by decide⟩

end FieldRules
