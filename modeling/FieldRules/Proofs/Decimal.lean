import FieldRules.Date.Found
import Mathlib.Algebra.GroupWithZero.Nat

/-! Numbers written in decimal digits are read back, whatever zeros stand in front. -/
namespace FieldRules

theorem Unicode.digit?_of_isDigit {c : Char} (h : c.isDigit) : digit? c = some (c.toNat - 48) := by
  have hc : c.toNat < 128 := by
    simp only [Char.isDigit, Bool.and_eq_true, decide_eq_true_eq] at h
    have : c.toNat ≤ 57 := h.2
    omega
  simp [digit?, hc, h]

theorem Unicode.isDigit_of_isDigit {c : Char} (h : c.isDigit) : isDigit c := by
  rw [isDigit, digit?_of_isDigit h]
  rfl

namespace Decimal

theorem isDigit_of_mem_natural {n : Nat} {c : Char} (h : c ∈ natural n) : c.isDigit :=
  Nat.isDigit_of_mem_toDigits (by decide) (by decide) h

theorem isDigit_of_mem_padded {width n : Nat} {c : Char} (h : c ∈ padded width n) : c.isDigit := by
  rcases List.mem_append.1 h with h | h
  · rw [List.eq_of_mem_replicate h]
    rfl
  · exact isDigit_of_mem_natural h

theorem natural_ne_nil (n : Nat) : natural n ≠ [] := Nat.toDigits_ne_nil

/-- Padding fills up to the width and never cuts. -/
theorem length_padded {width n : Nat} (hw : 0 < width) (hn : n < 10 ^ width) :
    (padded width n).length = width := by
  have hle : (natural n).length ≤ width := (Nat.length_toDigits_le_iff (by decide) hw).2 hn
  rw [padded, List.length_append, List.length_replicate]
  omega

theorem padded_two {n : Nat} (h : n < 100) :
    padded 2 n = [Nat.digitChar (n / 10), Nat.digitChar (n % 10)] := by
  have hall : ∀ n : Fin 100, padded 2 n = [Nat.digitChar (n / 10), Nat.digitChar (n % 10)] := by decide
  exact hall ⟨n, h⟩

end Decimal

namespace Found

private theorem digitsOf_eq {t : Text} (h : ∀ c ∈ t, c.isDigit) :
    digitsOf t = t.map fun c => c.toNat - 48 := by
  induction t with
  | nil => rfl
  | cons c rest ih =>
    have hc := Unicode.digit?_of_isDigit (h c List.mem_cons_self)
    rw [digitsOf, List.filterMap_cons_some hc, List.map_cons, ← ih fun d hd => h d (List.mem_cons_of_mem _ hd)]
    rfl

/-- Over ASCII digits the value is the library's own. -/
theorem numberOf_eq {t : Text} (h : ∀ c ∈ t, c.isDigit) : numberOf t = Nat.ofDigitChars 10 t 0 := by
  rw [numberOf, digitsOf_eq h, Decimal.value, List.foldl_map, Nat.ofDigitChars_eq_foldl]
  rfl

theorem numberOf_natural (n : Nat) : numberOf (Decimal.natural n) = n := by
  rw [numberOf_eq fun c => Decimal.isDigit_of_mem_natural, Decimal.natural, Nat.ofDigitChars_ten_toDigits]

/-- Leading zeros change nothing that is read. -/
theorem numberOf_padded (width n : Nat) : numberOf (Decimal.padded width n) = n := by
  rw [numberOf_eq fun c => Decimal.isDigit_of_mem_padded, Decimal.padded, Nat.ofDigitChars_append,
    Nat.ofDigitChars_replicate_zero, Nat.mul_zero, Decimal.natural, Nat.ofDigitChars_ten_toDigits]

end Found

theorem Decimal.value_natural (n : Nat) : value ((natural n).map fun c => c.toNat - 48) = n := by
  have h := Found.numberOf_natural n
  rwa [Found.numberOf, Found.digitsOf_eq fun c => isDigit_of_mem_natural] at h

end FieldRules
