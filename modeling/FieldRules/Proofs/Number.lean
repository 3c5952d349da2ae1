import FieldRules.Proofs.Decimal
import FieldRules.Proofs.Text
import FieldRules.Value.Coercion
import Mathlib.Data.Rat.Lemmas

/-! A whole number in its three forms: an integral floating-point number denotes what the integer
denotes, and the digits of an integer are read as a numeral and as a whole number. -/
namespace FieldRules

/-- An integral number denotes the integer that it is. -/
theorem Number.extent_float {x : Binary64} (h : x.isIntegral) :
    (Number.float x).extent = (Number.integer x.toInt).extent := by
  cases x with
  | nan => cases h
  | infinite negative => cases h
  | finite negative m e fits =>
    have hd : Nat.pow 2 (-e).toNat ≠ 0 := (Nat.pow_pos (by decide)).ne'
    obtain ⟨k, hk⟩ := Nat.dvd_of_mod_eq_zero (of_decide_eq_true h)
    have hm : (m : Int) * Nat.pow 2 e.toNat =
        Nat.pow 2 (-e).toNat * (k * Nat.pow 2 e.toNat : Nat) := by
      rw [hk, Nat.cast_mul, Nat.cast_mul, Int.mul_assoc]
    have hrat : mkRat ((m : Int) * Nat.pow 2 e.toNat) (Nat.pow 2 (-e).toNat) =
        ((k * Nat.pow 2 e.toNat : Nat) : Int) := by
      have hone := Rat.mkRat_mul_left (n := (k * Nat.pow 2 e.toNat : Nat)) (d := 1) hd
      rw [Nat.mul_one] at hone
      rw [hm, hone, Rat.mkRat_one]
    have hint : (m : Int) * Nat.pow 2 e.toNat / Nat.pow 2 (-e).toNat =
        (k * Nat.pow 2 e.toNat : Nat) := by
      rw [hm, Int.mul_ediv_cancel_left _ (by exact_mod_cast hd)]
    simp only [extent, ofBinary64, Binary64.toInt, hrat, hint]
    cases negative <;> simp

namespace Value
variable {identity : Nat} {x : Binary64} {n : Int}

/-- A whole float is shown as the integer it is. -/
theorem asText_float (h : x.isIntegral) : asText (.float identity x) = asText (.int x.toInt) := by
  simp only [asText, h, if_true]
  rfl

theorem isEmpty_float (h : x.isIntegral) : isEmpty (.float identity x) = isEmpty (.int x.toInt) := by
  have hzero : ((x.toInt : Rat) == ((0 : Int) : Rat)) = decide (x.toInt = 0) := by
    rw [beq_eq_decide]
    simp
  simp only [isEmpty, Number.equal, Number.extent_float h]
  exact hzero

theorem asText_int (h : Decimal.isTooLong n = false) :
    asText (.int n) = .ok (Decimal.integer n) := by
  simp [asText, print, display, integerText, h]

theorem asText_text (t : Text) : asText (.text t) = .ok t := by simp [asText, print]

end Value

namespace Decimal

private theorem signed_integer (n : Int) : signed (integer n) = (decide (n < 0), natural n.natAbs) := by
  by_cases hn : n < 0
  · simp [integer, hn, signed]
  · rw [integer, if_neg hn, decide_eq_false hn]
    have hdigits : ∀ c ∈ natural n.natAbs, c.isDigit := fun c => isDigit_of_mem_natural
    generalize natural n.natAbs = ds at hdigits
    unfold signed
    split
    · exact absurd (hdigits '-' List.mem_cons_self) (by decide)
    · exact absurd (hdigits '+' List.mem_cons_self) (by decide)
    · rfl

/-- The characters of a whole number are digits, with a minus sign in front of a negative one. -/
theorem of_mem_integer {n : Int} {c : Char} (h : c ∈ integer n) : c = '-' ∨ c.isDigit := by
  unfold integer at h
  split at h
  · exact (List.mem_cons.1 h).imp_right isDigit_of_mem_natural
  · exact .inr (isDigit_of_mem_natural h)

/-- Digits within the limit can be written. -/
theorem isTooLong_eq_false {n : Int} (h : (natural n.natAbs).length ≤ digitLimit) :
    isTooLong n = false := by
  have hbound (k m : Nat) (hk : 0 < k) (hm : (natural m).length ≤ k) : ¬ Nat.pow 10 k ≤ m :=
    Nat.not_le.2 ((Nat.length_toDigits_le_iff (by decide) hk).1 hm)
  exact decide_eq_false (hbound _ _ (by decide) h)

/-- A positive number does not begin with a zero. -/
theorem natural_of_pos {n : Nat} (h : 0 < n) :
    ∃ c ds, natural n = c :: ds ∧ '1' ≤ c ∧ c ≤ '9' ∧ ∀ d ∈ ds, d.isDigit := by
  induction n using Nat.strongRecOn with
  | ind n ih =>
    rw [natural, Nat.toDigits_eq_if (by decide)]
    by_cases hn : n < 10
    · have hall : ∀ n : Fin 10, 0 < n.val → '1' ≤ Nat.digitChar n ∧ Nat.digitChar n ≤ '9' := by decide
      obtain ⟨hlow, hhigh⟩ := hall ⟨n, hn⟩ h
      exact ⟨_, [], if_pos hn, hlow, hhigh, by simp⟩
    · have hall : ∀ d : Fin 10, (Nat.digitChar d).isDigit := by decide
      obtain ⟨c, ds, heq, hlow, hhigh, hds⟩ := ih (n / 10) (by omega) (by omega)
      refine ⟨c, ds ++ [Nat.digitChar (n % 10)], ?_, hlow, hhigh, ?_⟩
      · rw [if_neg hn, ← natural, heq, List.cons_append]
      · exact List.forall_mem_append.2
          ⟨hds, List.forall_mem_singleton.2 (hall ⟨n % 10, Nat.mod_lt _ (by decide)⟩)⟩

end Decimal

/-- No digit of any script is blank, so trimming stops at a number. -/
theorem Unicode.not_isBlank_of_isDigit {c : Char} (h : c.isDigit) : ¬ isBlank c := by
  simp only [Char.isDigit, Bool.and_eq_true, decide_eq_true_eq] at h
  have hlow : 48 ≤ c.toNat := h.1
  have hhigh : c.toNat ≤ 57 := h.2
  simp only [isBlank, isSeparatorControl, Bool.or_eq_true, Bool.and_eq_true, decide_eq_true_eq]
  omega

/-- A written integer has no blanks to trim. -/
theorem Decimal.trim_integer (n : Int) : (integer n).trim = integer n := by
  refine Text.trim_eq_self fun c hc => ?_
  rcases of_mem_integer hc with rfl | hd
  · decide
  · exact Unicode.not_isBlank_of_isDigit hd

private theorem Numeral.leadingDigits_eq {t : Text} (h : ∀ c ∈ t, c.isDigit) :
    leadingDigits t = (t.map fun c => c.toNat - 48, []) := by
  induction t with
  | nil => rfl
  | cons c t ih =>
    obtain ⟨hc, ht⟩ := List.forall_mem_cons.1 h
    simp [leadingDigits, Unicode.digit?_of_isDigit hc, ih ht]

/-- A whole number is read as a numeral without fraction and power of ten. -/
theorem Numeral.read?_integer (n : Int) :
    read? (Decimal.integer n) =
      some ⟨decide (n < 0), (Decimal.natural n.natAbs).map fun c => c.toNat - 48, [], 0⟩ := by
  have hne : (Decimal.natural n.natAbs).map (fun c => c.toNat - 48) ≠ [] := by
    simpa using Decimal.natural_ne_nil n.natAbs
  simp [read?, Decimal.signed_integer, leadingDigits_eq fun c => Decimal.isDigit_of_mem_natural,
    fractionPart, exponent?, List.isEmpty_eq_false_iff.2 hne]

namespace Value
variable (n : Int)

theorem isNumber_integer : isNumber (.text (Decimal.integer n)) := by
  rw [isNumber, Decimal.trim_integer, Numeral.read?_integer]
  rfl

theorem isInteger_integer : isInteger (.text (Decimal.integer n)) := by
  rw [isInteger, isIntegerText, Decimal.trim_integer, Decimal.signed_integer]
  rcases Nat.eq_zero_or_pos n.natAbs with hz | hpos
  · rw [hz]
    rfl
  · obtain ⟨c, ds, heq, hlow, hhigh, hds⟩ := Decimal.natural_of_pos hpos
    have hz : c ≠ '0' := by rintro rfl; exact absurd hlow (by decide)
    have hall : ds.all Unicode.isDigit :=
      List.all_eq_true.2 fun d hd => Unicode.isDigit_of_isDigit (hds d hd)
    simp [heq, hz, hlow, hhigh, hall]

end Value

end FieldRules
