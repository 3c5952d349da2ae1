import FieldRules.Number
import Mathlib.Algebra.Order.Floor.Semifield
import Mathlib.Data.Int.Log
import Mathlib.Data.Rat.Floor
import Mathlib.Tactic.FieldSimp
import Mathlib.Tactic.Linarith
import Mathlib.Tactic.NormNum.Pow
import Mathlib.Tactic.Positivity
import Mathlib.Tactic.Ring

/-! Reading a numeral is rounding the rational number that it denotes: to a multiple of the last place
of 53 bits, of two equally near to the even one. -/
namespace FieldRules

namespace Binary64

/-! ### Rounding rational numbers -/

/-- The whole number nearest to a number that is not negative, and of two the even one. -/
def halfEven (x : ℚ) : ℕ :=
  if x - ⌊x⌋₊ < 1 / 2 ∨ (x - ⌊x⌋₊ = 1 / 2 ∧ ⌊x⌋₊ % 2 = 0) then ⌊x⌋₊ else ⌊x⌋₊ + 1

/-- The exponent of the last place of a positive number: that of 53 bits, or the least. -/
def place (q : ℚ) : ℤ := max (Int.log 2 q - 52) (-1074)

def nearest (q : ℚ) : ℚ := halfEven (q / 2 ^ place q) * 2 ^ place q

def signed (negative : Bool) (size : ℚ) : Extent :=
  if 2 ^ 1024 ≤ size then if negative then .below else .above
  else .exact (if negative then -size else size)

private theorem signed_beyond (negative : Bool) {size : ℚ} (h : 2 ^ 1024 ≤ size) :
    signed negative size = if negative then .below else .above := if_pos h

private theorem signed_within (negative : Bool) {size : ℚ} (h : size < 2 ^ 1024) :
    signed negative size = .exact (if negative then -size else size) := if_neg (not_le.2 h)

def rounded (q : ℚ) : Extent := signed (q < 0) (nearest |q|)

/-! ### Each step of reading -/

/-- The division on naturals is rounding of the quotient, ties to even. -/
private theorem roundHalfEven_eq (num : ℕ) {den : ℕ} (h : 0 < den) :
    roundHalfEven num den = halfEven (num / den : ℚ) := by
  have hd : (0 : ℚ) < den := by exact_mod_cast h
  have hfloor : ⌊(num / den : ℚ)⌋₊ = num / den := Nat.floor_div_eq_div num den
  have hrest : (num / den : ℚ) - (num / den : ℕ) = (num % den : ℕ) / den := by
    have hsplit : ((den * (num / den) + num % den : ℕ) : ℚ) = num := by rw [Nat.div_add_mod]
    push_cast at hsplit
    field_simp
    linarith
  have hless : ((num % den : ℕ) / den : ℚ) < 1 / 2 ↔ 2 * (num % den) < den := by
    rw [div_lt_div_iff₀ hd two_pos, one_mul, mul_comm]
    exact_mod_cast Iff.rfl
  have hhalf : ((num % den : ℕ) / den : ℚ) = 1 / 2 ↔ 2 * (num % den) = den := by
    rw [div_eq_div_iff hd.ne' two_ne_zero, one_mul, mul_comm]
    exact_mod_cast Iff.rfl
  simp only [roundHalfEven, halfEven, hfloor, hrest, hless, hhalf]

private theorem scaled_div (num den : ℕ) (e : ℤ) :
    ((scaled num den e).1 / (scaled num den e).2 : ℚ) = num / den / 2 ^ e := by
  simp only [scaled, Nat.pow_eq, Nat.cast_mul, Nat.cast_pow, Nat.cast_ofNat]
  rcases le_total 0 e with he | he
  · obtain ⟨k, rfl⟩ := Int.eq_ofNat_of_zero_le he
    simp [div_div]
  · obtain ⟨k, hk⟩ := Int.eq_ofNat_of_zero_le (neg_nonneg.2 he)
    obtain rfl : e = -(k : ℤ) := by omega
    simp [mul_div_right_comm]

private theorem scaled_pos {num den : ℕ} (h : 0 < den) (e : ℤ) : 0 < (scaled num den e).2 :=
  Nat.mul_pos h (Nat.pow_pos two_pos)

theorem two_zpow_pos (e : ℤ) : (0 : ℚ) < 2 ^ e := zpow_pos two_pos e

private theorem log_eq_iff {q : ℚ} (h : 0 < q) {b : ℤ} :
    Int.log 2 q = b ↔ 2 ^ b ≤ q ∧ q < 2 ^ (b + 1) := by
  have hlow := Int.zpow_le_iff_le_log (b := 2) one_lt_two (x := b) h
  have hhigh := Int.lt_zpow_iff_log_lt (b := 2) one_lt_two (x := b + 1) h
  push_cast at hlow hhigh
  rw [hlow, hhigh]
  omega

/-- The order is the exponent of the power of two just below. -/
theorem binaryOrder_eq {num den : ℕ} (hn : num ≠ 0) (hd : den ≠ 0) :
    binaryOrder num den = Int.log 2 (num / den : ℚ) := by
  have hq : (0 : ℚ) < num / den := by positivity
  have hdpos : (0 : ℚ) < den := by positivity
  -- the two logarithms leave a range of two powers for the quotient
  have hlow : (2 : ℚ) ^ (num.log2 - den.log2 - 1 : ℤ) < num / den := by
    have h1 : ((2 : ℕ) ^ num.log2 : ℚ) ≤ num := by exact_mod_cast Nat.log2_self_le hn
    have h2 : (den : ℚ) < 2 ^ (den.log2 + 1) := by exact_mod_cast Nat.lt_log2_self
    rw [lt_div_iff₀ hdpos]
    calc (2 : ℚ) ^ (num.log2 - den.log2 - 1 : ℤ) * den
        < 2 ^ (num.log2 - den.log2 - 1 : ℤ) * 2 ^ (den.log2 + 1) :=
          mul_lt_mul_of_pos_left h2 (two_zpow_pos _)
      _ = 2 ^ num.log2 := by
          rw [← zpow_natCast, ← zpow_natCast, ← zpow_add₀ two_ne_zero]
          congr 1
          push_cast
          ring
      _ ≤ num := by exact_mod_cast h1
  have hhigh : (num / den : ℚ) < 2 ^ (num.log2 - den.log2 + 1 : ℤ) := by
    have h1 : (num : ℚ) < 2 ^ (num.log2 + 1) := by exact_mod_cast Nat.lt_log2_self
    have h2 : (2 ^ den.log2 : ℚ) ≤ den := by exact_mod_cast Nat.log2_self_le hd
    rw [div_lt_iff₀ hdpos]
    calc (num : ℚ) < 2 ^ (num.log2 + 1) := h1
      _ = 2 ^ (num.log2 - den.log2 + 1 : ℤ) * 2 ^ den.log2 := by
          rw [← zpow_natCast, ← zpow_natCast, ← zpow_add₀ two_ne_zero]
          congr 1
          push_cast
          ring
      _ ≤ 2 ^ (num.log2 - den.log2 + 1 : ℤ) * den := mul_le_mul_of_nonneg_left h2 (two_zpow_pos _).le
  have hscaled := scaled_div num den (num.log2 - den.log2)
  have hpos : (0 : ℚ) < (scaled num den (num.log2 - den.log2)).2 := by
    exact_mod_cast scaled_pos (Nat.pos_of_ne_zero hd) _
  have hless : (scaled num den (num.log2 - den.log2)).1 < (scaled num den (num.log2 - den.log2)).2 ↔
      (num / den : ℚ) < 2 ^ (num.log2 - den.log2 : ℤ) := by
    rw [← Nat.cast_lt (α := ℚ), ← div_lt_one hpos, hscaled, div_lt_one (two_zpow_pos _)]
  symm
  rw [log_eq_iff hq]
  unfold binaryOrder
  simp only [hless]
  split
  · rename_i h
    exact ⟨hlow.le, by simpa using h⟩
  · rename_i h
    exact ⟨not_lt.1 h, hhigh⟩

/-- A finite float is the rational its significand and exponent give. -/
theorem ofBinary64_finite {negative : Bool} {m : ℕ} {e : ℤ} (fits : Fits m e) :
    Number.ofBinary64 (.finite negative m e fits) =
      .exact (if negative then -(m * 2 ^ e : ℚ) else m * 2 ^ e) := by
  have hsize : (mkRat (m * Nat.pow 2 e.toNat) (Nat.pow 2 (-e).toNat) : ℚ) = m * 2 ^ e := by
    rw [Rat.mkRat_eq_div]
    simp only [Nat.pow_eq, Nat.cast_pow, Nat.cast_ofNat, Int.cast_mul, Int.cast_natCast,
      Int.cast_pow, Int.cast_ofNat]
    rcases le_total 0 e with he | he
    · obtain ⟨k, rfl⟩ := Int.eq_ofNat_of_zero_le he
      simp
    · obtain ⟨k, hk⟩ := Int.eq_ofNat_of_zero_le (neg_nonneg.2 he)
      obtain rfl : e = -(k : ℤ) := by omega
      simp [div_eq_mul_inv]
  simp only [Number.ofBinary64, hsize]

private theorem two_pow_range {n : ℕ} {e : ℤ} (h : n + e = 1024) : (2 ^ 1024 : ℚ) = 2 ^ n * 2 ^ e := by
  rw [← zpow_natCast, ← zpow_natCast, ← zpow_add₀ two_ne_zero, h]
  rfl

private theorem lt_range_of_bits {m : ℕ} {e : ℤ} (hbits : m < 2 ^ 53) (he : e ≤ 971) :
    (m * 2 ^ e : ℚ) < 2 ^ 1024 := by
  have hm : (m : ℚ) < 2 ^ 53 := by exact_mod_cast hbits
  calc (m * 2 ^ e : ℚ) < 2 ^ 53 * 2 ^ e := mul_lt_mul_of_pos_right hm (two_zpow_pos e)
    _ ≤ 2 ^ 53 * 2 ^ (971 : ℤ) :=
      mul_le_mul_of_nonneg_left (zpow_le_zpow_right₀ one_le_two he) (by positivity)
    _ = 2 ^ 1024 := (two_pow_range (by norm_num)).symm

private theorem range_le_of_bits {m : ℕ} {e : ℤ} (hbits : 2 ^ 52 ≤ m) (he : 971 < e) :
    (2 ^ 1024 : ℚ) ≤ m * 2 ^ e := by
  have hm : (2 ^ 52 : ℚ) ≤ m := by exact_mod_cast hbits
  calc (2 ^ 1024 : ℚ) = 2 ^ 52 * 2 ^ (972 : ℤ) := two_pow_range (by norm_num)
    _ ≤ m * 2 ^ e :=
      mul_le_mul hm (zpow_le_zpow_right₀ one_le_two he) (two_zpow_pos _).le (Nat.cast_nonneg m)

/-- Sizes with all bits of a significand are finite up to an exponent. -/
theorem ofSignificand_extent {negative : Bool} {m : ℕ} {e : ℤ} (hm : m < 2 ^ 53) (he : -1074 ≤ e)
    (hbits : 2 ^ 52 ≤ m ∨ e = -1074) :
    Number.ofBinary64 (ofSignificand negative m e) = signed negative (m * 2 ^ e) := by
  unfold ofSignificand signed
  split
  · rename_i fits
    have hsize := lt_range_of_bits hm fits.2.2.1
    rw [if_neg (not_le.2 hsize), ofBinary64_finite]
  · rename_i hfits
    have hexponent : 971 < e := by
      by_contra hle
      exact hfits ⟨hm, he, not_lt.1 hle, hbits⟩
    have hsize := range_le_of_bits (hbits.resolve_right (by omega)) hexponent
    rw [if_pos hsize]
    rfl

private theorem halfEven_le {x : ℚ} {n : ℕ} (h : x ≤ n) : halfEven x ≤ n := by
  have hfloor : ⌊x⌋₊ ≤ n := by
    have := Nat.floor_le_floor h
    rwa [Nat.floor_natCast] at this
  unfold halfEven
  split
  · exact hfloor
  · rename_i hfar
    refine Nat.succ_le_of_lt (lt_of_le_of_ne hfloor fun heq => hfar (.inl ?_))
    rw [heq]
    linarith

private theorem le_halfEven {x : ℚ} {n : ℕ} (h : (n : ℚ) ≤ x) : n ≤ halfEven x := by
  have hfloor : n ≤ ⌊x⌋₊ := Nat.le_floor h
  unfold halfEven
  split <;> omega

private theorem halfEven_natCast (n : ℕ) : halfEven n = n :=
  le_antisymm (halfEven_le le_rfl) (le_halfEven le_rfl)

/-- A positive number has at most 53 bits in front of its last place, and as many unless the place is
the least one. -/
theorem place_bounds {q : ℚ} (h : 0 < q) :
    q / 2 ^ place q < 2 ^ 53 ∧ (2 ^ 52 ≤ q / 2 ^ place q ∨ place q = -1074) := by
  obtain ⟨hlow, hhigh⟩ := (log_eq_iff h).1 rfl
  constructor
  · rw [div_lt_iff₀ (two_zpow_pos _), ← zpow_natCast, ← zpow_add₀ two_ne_zero]
    refine hhigh.trans_le (zpow_le_zpow_right₀ one_le_two ?_)
    unfold place
    push_cast
    omega
  · by_cases hplace : Int.log 2 q - 52 < -1074
    · exact .inr (max_eq_right hplace.le)
    · left
      rw [le_div_iff₀ (two_zpow_pos _), ← zpow_natCast, ← zpow_add₀ two_ne_zero, place,
        max_eq_left (not_lt.1 hplace)]
      simpa using hlow

/-- The rounded significand fills its bits, unless the number is subnormal. -/
private theorem halfEven_place_bounds {q : ℚ} (h : 0 < q) :
    halfEven (q / 2 ^ place q) ≤ 2 ^ 53 ∧
      (2 ^ 52 ≤ halfEven (q / 2 ^ place q) ∨ place q = -1074) := by
  obtain ⟨hhigh, hlow⟩ := place_bounds h
  refine ⟨halfEven_le (by exact_mod_cast hhigh.le), hlow.imp_left fun hle => ?_⟩
  exact le_halfEven (by exact_mod_cast hle)

/-- Reading a quotient rounds it. -/
theorem ofQuotient_extent (negative : Bool) {num den : ℕ} (hn : num ≠ 0) (hd : den ≠ 0) :
    Number.ofBinary64 (ofQuotient negative num den) = signed negative (nearest (num / den)) := by
  have hq : (0 : ℚ) < num / den := by positivity
  have hplace : max (binaryOrder num den - 52) (-1074) = place (num / den) := by
    rw [binaryOrder_eq hn hd, place]
  have hround : roundHalfEven (scaled num den (place (num / den))).1
      (scaled num den (place (num / den))).2 = halfEven (num / den / 2 ^ place (num / den) : ℚ) := by
    rw [roundHalfEven_eq _ (scaled_pos (Nat.pos_of_ne_zero hd) _), scaled_div]
  obtain ⟨hmost, hleast⟩ := halfEven_place_bounds hq
  have hmin : -1074 ≤ place (num / den) := le_max_right _ _
  unfold ofQuotient
  rw [if_neg hn]
  simp only [hplace, hround, nearest]
  split
  · rename_i hcarry
    have hsize : ((2 ^ 52 : ℕ) * 2 ^ (place (num / den) + 1) : ℚ) =
        halfEven (num / den / 2 ^ place (num / den) : ℚ) * 2 ^ place (num / den) := by
      rw [hcarry, zpow_add₀ two_ne_zero]
      push_cast
      ring
    rw [← hsize]
    exact ofSignificand_extent (by norm_num) (by omega) (.inl le_rfl)
  · rename_i hcarry
    exact ofSignificand_extent (lt_of_le_of_ne hmost hcarry) hmin hleast

/-! ### Order -/

private theorem halfEven_mono {x y : ℚ} (h : x ≤ y) : halfEven x ≤ halfEven y := by
  rcases (Nat.floor_le_floor h).lt_or_eq with hfloor | hfloor
  · have hx : halfEven x ≤ ⌊x⌋₊ + 1 := by unfold halfEven; split <;> omega
    have hy : ⌊y⌋₊ ≤ halfEven y := by unfold halfEven; split <;> omega
    omega
  · unfold halfEven
    rw [hfloor]
    split
    · split <;> omega
    · rename_i hx
      rw [if_neg]
      rintro (hy | ⟨hy, heven⟩)
      · exact hx (.inl (by linarith))
      · rcases h.lt_or_eq with hlt | rfl
        · exact hx (.inl (by linarith))
        · exact hx (.inr ⟨hy, heven⟩)

private theorem nearest_zero : nearest 0 = 0 := by
  have hzero : halfEven 0 = 0 := by exact_mod_cast halfEven_natCast 0
  simp [nearest, hzero]

private theorem nearest_nonneg (q : ℚ) : 0 ≤ nearest q :=
  mul_nonneg (Nat.cast_nonneg _) (two_zpow_pos _).le

private theorem place_mono {p q : ℚ} (hp : 0 < p) (h : p ≤ q) : place p ≤ place q :=
  max_le_max_right _ (sub_le_sub_right (Int.log_mono_right hp h) _)

/-- Rounding keeps the order, also where the place of the last bit changes. -/
private theorem nearest_mono {p q : ℚ} (hp : 0 ≤ p) (h : p ≤ q) : nearest p ≤ nearest q := by
  rcases hp.eq_or_lt with rfl | hp
  · rw [nearest_zero]
    exact nearest_nonneg q
  have hq := hp.trans_le h
  unfold nearest
  rcases (place_mono hp h).lt_or_eq with hplace | hplace
  · -- a lower place has no more than the least significand of a higher one
    have hmost : (halfEven (p / 2 ^ place p) : ℚ) ≤ 2 ^ 53 := by
      exact_mod_cast (halfEven_place_bounds hp).1
    have hleast : (2 ^ 52 : ℚ) ≤ halfEven (q / 2 ^ place q) := by
      have hmin : -1074 ≤ place p := le_max_right _ _
      exact_mod_cast (halfEven_place_bounds hq).2.resolve_right (by omega)
    calc (halfEven (p / 2 ^ place p) * 2 ^ place p : ℚ)
        ≤ 2 ^ 53 * 2 ^ place p := mul_le_mul_of_nonneg_right hmost (two_zpow_pos _).le
      _ = 2 ^ 52 * 2 ^ (place p + 1) := by rw [zpow_add₀ two_ne_zero]; ring
      _ ≤ 2 ^ 52 * 2 ^ place q :=
        mul_le_mul_of_nonneg_left (zpow_le_zpow_right₀ one_le_two hplace) (by positivity)
      _ ≤ halfEven (q / 2 ^ place q) * 2 ^ place q :=
        mul_le_mul_of_nonneg_right hleast (two_zpow_pos _).le
  · rw [hplace]
    refine mul_le_mul_of_nonneg_right ?_ (two_zpow_pos _).le
    exact_mod_cast halfEven_mono (div_le_div_of_nonneg_right h (two_zpow_pos _).le)

/-! ### Numbers that stay as they are -/

/-- The number is a significand of 53 bits times a power of two in the range of exponents. -/
def Representable (q : ℚ) : Prop :=
  ∃ (m : ℕ) (e : ℤ), m < 2 ^ 53 ∧ -1074 ≤ e ∧ e ≤ 971 ∧ |q| = m * 2 ^ e

private theorem nearest_of_multiple {q : ℚ} {m : ℕ} {e : ℤ} (hplace : place q ≤ e) (h : q = m * 2 ^ e) :
    nearest q = q := by
  obtain ⟨k, hk⟩ := Int.eq_ofNat_of_zero_le (sub_nonneg.2 hplace)
  have hquotient : q / 2 ^ place q = (m * 2 ^ k : ℕ) := by
    rw [div_eq_iff (two_zpow_pos _).ne']
    push_cast
    rw [mul_assoc, ← zpow_natCast, ← zpow_add₀ two_ne_zero, ← hk, sub_add_cancel, ← h]
  rw [nearest, hquotient, halfEven_natCast, ← hquotient, div_mul_cancel₀ _ (two_zpow_pos _).ne']

private theorem place_le {m : ℕ} {e : ℤ} (hm : 0 < m) (hbits : m < 2 ^ 53) (he : -1074 ≤ e) :
    place (m * 2 ^ e) ≤ e := by
  have hpos : (0 : ℚ) < m * 2 ^ e := mul_pos (by exact_mod_cast hm) (two_zpow_pos e)
  have hlog : Int.log 2 (m * 2 ^ e : ℚ) < 53 + e := by
    rw [← Int.lt_zpow_iff_log_lt one_lt_two hpos]
    push_cast
    rw [zpow_add₀ two_ne_zero]
    exact mul_lt_mul_of_pos_right (by exact_mod_cast hbits) (two_zpow_pos e)
  exact max_le (by omega) he

private theorem nearest_of_bits {m : ℕ} {e : ℤ} (hbits : m < 2 ^ 53) (he : -1074 ≤ e) :
    nearest (m * 2 ^ e) = m * 2 ^ e := by
  rcases Nat.eq_zero_or_pos m with rfl | hm
  · simpa using nearest_zero
  · exact nearest_of_multiple (place_le hm hbits he) rfl

private theorem signed_abs {q : ℚ} (h : |q| < 2 ^ 1024) : signed (q < 0) |q| = .exact q := by
  rw [signed_within _ h]
  by_cases hq : q < 0
  · simp [hq, abs_of_neg hq]
  · simp [hq, abs_of_nonneg (not_lt.1 hq)]

/-- Rounding moves no number that a float can hold. -/
theorem rounded_of_representable {q : ℚ} (h : Representable q) : rounded q = .exact q := by
  obtain ⟨m, e, hbits, hmin, hmax, hq⟩ := h
  have hnearest : nearest |q| = |q| := by rw [hq]; exact nearest_of_bits hbits hmin
  rw [rounded, hnearest]
  exact signed_abs (hq ▸ lt_range_of_bits hbits hmax)

/-- A size that stays in the range is a significand of 53 bits at its last place. -/
theorem representable_nearest {q : ℚ} (h : 0 ≤ q) (hrange : nearest q < 2 ^ 1024) :
    Representable (nearest q) := by
  rcases h.eq_or_lt with rfl | hq
  · exact ⟨0, -1074, by norm_num, le_rfl, by norm_num, by simp [nearest_zero]⟩
  obtain ⟨hmost, hleast⟩ := halfEven_place_bounds hq
  have hmin : -1074 ≤ place q := le_max_right _ _
  have habs : |nearest q| = halfEven (q / 2 ^ place q) * 2 ^ place q := abs_of_nonneg (nearest_nonneg q)
  have hexponent : ∀ {m : ℕ} {e : ℤ}, 2 ^ 52 ≤ m → nearest q = m * 2 ^ e → e ≤ 971 := by
    intro m e hm hsize
    by_contra he
    exact not_le.2 hrange (hsize ▸ range_le_of_bits hm (not_le.1 he))
  rcases hmost.lt_or_eq with hbits | hcarry
  · refine ⟨_, place q, hbits, hmin, ?_, habs⟩
    rcases hleast with hleast | hplace
    · exact hexponent hleast rfl
    · omega
  · have hsize : nearest q = (2 ^ 52 : ℕ) * 2 ^ (place q + 1) := by
      rw [nearest, hcarry, zpow_add₀ two_ne_zero]
      push_cast
      ring
    exact ⟨2 ^ 52, place q + 1, by norm_num, by omega, hexponent le_rfl hsize,
      by rw [abs_of_nonneg (nearest_nonneg q), hsize]⟩

theorem representable_neg {q : ℚ} : Representable (-q) ↔ Representable q := by
  simp only [Representable, abs_neg]

/-- The numbers that stay as they are. -/
theorem rounded_eq_self_iff {q : ℚ} : rounded q = .exact q ↔ Representable q := by
  refine ⟨fun h => ?_, rounded_of_representable⟩
  unfold rounded signed at h
  split at h
  · split at h <;> cases h
  · rename_i hrange
    have hsize := representable_nearest (abs_nonneg q) (not_le.1 hrange)
    have hq : (if decide (q < 0) = true then -nearest |q| else nearest |q|) = q := by simpa using h
    rw [← hq]
    split
    · exact representable_neg.2 hsize
    · exact hsize

/-- Integers up to `2 ^ 53` are floats as they stand. -/
theorem representable_of_natAbs_le {n : ℤ} (h : n.natAbs ≤ 2 ^ 53) : Representable n := by
  have habs : |(n : ℚ)| = n.natAbs := by rw [Nat.cast_natAbs, Int.cast_abs]
  rcases h.lt_or_eq with hlt | heq
  · exact ⟨n.natAbs, 0, hlt, by norm_num, by norm_num, by rw [habs, zpow_zero, mul_one]⟩
  · refine ⟨2 ^ 52, 1, by norm_num, by norm_num, by norm_num, ?_⟩
    rw [habs, heq]
    norm_num

private theorem signed_less_of_le {a b : ℚ} (h : a ≤ b) :
    (signed false b).less (signed false a) = false ∧ (signed true a).less (signed true b) = false := by
  rcases le_or_gt (2 ^ 1024) b with hb | hb
  · rcases le_or_gt (2 ^ 1024) a with ha | ha
    · simp only [signed_beyond _ ha, signed_beyond _ hb]
      exact ⟨rfl, rfl⟩
    · simp only [signed_within _ ha, signed_beyond _ hb]
      exact ⟨rfl, rfl⟩
  · simp only [signed_within _ (h.trans_lt hb), signed_within _ hb]
    exact ⟨decide_eq_false (not_lt.2 h), decide_eq_false (not_lt.2 (neg_le_neg h))⟩

private theorem signed_less_of_sign {a b : ℚ} (ha : 0 ≤ a) (hb : 0 ≤ b) :
    (signed false b).less (signed true a) = false := by
  have hle : -a ≤ b := by linarith
  rcases le_or_gt (2 ^ 1024) b with hb' | hb' <;> rcases le_or_gt (2 ^ 1024) a with ha' | ha'
  · simp only [signed_beyond _ ha', signed_beyond _ hb']
    rfl
  · simp only [signed_within _ ha', signed_beyond _ hb']
    rfl
  · simp only [signed_beyond _ ha', signed_within _ hb']
    rfl
  · simp only [signed_within _ ha', signed_within _ hb']
    exact decide_eq_false (not_lt.2 hle)

/-- Rounding keeps the order. -/
theorem rounded_mono {p q : ℚ} (h : p ≤ q) : (rounded q).less (rounded p) = false := by
  unfold rounded
  by_cases hp : p < 0
  · by_cases hq : q < 0
    · rw [decide_eq_true hp, decide_eq_true hq, abs_of_neg hp, abs_of_neg hq]
      exact (signed_less_of_le (nearest_mono (by linarith) (neg_le_neg h))).2
    · rw [decide_eq_true hp, decide_eq_false hq]
      exact signed_less_of_sign (nearest_nonneg _) (nearest_nonneg _)
  · have hq : ¬ q < 0 := by linarith
    rw [decide_eq_false hp, decide_eq_false hq, abs_of_nonneg (not_lt.1 hp),
      abs_of_nonneg (not_lt.1 hq)]
    exact (signed_less_of_le (nearest_mono (not_lt.1 hp) h)).1

/-! ### Decimal numerals -/

private theorem nearest_two_zpow {e : ℤ} (he : -1074 ≤ e) : nearest (2 ^ e) = 2 ^ e := by
  have h := nearest_of_bits (m := 1) (by norm_num) he
  simpa using h

/-- Below half of the least subnormal everything rounds to zero. -/
private theorem nearest_of_small {q : ℚ} (h : 0 ≤ q) (hsmall : q < 2 ^ (-1075 : ℤ)) : nearest q = 0 := by
  rcases h.eq_or_lt with rfl | hq
  · exact nearest_zero
  have hlog : Int.log 2 q < -1075 :=
    (Int.lt_zpow_iff_log_lt one_lt_two hq).1 (by exact_mod_cast hsmall)
  have hplace : place q = -1074 := max_eq_right (by omega)
  have hhalf : q / 2 ^ (-1074 : ℤ) < 1 / 2 := by
    rw [div_lt_iff₀ (two_zpow_pos _)]
    calc q < 2 ^ (-1075 : ℤ) := hsmall
      _ = 1 / 2 * 2 ^ (-1074 : ℤ) := by
        rw [show (-1075 : ℤ) = -1 + -1074 by norm_num, zpow_add₀ two_ne_zero]
        norm_num
  have hfloor : ⌊q / 2 ^ (-1074 : ℤ)⌋₊ = 0 := Nat.floor_eq_zero.2 (by linarith)
  have hzero : halfEven (q / 2 ^ (-1074 : ℤ)) = 0 := by
    simp only [halfEven, hfloor, Nat.cast_zero, sub_zero]
    rw [if_pos (.inl hhalf)]
  rw [nearest, hplace, hzero]
  simp

/-- A number lies between the powers of ten that its digits count. -/
theorem natural_bounds {m : ℕ} (h : 0 < m) :
    (10 : ℚ) ^ ((Decimal.natural m).length - 1 : ℤ) ≤ m ∧
      (m : ℚ) < 10 ^ ((Decimal.natural m).length : ℤ) := by
  have hcount : ∀ k, 0 < k → ((Decimal.natural m).length ≤ k ↔ m < 10 ^ k) :=
    fun k hk => Nat.length_toDigits_le_iff (by decide) hk
  obtain ⟨k, hk⟩ : ∃ k, (Decimal.natural m).length = k + 1 :=
    Nat.exists_eq_add_of_le' (List.length_pos_of_ne_nil Nat.toDigits_ne_nil)
  rw [hk]
  constructor
  · have hlow : 10 ^ k ≤ m := by
      rcases Nat.eq_zero_or_pos k with rfl | hpos
      · exact h
      · exact not_lt.1 fun hlt => by have := (hcount k hpos).2 hlt; omega
    simpa using (by exact_mod_cast hlow : (10 ^ k : ℚ) ≤ m)
  · have hhigh := (hcount (k + 1) (by omega)).1 hk.le
    exact_mod_cast hhigh

private theorem quotient_eq (m : ℕ) (scale : ℤ) :
    ((m * Nat.pow 10 scale.toNat : ℕ) / (Nat.pow 10 (-scale).toNat : ℕ) : ℚ) = m * 10 ^ scale := by
  simp only [Nat.pow_eq, Nat.cast_mul, Nat.cast_pow, Nat.cast_ofNat]
  rcases le_total 0 scale with he | he
  · obtain ⟨k, rfl⟩ := Int.eq_ofNat_of_zero_le he
    simp
  · obtain ⟨k, hk⟩ := Int.eq_ofNat_of_zero_le (neg_nonneg.2 he)
    obtain rfl : scale = -(k : ℤ) := by omega
    simp [div_eq_mul_inv]

/-- Reading digits with a power of ten rounds them, and the powers that are not computed lie outside
of the range on either side. -/
theorem ofDecimal_extent (negative : Bool) (m : ℕ) (scale : ℤ) :
    Number.ofBinary64 (ofDecimal negative m scale) = signed negative (nearest (m * 10 ^ scale)) := by
  have hzero : Number.ofBinary64 (zero negative) = signed negative 0 := by
    rw [zero, ofBinary64_finite, signed_within _ (by positivity)]
    simp
  unfold ofDecimal
  split
  · rename_i hm
    rw [hm, hzero]
    simp [nearest_zero]
  rename_i hm
  have hten : (0 : ℚ) < 10 ^ scale := zpow_pos (by norm_num) scale
  obtain ⟨hlow, hhigh⟩ := natural_bounds (Nat.pos_of_ne_zero hm)
  dsimp only
  split
  · rename_i horder
    have hsize : (2 : ℚ) ^ (1024 : ℤ) ≤ m * 10 ^ scale := by
      have hpowers : (2 : ℕ) ^ 1024 ≤ 10 ^ 310 := by decide +kernel
      calc (2 : ℚ) ^ (1024 : ℤ) ≤ 10 ^ (310 : ℤ) := by exact_mod_cast hpowers
        _ ≤ 10 ^ ((Decimal.natural m).length - 1 + scale : ℤ) :=
          zpow_le_zpow_right₀ (by norm_num) (by omega)
        _ = 10 ^ ((Decimal.natural m).length - 1 : ℤ) * 10 ^ scale := zpow_add₀ (by norm_num) _ _
        _ ≤ m * 10 ^ scale := mul_le_mul_of_nonneg_right hlow hten.le
    have hnearest := nearest_mono (two_zpow_pos _).le hsize
    rw [nearest_two_zpow (by norm_num)] at hnearest
    rw [signed_beyond _ (by exact_mod_cast hnearest)]
    rfl
  split
  · rename_i horder
    have hsize : (m * 10 ^ scale : ℚ) < 2 ^ (-1075 : ℤ) := by
      have hpowers : (2 : ℕ) ^ 1075 ≤ 10 ^ 331 := by decide +kernel
      calc (m * 10 ^ scale : ℚ)
          < 10 ^ ((Decimal.natural m).length : ℤ) * 10 ^ scale := mul_lt_mul_of_pos_right hhigh hten
        _ = 10 ^ ((Decimal.natural m).length + scale : ℤ) := (zpow_add₀ (by norm_num) _ _).symm
        _ ≤ 10 ^ (-331 : ℤ) := zpow_le_zpow_right₀ (by norm_num) (by omega)
        _ ≤ 2 ^ (-1075 : ℤ) := by
          rw [zpow_neg, zpow_neg]
          exact inv_anti₀ (two_zpow_pos _) (by exact_mod_cast hpowers)
    rw [hzero, nearest_of_small (by positivity) hsize]
  · have hden : Nat.pow 10 (-scale).toNat ≠ 0 := (Nat.pow_pos (by norm_num)).ne'
    have hnum : m * Nat.pow 10 scale.toNat ≠ 0 :=
      Nat.mul_ne_zero hm (Nat.pow_pos (by norm_num)).ne'
    rw [ofQuotient_extent negative hnum hden, quotient_eq]

/-- Rounding the size and giving it the sign is rounding the signed number. -/
private theorem signed_nearest (negative : Bool) {size : ℚ} (h : 0 ≤ size) :
    signed negative (nearest size) = rounded (if negative then -size else size) := by
  unfold rounded
  cases negative with
  | false => simp [abs_of_nonneg h, not_lt.2 h]
  | true =>
    rcases h.eq_or_lt with rfl | hpos
    · simp [nearest_zero, signed_within]
    · simp [hpos, abs_of_pos hpos]

end Binary64

namespace Numeral

def value (n : Numeral) : ℚ :=
  let size : ℚ := Decimal.value (n.whole ++ n.fraction) * 10 ^ (n.exponent - n.fraction.length)
  if n.negative then -size else size

end Numeral

/-- Reading a numeral rounds the number that it denotes. -/
theorem Binary64.ofNumeral_extent (n : Numeral) :
    Number.ofBinary64 (ofNumeral n) = rounded n.value := by
  have hsize : (0 : ℚ) ≤ Decimal.value (n.whole ++ n.fraction) * 10 ^ (n.exponent - n.fraction.length) :=
    mul_nonneg (Nat.cast_nonneg _) (zpow_nonneg (by norm_num) _)
  rw [ofNumeral, ofDecimal_extent, signed_nearest _ hsize]
  rfl

end FieldRules
