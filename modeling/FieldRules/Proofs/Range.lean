import FieldRules.Proofs.Numeral
import FieldRules.Proofs.Rounding
import FieldRules.Proofs.Run.Contribution

/-! Ranges of numbers. The bounds of a range and numbers in texts are rounded before they are
compared, integers are not; whatever rounding leaves alone is compared as the exact number that it
denotes. -/
namespace FieldRules

namespace Extent

def AtMost (a b : Extent) : Prop := a.less b ∨ a.same b

def rounded : Extent → Extent
  | .exact q => Binary64.rounded q
  | e => e

private theorem less_below (e : Extent) : e.less .below = false := by cases e <;> rfl

private theorem above_less (e : Extent) : above.less e = false := by cases e <;> rfl

private theorem less_undefined (e : Extent) : e.less .undefined = false ∧ undefined.less e = false := by
  cases e <;> exact ⟨rfl, rfl⟩

private theorem atMost_exact_iff {p q : ℚ} : (Extent.exact p).AtMost (.exact q) ↔ p ≤ q := by
  simp [AtMost, less, same, le_iff_lt_or_eq]

/-- Among comparable numbers the refusals of a range are the order turned around. -/
private theorem not_less_iff {a b : Extent} (ha : a ≠ .undefined) (hb : b ≠ .undefined) :
    b.less a = false ↔ a.AtMost b := by
  cases a <;> cases b <;> simp_all [AtMost, less, same, le_iff_lt_or_eq]

private theorem rounded_exact_ne_undefined (q : ℚ) : Binary64.rounded q ≠ .undefined := by
  unfold Binary64.rounded Binary64.signed
  split
  · split <;> simp
  · simp

/-- Rounding keeps the order. -/
theorem rounded_of_atMost {a b : Extent} (h : a.AtMost b) : b.rounded.less a.rounded = false := by
  cases a with
  | below => exact less_below _
  | exact p =>
    cases b with
    | exact q => exact Binary64.rounded_mono (atMost_exact_iff.1 h)
    | above => exact above_less _
    | _ => simp [AtMost, less, same] at h
  | above =>
    cases b with
    | above => rfl
    | _ => simp [AtMost, less, same] at h
  | undefined => simp [AtMost, less, same] at h

/-- Rounding leaves floating-point numbers alone. -/
theorem rounded_ofBinary64 (x : Binary64) : (Number.ofBinary64 x).rounded = Number.ofBinary64 x := by
  cases x with
  | nan => rfl
  | infinite negative => cases negative <;> rfl
  | finite negative m e fits =>
    have hsize : Binary64.Representable (m * 2 ^ e : ℚ) :=
      ⟨m, e, fits.1, fits.2.1, fits.2.2.1,
        abs_of_nonneg (mul_nonneg (Nat.cast_nonneg m) (Binary64.two_zpow_pos e).le)⟩
    rw [Binary64.ofBinary64_finite]
    cases negative with
    | false => exact Binary64.rounded_of_representable hsize
    | true => exact Binary64.rounded_of_representable (Binary64.representable_neg.2 hsize)

end Extent

namespace Value

/-- The exact number that a value denotes: an integer itself, and a text what its numeral denotes. -/
def denoted : Value → Extent
  | .int n => .exact n
  | .float _ x => Number.ofBinary64 x
  | .text t =>
    match Numeral.read? t.trim with
    | some n => .exact n.value
    | none => .undefined
  | _ => .undefined

def compared : Value → Extent
  | .int n => .exact n
  | v => v.denoted.rounded

/-- Texts are read as the rounded numbers that they denote. -/
theorem textNumber_eq {t : Text} (hblanks : t.strip Unicode.isSpace = t.trim)
    (h : Trial.isNumeric t) :
    ∃ x, textNumber t = .ok x ∧ Number.ofBinary64 x = (denoted (.text t)).rounded := by
  obtain ⟨n, hn⟩ := Option.isSome_iff_exists.1 (show (Numeral.read? t.trim).isSome from h)
  refine ⟨.ofNumeral n, ?_, ?_⟩
  · simp only [textNumber, hblanks, hn]
  · rw [Binary64.ofNumeral_extent]
    simp only [denoted, hn]
    rfl

private theorem strip_of_trimmed {t : Text} (h : t.trim = t) : t.strip Unicode.isSpace = t.trim := by
  have himp : ∀ c, Unicode.isSpace c → Unicode.isBlank c := by
    intro c hc
    exact (Bool.and_eq_true_iff.1 hc).1
  have hstrip : t.trim.strip Unicode.isSpace = t.trim := Text.strip_strip_of_imp himp
  rw [h] at hstrip ⊢
  exact hstrip

/-- No information separator stands in the text, if the value is one. They count as blanks around a
number, but a number is not read with them. -/
def IsClear (v : Value) : Prop := ∀ t, v = .text t → ∀ c ∈ t, ¬ Unicode.isSeparatorControl c

private theorem textNumber_of_separator {t : Text} {c : Char} (h : c ∈ t)
    (hc : Unicode.isSeparatorControl c) :
    textNumber t = .error (.unreadableNumber t) := by
  have hstays : c ∈ t.strip Unicode.isSpace := Text.mem_strip h (by simp [Unicode.isSpace, hc])
  rw [textNumber, Numeral.read?_eq_none hstays hc]

private theorem strip_of_clear {t : Text} (h : ∀ c ∈ t, ¬ Unicode.isSeparatorControl c) :
    t.strip Unicode.isSpace = t.trim :=
  Text.strip_congr fun c hc => by simp [Unicode.isSpace, h c hc]

/-- Without separator controls the conversion succeeds and gives the value compared with the bounds. -/
theorem toNumber_eq {v : Value} (hnumber : v.isNumber) (hclear : v.IsClear) :
    ∃ x, v.toNumber = .ok x ∧ x.extent = v.compared := by
  cases v with
  | int n => exact ⟨_, rfl, rfl⟩
  | float identity x => exact ⟨_, rfl, (Extent.rounded_ofBinary64 x).symm⟩
  | text t =>
    obtain ⟨x, hx, hextent⟩ := textNumber_eq (strip_of_clear (hclear t rfl)) hnumber
    exact ⟨.float x, by rw [toNumber, hx]; rfl, hextent⟩
  | _ => cases hnumber

/-- The pattern counts a separator control as blank and the conversion does not. -/
theorem toNumber_of_separator {t : Text} {c : Char} (h : c ∈ t) (hc : Unicode.isSeparatorControl c) :
    toNumber (.text t) = .error (.unreadableNumber t) := by
  rw [toNumber, textNumber_of_separator h hc]
  rfl

end Value

/-- Bounds as an argument gives them, all numeric, and a number to be compared with them. -/
structure NumericRange (low high : Text) (v : Value) : Prop where
  parsed : ∃ raw, Checker.between.parse raw = .ok (low, high)
  low : Trial.isNumeric low
  high : Trial.isNumeric high
  number : v.isNumber

namespace NumericRange
variable {low high : Text} {v : Value}

private theorem trim_eq (h : NumericRange low high v) : low.trim = low ∧ high.trim = high := by
  obtain ⟨raw, hraw⟩ := h.parsed
  cases hg : Checker.given raw with
  | error problem => simp [Checker.parse, hg, bind, Except.bind] at hraw
  | ok t =>
    simp only [Checker.parse, hg, bind, Except.bind, Checker.parseBounds] at hraw
    split at hraw
    · rename_i first second hpieces
      split at hraw
      · cases hraw
      · cases hraw
        have htrimmed : ∀ piece ∈ (t.split ',').map Text.trim, piece.trim = piece := by
          simp only [List.forall_mem_map]
          exact fun piece _ => Text.trim_trim piece
        rw [hpieces] at htrimmed
        exact ⟨htrimmed _ (by simp), htrimmed _ (by simp)⟩
    · cases hraw

/-- Bounds are always read, since an argument has no blanks around them. -/
theorem exists_bounds (h : NumericRange low high v) : ∃ least greatest,
    Value.textNumber low = .ok least ∧
      Number.ofBinary64 least = (Value.denoted (.text low)).rounded ∧
    Value.textNumber high = .ok greatest ∧
      Number.ofBinary64 greatest = (Value.denoted (.text high)).rounded := by
  obtain ⟨hlow, hhigh⟩ := h.trim_eq
  obtain ⟨least, hleast, hleast'⟩ := Value.textNumber_eq (Value.strip_of_trimmed hlow) h.low
  obtain ⟨greatest, hgreatest, hgreatest'⟩ :=
    Value.textNumber_eq (Value.strip_of_trimmed hhigh) h.high
  exact ⟨least, greatest, hleast, hleast', hgreatest, hgreatest'⟩

private theorem counted_eq (h : NumericRange low high v) : Trial.counted v = v := by
  have hnumber := h.number
  cases v <;> first | rfl | cases hnumber

/-- The check compares the number of the value with the rounded bounds. -/
theorem verdict_eq (h : NumericRange low high v) (hclear : v.IsClear) (field : Text)
    (data : FieldMap Value) (s : Surroundings) :
    (Checker.between.check field v data s (low, high)).verdict =
      if v.compared.less (Value.denoted (.text low)).rounded ||
        (Value.denoted (.text high)).rounded.less v.compared
      then .returned [Checker.between.failureMessage (low, high)] else .returned [] := by
  obtain ⟨x, hx, hextent⟩ := Value.toNumber_eq h.number hclear
  obtain ⟨least, greatest, hleast, hleast', hgreatest, hgreatest'⟩ := h.exists_bounds
  have hresult : Trial.liesBetween (low, high) v = .ok !(x.less (.float least) ||
      (Number.float greatest).less x) := by
    simp only [Trial.liesBetween, h.counted_eq, h.number, h.low, h.high, hx, hleast, hgreatest]
    rfl
  have hleft : x.less (.float least) = v.compared.less (Value.denoted (.text low)).rounded := by
    rw [Number.less, hextent, ← hleast']
    rfl
  have hright : (Number.float greatest).less x =
      (Value.denoted (.text high)).rounded.less v.compared := by
    rw [Number.less, hextent, ← hgreatest']
    rfl
  rw [← hleft, ← hright]
  change (Trial.silent (.ok (Checker.between.failureMessage (low, high)))
    (Trial.liesBetween (low, high) v)).verdict = _
  rw [hresult]
  cases x.less (.float least) || (Number.float greatest).less x <;> rfl

/-- A text with an information separator in it is not read. -/
theorem verdict_of_separator {t : Text} {c : Char} (h : NumericRange low high (.text t)) (hmem : c ∈ t)
    (hc : Unicode.isSeparatorControl c) (field : Text) (data : FieldMap Value) (s : Surroundings) :
    (Checker.between.check field (.text t) data s (low, high)).verdict =
      .broken (.unreadableNumber t) := by
  have hnumber := Value.toNumber_of_separator hmem hc
  have hresult : Trial.liesBetween (low, high) (.text t) = .error (.unreadableNumber t) := by
    simp only [Trial.liesBetween, h.counted_eq, h.number, h.low, h.high, hnumber]
    rfl
  change (Trial.silent (.ok (Checker.between.failureMessage (low, high)))
    (Trial.liesBetween (low, high) (.text t))).verdict = _
  rw [hresult]
  rfl

end NumericRange

def Accepted (low high : Text) (v : Value) : Prop :=
  ∀ field data s, (Checker.between.check field v data s (low, high)).verdict = .returned []

def Refused (low high : Text) (v : Value) : Prop :=
  ∀ field data s, (Checker.between.check field v data s (low, high)).verdict =
    .returned [Checker.between.failureMessage (low, high)]

namespace NumericRange
variable {low high : Text} {v : Value}

private theorem accepted_iff (h : NumericRange low high v) (hclear : v.IsClear) :
    Accepted low high v ↔ v.compared.less (Value.denoted (.text low)).rounded = false ∧
      (Value.denoted (.text high)).rounded.less v.compared = false := by
  constructor
  · intro haccepted
    have hverdict := haccepted [] .empty .offline
    rw [h.verdict_eq hclear] at hverdict
    split at hverdict
    · cases hverdict
    · rename_i hinside
      simpa using hinside
  · rintro ⟨hlow, hhigh⟩ field data s
    rw [h.verdict_eq hclear, hlow, hhigh]
    rfl

/-- No clear number falls between the two answers. -/
private theorem accepted_or_refused (h : NumericRange low high v) (hclear : v.IsClear) :
    Accepted low high v ∨ Refused low high v := by
  simp only [Accepted, Refused, h.verdict_eq hclear]
  split
  · exact .inr fun _ _ _ => rfl
  · exact .inl fun _ _ _ => rfl

end NumericRange

private theorem Value.denoted_ne_undefined {t : Text} (h : Trial.isNumeric t) :
    denoted (.text t) ≠ .undefined := by
  obtain ⟨n, hn⟩ := Option.isSome_iff_exists.1 (show (Numeral.read? t.trim).isSome from h)
  simp [denoted, hn]

/-! ### An integer between itself and itself -/

private theorem Numeral.value_integer (n : ℤ) :
    value ⟨decide (n < 0), (Decimal.natural n.natAbs).map fun c => c.toNat - 48, [], 0⟩ = n := by
  have hsize : (n.natAbs : ℚ) = |(n : ℚ)| := by rw [Nat.cast_natAbs, Int.cast_abs]
  simp only [value, List.append_nil, Decimal.value_natural, hsize]
  by_cases hn : n < 0
  · have hneg : (n : ℚ) < 0 := by exact_mod_cast hn
    simp [hn, abs_of_neg hneg]
  · have hpos : (0 : ℚ) ≤ n := by exact_mod_cast not_lt.1 hn
    simp [hn, abs_of_nonneg hpos]

private theorem Value.denoted_integer (n : ℤ) : denoted (.text (Decimal.integer n)) = .exact n := by
  simp only [denoted, Decimal.trim_integer, Numeral.read?_integer, Numeral.value_integer]

/-- A whole number twice is a range, and the number may be compared with it. -/
theorem NumericRange.integer (n : ℤ) :
    NumericRange (Decimal.integer n) (Decimal.integer n) (.int n) where
  parsed := by
    have hcomma : ',' ∉ Decimal.integer n := by
      intro h
      rcases Decimal.of_mem_integer h with h | h <;> cases h
    obtain ⟨c, rest, hrest⟩ : ∃ c rest, Decimal.integer n = c :: rest := by
      refine List.exists_cons_of_ne_nil ?_
      unfold Decimal.integer
      split
      · simp
      · exact Decimal.natural_ne_nil _
    have hsplit : (Decimal.integer n ++ ',' :: Decimal.integer n).split ',' =
        [Decimal.integer n, Decimal.integer n] := by
      have hpieces : ∀ t ∈ [Decimal.integer n, Decimal.integer n], ',' ∉ t := by simpa using hcomma
      simpa [Text.join] using Text.split_join hpieces (by simp)
    have hgiven : Checker.given (some (Decimal.integer n ++ ',' :: Decimal.integer n)) =
        .ok (Decimal.integer n ++ ',' :: Decimal.integer n) := by
      rw [hrest]
      rfl
    refine ⟨some (Decimal.integer n ++ ',' :: Decimal.integer n), ?_⟩
    simp only [Checker.parse, hgiven, bind, Except.bind, Checker.parseBounds, hsplit, List.map_cons,
      List.map_nil, Decimal.trim_integer]
    rw [hrest]
    rfl
  low := Value.isNumber_integer n
  high := Value.isNumber_integer n
  number := rfl

/-- A range whose bounds are both one integer holds it exactly when rounding leaves it alone. -/
private theorem accepted_integer_iff (n : ℤ) :
    Accepted (Decimal.integer n) (Decimal.integer n) (.int n) ↔ Binary64.Representable n := by
  rw [(NumericRange.integer n).accepted_iff nofun, Value.denoted_integer, ← Binary64.rounded_eq_self_iff]
  change (Extent.exact n).less (Binary64.rounded n) = false ∧
    (Binary64.rounded n).less (.exact n) = false ↔ _
  have hdefined := Extent.rounded_exact_ne_undefined n
  cases hrounded : Binary64.rounded n with
  | undefined => exact absurd hrounded hdefined
  | exact q =>
    simp only [Extent.less, decide_eq_false_iff_not, not_lt, Extent.exact.injEq]
    exact ⟨fun h => le_antisymm h.1 h.2, fun h => ⟨h.le, h.ge⟩⟩
  | _ => simp [Extent.less]

/-- A numeric range breaks off on texts with information separators, and accepts or refuses every other
number. Its bounds and numbers in texts are rounded to floating-point numbers before they are compared,
and integers are not. Where rounding changes neither the bounds nor the number, the verdict is that of
the exact numbers. A number that is rounded like its bounds is accepted wherever it lies between them,
and what is no number at all is accepted too. An integer passes between itself and itself if and only
if it is representable, as are all of 53 bits. -/
theorem between_rounds_bounds (low high : Text) (v : Value) (n : ℤ) :
    (NumericRange low high v →
      (∀ t, v = .text t → (∃ c ∈ t, Unicode.isSeparatorControl c) → ∀ field data s,
        (Checker.between.check field v data s (low, high)).verdict = .broken (.unreadableNumber t)) ∧
      (v.IsClear →
        let least := Value.denoted (.text low)
        let greatest := Value.denoted (.text high)
        (Accepted low high v ∨ Refused low high v) ∧
        (Accepted low high v ↔
          v.compared.less least.rounded = false ∧ greatest.rounded.less v.compared = false) ∧
        (v.denoted ≠ .undefined → least.rounded = least → greatest.rounded = greatest →
          v.compared = v.denoted →
          (Accepted low high v ↔ least.AtMost v.denoted ∧ v.denoted.AtMost greatest)) ∧
        (v.compared = v.denoted.rounded → least.AtMost v.denoted → v.denoted.AtMost greatest →
          Accepted low high v) ∧
        (v.denoted = .undefined → Accepted low high v))) ∧
    (∀ q, (Extent.exact q).rounded = .exact q ↔ Binary64.Representable q) ∧
    NumericRange (Decimal.integer n) (Decimal.integer n) (.int n) ∧
    (Accepted (Decimal.integer n) (Decimal.integer n) (.int n) ↔ Binary64.Representable n) ∧
    (n.natAbs ≤ 2 ^ 53 → Binary64.Representable n) := by
  refine ⟨fun h => ⟨?_, fun hclear => ⟨h.accepted_or_refused hclear, h.accepted_iff hclear, ?_, ?_, ?_⟩⟩,
    fun q => Binary64.rounded_eq_self_iff, .integer n, accepted_integer_iff n,
    Binary64.representable_of_natAbs_le⟩
  · rintro t rfl ⟨c, hmem, hc⟩
    exact h.verdict_of_separator hmem hc
  · intro hdefined hlow hhigh hv
    rw [h.accepted_iff hclear, hv, hlow, hhigh,
      Extent.not_less_iff (Value.denoted_ne_undefined h.low) hdefined,
      Extent.not_less_iff hdefined (Value.denoted_ne_undefined h.high)]
  · intro hv hlow hhigh
    rw [h.accepted_iff hclear, hv]
    exact ⟨Extent.rounded_of_atMost hlow, Extent.rounded_of_atMost hhigh⟩
  · intro hv
    have hcompared : v.compared = .undefined := by
      cases v with
      | int n => cases hv
      | float identity x =>
        change (Value.float identity x).denoted.rounded = _
        rw [hv]
        rfl
      | text t => exact absurd hv (Value.denoted_ne_undefined h.number)
      | _ => cases h.number
    rw [h.accepted_iff hclear, hcompared]
    exact ⟨(Extent.less_undefined _).2, (Extent.less_undefined _).1⟩

/-- The first integer that rounding changes is refused between itself and itself, and no number at
all is accepted between one and two. -/
theorem between_refuses_itself :
    Value.denoted (.text (Decimal.integer 9007199254740993)) = .exact 9007199254740993 ∧
    Checker.between.parse (some "9007199254740993,9007199254740993".toList) =
      .ok (Decimal.integer 9007199254740993, Decimal.integer 9007199254740993) ∧
    (Checker.between.check "a".toList (.int 9007199254740993) .empty .offline
      (Decimal.integer 9007199254740993, Decimal.integer 9007199254740993)).verdict =
      .returned ["This field must be between 9007199254740993 and 9007199254740993.".toList] ∧
    Checker.between.parse (some "1,2".toList) = .ok ("1".toList, "2".toList) ∧
    (Checker.between.check "a".toList (.float 0 .nan) .empty .offline
      ("1".toList, "2".toList)).verdict = .returned [] := by
  refine ⟨by exact_mod_cast Value.denoted_integer 9007199254740993, ?_, ?_, ?_, ?_⟩ <;> decide +kernel

end FieldRules
