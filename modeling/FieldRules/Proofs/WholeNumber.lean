import FieldRules.Proofs.Numeral
import FieldRules.Proofs.Run.Alone

/-! Whole numbers among the numbers. A text that is a whole number is a numeral without a fraction and a
power of ten, and without a zero in front of other digits; a floating-point number is whole if it denotes
an integer. -/
namespace FieldRules

/-! ### Digits of a whole number -/

/-- Without a fraction and a power of ten there are only a sign and digits. -/
theorem Numeral.Spells.of_unmarked {n : Numeral} {t : Text} (h : n.Spells t) (hpoint : '.' ∉ t)
    (hlower : 'e' ∉ t) (hupper : 'E' ∉ t) :
    ∃ sign ds digits, t = sign ++ digits ∧ Sign sign n.negative ∧ Digits digits ds ∧ ds ≠ [] := by
  obtain ⟨negative, whole, fraction, exponent⟩ := n
  obtain ⟨sign, mantissa, power, rfl, signed, hmantissa, hpower⟩ := h
  cases hmantissa with
  | pointed => simp at hpoint
  | whole digits given =>
    cases hpower with
    | absent => exact ⟨sign, whole, mantissa, by rw [List.append_nil], signed, digits, given⟩
    | marked mark => rcases mark with rfl | rfl <;> simp at hlower hupper

namespace Decimal

/-- A zero alone, or digits that begin with another ASCII digit. -/
inductive Unpadded : Text → Prop where
  | zero : Unpadded ['0']
  | positive {c : Char} {rest : Text} (low : '1' ≤ c) (high : c ≤ '9')
      (digits : ∀ d ∈ rest, Unicode.isDigit d) : Unpadded (c :: rest)

/-- What stands between the blanks around a text, without its sign. -/
def body (t : Text) : Text := (signed t.trim).2

def digitRun (t : Text) : Text := (t.dropWhile fun c => !Unicode.isDigit c).takeWhile Unicode.isDigit

variable {t : Text}

private theorem isDigit_iff {c : Char} : c.isDigit ↔ c = '0' ∨ '1' ≤ c ∧ c ≤ '9' := by
  simp only [Char.isDigit, Bool.and_eq_true, decide_eq_true_eq, Char.le_def, UInt32.le_iff_toNat_le,
    ← Char.toNat_inj, ge_iff_le]
  have hzero : '0'.val.toNat = 48 := rfl
  have hone : '1'.val.toNat = 49 := rfl
  have hnine : '9'.val.toNat = 57 := rfl
  change _ ↔ c.val.toNat = '0'.val.toNat ∨ _
  omega

private theorem Unpadded.ne_nil (h : Unpadded t) : t ≠ [] := by
  cases h with
  | zero | positive => exact List.cons_ne_nil _ _

private theorem Unpadded.isDigit (h : Unpadded t) : ∀ c ∈ t, Unicode.isDigit c := by
  cases h with
  | zero => exact List.forall_mem_singleton.2 (by decide)
  | positive low high digits =>
    exact List.forall_mem_cons.2 ⟨Unicode.isDigit_of_isDigit (isDigit_iff.2 (.inr ⟨low, high⟩)), digits⟩

/-- Among ASCII digits this is to be a zero alone or not to begin with a zero. -/
theorem unpadded_iff (all : ∀ c ∈ t, c.isDigit) (given : t ≠ []) :
    Unpadded t ↔ t = ['0'] ∨ t.head? ≠ some '0' := by
  obtain ⟨c, rest, rfl⟩ := List.exists_cons_of_ne_nil given
  obtain ⟨hc, hrest⟩ := List.forall_mem_cons.1 all
  constructor
  · rintro (_ | ⟨low, -, -⟩)
    · exact .inl rfl
    · right
      rintro ⟨⟩
      exact absurd low (by decide)
  · rintro (h | h)
    · rw [h]
      exact .zero
    · obtain ⟨low, high⟩ := (isDigit_iff.1 hc).resolve_left fun hz => h (congrArg some hz)
      exact .positive low high fun d hd => Unicode.isDigit_of_isDigit (hrest d hd)

private theorem exists_body (t : Text) : ∃ before sign after negative,
    t = (before ++ sign) ++ (body t ++ after) ∧ (∀ c ∈ before ++ after, Unicode.isBlank c) ∧
      Numeral.Sign sign negative := by
  obtain ⟨before, after, htext, blanks⟩ := Text.exists_strip Unicode.isBlank t
  obtain ⟨sign, htrim, signed⟩ := Numeral.exists_sign t.trim
  refine ⟨before, sign, after, _, ?_, blanks, signed⟩
  calc t = before ++ (t.trim ++ after) := htext
    _ = before ++ ((sign ++ body t) ++ after) := by rw [body, ← htrim]
    _ = (before ++ sign) ++ (body t ++ after) := by simp only [List.append_assoc]

private theorem mem_of_mem_body {c : Char} (h : c ∈ body t) : c ∈ t := by
  obtain ⟨sign, htrim, -⟩ := Numeral.exists_sign t.trim
  have htrimmed : c ∈ t.trim := htrim ▸ List.mem_append_right _ h
  exact Text.mem_of_mem_strip htrimmed

/-- Neither the blanks around digits nor their sign are digits. -/
theorem digitRun_eq (given : body t ≠ []) (all : ∀ c ∈ body t, Unicode.isDigit c) :
    digitRun t = body t := by
  have hblank : ∀ c, Unicode.isBlank c → ¬ Unicode.isDigit c := by
    intro c hc hdigit
    obtain ⟨d, hd⟩ := Option.isSome_iff_exists.1 hdigit
    exact Unicode.not_isBlank_of_digit? hd hc
  obtain ⟨before, sign, after, negative, htext, blanks, signed⟩ := exists_body t
  obtain ⟨hbefore, hafter⟩ := List.forall_mem_append.1 blanks
  have hsign : ∀ c ∈ sign, ¬ Unicode.isDigit c := by
    intro c hc
    rcases signed.eq_of_mem hc with rfl | rfl <;> decide
  have hfront : ∀ c ∈ before ++ sign, (!Unicode.isDigit c) = true := by
    have hno := List.forall_mem_append.2 ⟨fun c hc => hblank c (hbefore c hc), hsign⟩
    simpa using hno
  obtain ⟨c, rest, hbody⟩ := List.exists_cons_of_ne_nil given
  have hc : Unicode.isDigit c := all c (by simp [hbody])
  have hstop : (body t ++ after).dropWhile (fun c => !Unicode.isDigit c) = body t ++ after := by
    rw [hbody, List.cons_append, List.dropWhile_cons_of_neg (by simp [hc])]
  have hend : after.takeWhile Unicode.isDigit = [] := by
    cases after with
    | nil => rfl
    | cons b after => exact List.takeWhile_cons_of_neg (hblank b (hafter b List.mem_cons_self))
  calc digitRun t = (body t ++ after).takeWhile Unicode.isDigit := by
        rw [digitRun]
        conv_lhs => rw [htext]
        rw [List.dropWhile_append_of_pos hfront, hstop]
    _ = body t := by rw [List.takeWhile_append_of_pos all, hend, List.append_nil]

/-- What is neither a blank nor a sign is in the text between them. -/
theorem mem_body {c : Char} (h : c ∈ t) (hblank : ¬ Unicode.isBlank c) (hplus : c ≠ '+')
    (hminus : c ≠ '-') : c ∈ body t := by
  obtain ⟨before, sign, after, negative, htext, blanks, signed⟩ := exists_body t
  obtain ⟨hbefore, hafter⟩ := List.forall_mem_append.1 blanks
  have hsign : c ∉ sign := fun hc => (signed.eq_of_mem hc).elim hplus hminus
  rw [htext] at h
  rcases List.mem_append.1 h with h | h
  · rcases List.mem_append.1 h with h | h
    · exact absurd (hbefore c h) hblank
    · exact absurd h hsign
  · exact (List.mem_append.1 h).resolve_right fun h => hblank (hafter c h)

/-- A text with digits in its body is a numeral without any of the three marks. -/
theorem isNumber_unmarked_iff :
    Value.isNumber (.text t) ∧ '.' ∉ t ∧ 'e' ∉ t ∧ 'E' ∉ t ↔
      body t ≠ [] ∧ ∀ c ∈ body t, Unicode.isDigit c := by
  rw [Value.isNumber, Option.isSome_iff_exists]
  simp only [Numeral.read?_eq_some_iff]
  constructor
  · rintro ⟨⟨n, hspells⟩, hpoint, hlower, hupper⟩
    have hmem : ∀ c, c ∉ t → c ∉ t.trim := fun c hc hmem => hc (Text.mem_of_mem_strip hmem)
    obtain ⟨sign, ds, digits, htrim, signed, hdigits, given⟩ :=
      hspells.of_unmarked (hmem _ hpoint) (hmem _ hlower) (hmem _ hupper)
    have hhead : ∀ c ∈ digits.head?, c ≠ '-' ∧ c ≠ '+' := by
      simpa using Numeral.digits_head (u := []) hdigits given
    have hbody : body t = digits := by rw [body, htrim, Numeral.signed_append signed hhead]
    rw [hbody]
    exact ⟨hdigits.ne_nil_iff.1 given, Numeral.exists_digits_iff.1 ⟨ds, hdigits⟩⟩
  · rintro ⟨given, all⟩
    obtain ⟨sign, htrim, signed⟩ := Numeral.exists_sign t.trim
    obtain ⟨ds, digits⟩ := Numeral.exists_digits_iff.2 all
    have hspells : Numeral.Spells ⟨_, ds, [], 0⟩ t.trim :=
      ⟨sign, body t, [], by rw [List.append_nil, body, ← htrim], signed,
        .whole digits (digits.ne_nil_iff.2 given), .absent⟩
    have hunmarked : ∀ c, ¬ Unicode.isBlank c → c ≠ '+' → c ≠ '-' → ¬ Unicode.isDigit c → c ∉ t :=
      fun c hblank hplus hminus hdigit hc => hdigit (all c (mem_body hc hblank hplus hminus))
    refine ⟨⟨_, hspells⟩, ?_, ?_, ?_⟩ <;>
      exact hunmarked _ (by decide) (by decide) (by decide) (by decide)

end Decimal

namespace Value

/-- The pattern of integers against the grammar, sign and blanks taken off. -/
private theorem isIntegerText_iff {t : Text} : isIntegerText t ↔ Decimal.Unpadded (Decimal.body t) := by
  unfold isIntegerText Decimal.body
  split
  · rename_i h
    rw [h]
    exact iff_of_true rfl .zero
  · rename_i c rest hne h
    rw [h]
    simp only [Bool.and_eq_true, decide_eq_true_eq, List.all_eq_true]
    constructor
    · rintro ⟨⟨low, high⟩, digits⟩
      exact .positive low high digits
    · intro hunpadded
      cases hunpadded with
      | zero => exact absurd rfl (hne rfl)
      | positive low high digits => exact ⟨⟨low, high⟩, digits⟩
  · rename_i h
    rw [h]
    exact iff_of_false (by decide) fun hnil => hnil.ne_nil rfl

/-- The form of a whole number is that of a numeral without fraction, power of ten and padding. -/
theorem isInteger_text_iff {t : Text} : isInteger (.text t) ↔
    isNumber (.text t) ∧ '.' ∉ t ∧ 'e' ∉ t ∧ 'E' ∉ t ∧ Decimal.Unpadded (Decimal.digitRun t) := by
  rw [isInteger, isIntegerText_iff]
  constructor
  · intro h
    obtain ⟨hnumber, hpoint, hlower, hupper⟩ := Decimal.isNumber_unmarked_iff.2 ⟨h.ne_nil, h.isDigit⟩
    exact ⟨hnumber, hpoint, hlower, hupper, by rwa [Decimal.digitRun_eq h.ne_nil h.isDigit]⟩
  · rintro ⟨hnumber, hpoint, hlower, hupper, hunpadded⟩
    obtain ⟨given, all⟩ := Decimal.isNumber_unmarked_iff.1 ⟨hnumber, hpoint, hlower, hupper⟩
    rwa [Decimal.digitRun_eq given all] at hunpadded

/-- The digits of an ASCII text are padded if a zero stands before others. -/
theorem isInteger_ascii_iff {t : Text} (h : t.isAscii) : isInteger (.text t) ↔
    isNumber (.text t) ∧ '.' ∉ t ∧ 'e' ∉ t ∧ 'E' ∉ t ∧
      (Decimal.digitRun t = ['0'] ∨ (Decimal.digitRun t).head? ≠ some '0') := by
  rw [isInteger_text_iff]
  refine and_congr_right fun hnumber => and_congr_right fun hpoint => and_congr_right fun hlower =>
    and_congr_right fun hupper => ?_
  obtain ⟨given, all⟩ := Decimal.isNumber_unmarked_iff.1 ⟨hnumber, hpoint, hlower, hupper⟩
  rw [Decimal.digitRun_eq given all]
  refine Decimal.unpadded_iff (fun c hc => ?_) given
  rw [← Unicode.isDigit_of_ascii (Text.isAscii_iff.1 h c (Decimal.mem_of_mem_body hc))]
  exact all c hc

/-- Every whole number is a number. -/
theorem isNumber_of_isInteger {v : Value} (h : v.isInteger) : v.isNumber := by
  cases v with
  | int n => rfl
  | float identity x => rfl
  | text t => exact (isInteger_text_iff.1 h).1
  | _ => cases h

end Value

/-! ### Integral floating-point numbers -/

/-- A number is integral if and only if it denotes an integer. -/
theorem Binary64.isIntegral_iff {x : Binary64} :
    x.isIntegral ↔ ∃ n : ℤ, (Number.float x).extent = .exact n := by
  constructor
  · intro h
    exact ⟨x.toInt, Number.extent_float h⟩
  · rintro ⟨n, hn⟩
    cases x with
    | nan => cases hn
    | infinite negative => cases negative <;> cases hn
    | finite negative m e fits =>
      have hd : Nat.pow 2 (-e).toNat ≠ 0 := (Nat.pow_pos (by decide)).ne'
      obtain ⟨k, hk⟩ : ∃ k : ℤ, mkRat (m * Nat.pow 2 e.toNat) (Nat.pow 2 (-e).toNat) = k := by
        simp only [Number.extent, Number.ofBinary64, Extent.exact.injEq] at hn
        split at hn
        · exact ⟨-n, by rw [Int.cast_neg, ← hn, neg_neg]⟩
        · exact ⟨n, hn⟩
      have hdvd : Nat.pow 2 (-e).toNat ∣ m * Nat.pow 2 e.toNat := by
        rw [← Rat.mkRat_one, Rat.mkRat_eq_iff hd one_ne_zero, Nat.cast_one, mul_one] at hk
        exact Int.natCast_dvd_natCast.1 ⟨k, by rw [Nat.cast_mul, hk, mul_comm]⟩
      -- One of the two powers of two is one.
      refine decide_eq_true (Nat.mod_eq_zero_of_dvd ?_)
      rcases le_total e 0 with he | he
      · rwa [Int.toNat_of_nonpos he, show Nat.pow 2 0 = 1 from rfl, Nat.mul_one] at hdvd
      · rw [Int.toNat_of_nonpos (Int.neg_nonpos_of_nonneg he)]
        exact one_dvd m

/-! ### The two rules -/

def notNumeric : Text := "This field must be a numeric value.".toList

def notInteger : Text := "This field must be an integer.".toList

section
variable {registry : Registry} {data : FieldMap Value} {s : Surroundings} {field : Text}
  {messages : List Text}

private theorem says_numeric_iff (hr : Checker.numeric ∈ registry.inUse.checkers) :
    Says registry data s field (.text "numeric".toList) messages ↔
      (if (data.held field).isNumber then [] else [notNumeric]) = messages := by
  change Says registry data s field (.text Checker.numeric.name) messages ↔ _
  rw [says_name_iff (by decide) hr rfl rfl]
  simp only [Except.ok.injEq]
  rfl

private theorem says_integer_iff (hr : Checker.integer ∈ registry.inUse.checkers) :
    Says registry data s field (.text "integer".toList) messages ↔
      (if (data.held field).isInteger then [] else [notInteger]) = messages := by
  change Says registry data s field (.text Checker.integer.name) messages ↔ _
  rw [says_name_iff (by decide) hr rfl rfl]
  simp only [Except.ok.injEq]
  rfl

end

/-- Each of the two rules has nothing or its message to say of a value. What passes `integer` passes
`numeric`. An ASCII text passes `integer` if and only if it passes `numeric`, has no point and no `e` in
it, and its digits are a zero alone or do not begin with one. A floating-point number passes if and only
if it denotes an integer. No truth value passes either rule. -/
theorem integer_refines_numeric {registry : Registry}
    (hn : Checker.numeric ∈ registry.inUse.checkers) (hi : Checker.integer ∈ registry.inUse.checkers)
    (data : FieldMap Value) (s : Surroundings) (field : Text) :
    let answers (rule : String) := Says registry data s field (.text rule.toList)
    (answers "numeric" [] ∨ answers "numeric" [notNumeric]) ∧
    (answers "integer" [] ∨ answers "integer" [notInteger]) ∧
    (answers "integer" [] → answers "numeric" []) ∧
    (∀ t, data.held field = .text t → t.isAscii →
      (answers "integer" [] ↔ answers "numeric" [] ∧ '.' ∉ t ∧ 'e' ∉ t ∧ 'E' ∉ t ∧
        (Decimal.digitRun t = ['0'] ∨ (Decimal.digitRun t).head? ≠ some '0'))) ∧
    (∀ identity x, data.held field = .float identity x →
      (answers "integer" [] ↔ ∃ n : ℤ, (Number.float x).extent = .exact n)) ∧
    ∀ b, data.held field = .bool b →
      answers "integer" [notInteger] ∧ answers "numeric" [notNumeric] := by
  intro answers
  have hnumeric {messages : List Text} : answers "numeric" messages ↔ _ := says_numeric_iff hn
  have hinteger {messages : List Text} : answers "integer" messages ↔ _ := says_integer_iff hi
  have hnumeric_passes : answers "numeric" [] ↔ (data.held field).isNumber := by simp [hnumeric]
  have hinteger_passes : answers "integer" [] ↔ (data.held field).isInteger := by simp [hinteger]
  refine ⟨?_, ?_, ?_, ?_, ?_, ?_⟩
  · simp [hnumeric]
  · simp [hinteger]
  · rw [hnumeric_passes, hinteger_passes]
    exact Value.isNumber_of_isInteger
  · intro t ht hascii
    rw [hnumeric_passes, hinteger_passes, ht]
    exact Value.isInteger_ascii_iff hascii
  · intro identity x hx
    rw [hinteger_passes, hx]
    exact Binary64.isIntegral_iff
  · intro b hb
    rw [hnumeric, hinteger, hb]
    exact ⟨rfl, rfl⟩

/-- A text with a sign and blanks, one with zeros in front, an integral number and a truth value. -/
def amounts : FieldMap Value :=
  ⟨[("debt".toList, .text " -7\n".toList), ("agent".toList, .text "007".toList),
    ("weight".toList, .float 0 (.ofQuotient false 10 2)), ("paid".toList, .bool true)], by decide⟩

/-- The sign and the blanks are no reason to refuse a text, but the zeros are. -/
theorem amounts_judged :
    let answers (field rule : String) :=
      Says .standard amounts .offline field.toList (.text rule.toList)
    answers "debt" "integer" [] ∧
    answers "agent" "numeric" [] ∧ answers "agent" "integer" [notInteger] ∧
    answers "weight" "integer" [] ∧ answers "weight" "numeric" [] ∧
    answers "paid" "integer" [notInteger] ∧ answers "paid" "numeric" [notNumeric] := by
  intro answers
  have hn : Checker.numeric ∈ Registry.standard.inUse.checkers := by decide
  have hi : Checker.integer ∈ Registry.standard.inUse.checkers := by decide
  have hrules := fun field => integer_refines_numeric hn hi amounts .offline field
  obtain ⟨-, -, -, hdebt, -, -⟩ := hrules "debt".toList
  obtain ⟨-, hagent, -, hpadded, -, -⟩ := hrules "agent".toList
  obtain ⟨-, -, hrefines, -, hweight, -⟩ := hrules "weight".toList
  obtain ⟨-, -, -, -, -, hpaid⟩ := hrules "paid".toList
  have hwhole : answers "weight" "integer" [] :=
    (hweight 0 _ rfl).2 (Binary64.isIntegral_iff.1 (by decide +kernel))
  refine ⟨?_, ?_, ?_, hwhole, hrefines hwhole, hpaid true rfl⟩
  · refine (hdebt _ rfl (by decide)).2 ⟨(says_numeric_iff hn).2 (by decide +kernel), ?_⟩
    decide +kernel
  · exact (says_numeric_iff hn).2 (by decide +kernel)
  · refine hagent.resolve_left fun h => ?_
    obtain ⟨-, -, -, -, hrun⟩ := (hpadded _ rfl (by decide)).1 h
    revert hrun
    decide +kernel

end FieldRules
