import FieldRules.Proofs.Range
import FieldRules.Proofs.Trial

/-! Values that count as numbers, and the numbers that they are converted to. Blanks around a numeral
are those of the numeric form; an information separator is one of these, but is not one where a text is
converted. -/
namespace FieldRules
namespace Value

/-- No numeral has an information separator in it, so that they stand around it. -/
theorem isClear_text_iff {t blanks : Text} {n : Numeral} (h : n.Within t blanks) :
    IsClear (.text t) ↔ ∀ c ∈ blanks, ¬ Unicode.isSeparatorControl c := by
  obtain @⟨before, u, after, -, spells⟩ := h
  have hspells : ∀ c ∈ u, ¬ Unicode.isSeparatorControl c :=
    fun c hc hs => spells.not_isBlank c hc (by simp [Unicode.isBlank, hs])
  constructor
  · intro hclear c hc
    refine hclear _ rfl c ?_
    rcases List.mem_append.1 hc with hc | hc <;> simp [hc]
  · rintro hblanks t ⟨⟩
    obtain ⟨hbefore, hafter⟩ := List.forall_mem_append.1 hblanks
    exact List.forall_mem_append.2 ⟨hbefore, List.forall_mem_append.2 ⟨hspells, hafter⟩⟩

/-- What a text denotes is the value of the numeral it writes, blanks aside. -/
private theorem denoted_of_within {t blanks : Text} {n : Numeral} (h : n.Within t blanks) :
    denoted (.text t) = .exact n.value := by
  simp only [denoted, Numeral.read?_trim_eq_some_iff.2 ⟨blanks, h⟩]

/-- What is not clear is a text, and is not converted. -/
theorem toNumber_of_not_isClear {v : Value} (h : ¬ v.IsClear) :
    ∃ t, v = .text t ∧ v.toNumber = .error (.unreadableNumber t) := by
  rw [IsClear] at h
  push Not at h
  obtain ⟨t, rfl, c, hmem, hc⟩ := h
  exact ⟨t, rfl, toNumber_of_separator hmem hc⟩

/-- Among numbers only a separator control in front or behind keeps one from being converted. -/
private theorem exists_toNumber_iff {v : Value} (h : v.isNumber) :
    (∃ x, v.toNumber = .ok x) ↔ v.IsClear := by
  constructor
  · rintro ⟨x, hx⟩
    by_contra hclear
    obtain ⟨t, -, herror⟩ := toNumber_of_not_isClear hclear
    cases hx.symm.trans herror
  · intro hclear
    obtain ⟨x, hx, -⟩ := toNumber_eq h hclear
    exact ⟨x, hx⟩

end Value

private theorem numeric_verdict (field : Text) (v : Value) (data : FieldMap Value) (s : Surroundings)
    (argument : Option Text) :
    (Checker.numeric.check field v data s argument).verdict = .returned [] ↔ v.isNumber := by
  change Verdict.ofResult (.ok (Checker.numeric.failureMessage argument)) (.ok v.isNumber) = _ ↔ _
  rw [Verdict.ofResult_eq_nil_iff, Except.ok.injEq]

/-- The verdict of a range is reached exactly for values that are converted. -/
theorem NumericRange.broken_iff {low high : Text} {v : Value} (h : NumericRange low high v)
    (field : Text)
    (data : FieldMap Value) (s : Surroundings) :
    (∃ fault, (Checker.between.check field v data s (low, high)).verdict = .broken fault) ↔
      ¬ v.IsClear := by
  constructor
  · rintro ⟨fault, hbroken⟩ hclear
    rw [h.verdict_eq hclear] at hbroken
    split at hbroken <;> cases hbroken
  · intro hclear
    rw [Value.IsClear] at hclear
    push Not at hclear
    obtain ⟨t, rfl, c, hmem, hc⟩ := hclear
    exact ⟨_, h.verdict_of_separator hmem hc field data s⟩

/-- A value that counts as a number, which is what passes `numeric`, is converted if and only if no
information separator is in it. The texts that count as numbers are numerals with blanks around them, in
the digits of any script. A text is converted to the number that its numeral denotes, rounded, unless an
information separator is among the blanks; with one it is not converted. The bounds of a numeric range
always are converted, and the range breaks off on the values that are not and compares the numbers of the
others. -/
theorem numeric_converts_iff_isClear (v : Value) :
    (v.isNumber → ((∃ x, v.toNumber = .ok x) ↔ v.IsClear)) ∧
    (∀ t, v = .text t → (v.isNumber ↔ ∃ n blanks, Numeral.Within n t blanks)) ∧
    (∀ t n blanks, v = .text t → Numeral.Within n t blanks →
      ((∀ c ∈ blanks, ¬ Unicode.isSeparatorControl c) →
        ∃ x, v.toNumber = .ok x ∧ x.extent = Binary64.rounded n.value) ∧
      ((∃ c ∈ blanks, Unicode.isSeparatorControl c) → v.toNumber = .error (.unreadableNumber t))) ∧
    (∀ field data s argument,
      (Checker.numeric.check field v data s argument).verdict = .returned [] ↔ v.isNumber) ∧
    ∀ low high, NumericRange low high v →
      (∃ least greatest, Value.textNumber low = .ok least ∧ Value.textNumber high = .ok greatest) ∧
      ∀ field data s,
        let verdict := (Checker.between.check field v data s (low, high)).verdict
        ((∃ fault, verdict = .broken fault) ↔ ¬ v.IsClear) ∧
        (v.IsClear → verdict =
          if v.compared.less (Value.denoted (.text low)).rounded ||
            (Value.denoted (.text high)).rounded.less v.compared
          then .returned [Checker.between.failureMessage (low, high)] else .returned []) := by
  refine ⟨Value.exists_toNumber_iff, ?_, ?_, ?_, ?_⟩
  · rintro t rfl
    exact Value.isNumber_text_iff
  · rintro t n blanks rfl hwithin
    constructor
    · intro hblanks
      obtain ⟨x, hx, hextent⟩ := Value.toNumber_eq (Value.isNumber_text_iff.2 ⟨n, blanks, hwithin⟩)
        ((Value.isClear_text_iff hwithin).2 hblanks)
      refine ⟨x, hx, hextent.trans ?_⟩
      rw [Value.compared, Value.denoted_of_within hwithin]
      · rfl
      · nofun
    · rintro ⟨c, hmem, hc⟩
      have hclear : ¬ Value.IsClear (.text t) :=
        fun h => (Value.isClear_text_iff hwithin).1 h c hmem hc
      obtain ⟨_, ⟨⟩, herror⟩ := Value.toNumber_of_not_isClear hclear
      exact herror
  · intro field data s argument
    exact numeric_verdict field v data s argument
  · intro low high h
    obtain ⟨least, greatest, hleast, -, hgreatest, -⟩ := h.exists_bounds
    exact ⟨⟨least, greatest, hleast, hgreatest⟩, fun field data s =>
      ⟨h.broken_iff field data s, fun hclear => h.verdict_eq hclear field data s⟩⟩

/-- A digit behind an information separator passes `numeric` and is not converted, and a range between
numbers breaks off on it. -/
theorem separated_digit_not_converted :
    let v := Value.text ['\x1c', '1']
    (Checker.numeric.check "a".toList v .empty .offline none).verdict = .returned [] ∧
    v.toNumber = .error (.unreadableNumber ['\x1c', '1']) ∧
    Checker.between.parse (some "0,5".toList) = .ok ("0".toList, "5".toList) ∧
    (Checker.between.check "a".toList v .empty .offline ("0".toList, "5".toList)).verdict =
      .broken (.unreadableNumber ['\x1c', '1']) := by
  refine ⟨?_, ?_, ?_, ?_⟩ <;> decide +kernel

end FieldRules
