import FieldRules.Proofs.Number

/-! The grammar of numerals, and of the texts that count as numbers: a numeral with blanks around it. -/
namespace FieldRules
namespace Numeral

def Digits (t : Text) (ds : List Nat) : Prop := t.map Unicode.digit? = ds.map some

inductive Sign : Text → Bool → Prop where
  | absent : Sign [] false
  | plus : Sign ['+'] false
  | minus : Sign ['-'] true

/-- Digits, perhaps with a point before, between or behind them. -/
inductive Mantissa : Text → List Nat → List Nat → Prop where
  | whole {t : Text} {ds : List Nat} (digits : Digits t ds) (given : ds ≠ []) : Mantissa t ds []
  | pointed {t u : Text} {ds es : List Nat} (digits : Digits t ds) (digits' : Digits u es)
      (given : ds ≠ [] ∨ es ≠ []) : Mantissa (t ++ '.' :: u) ds es

inductive Power : Text → Int → Prop where
  | absent : Power [] 0
  | marked {c : Char} {s t : Text} {negative : Bool} {ds : List Nat} (mark : c = 'e' ∨ c = 'E')
      (sign : Sign s negative) (digits : Digits t ds) (given : ds ≠ []) :
      Power (c :: (s ++ t)) (if negative then -(Decimal.value ds : Int) else Decimal.value ds)

/-- The text writes the numeral, with nothing around it. -/
def Spells (n : Numeral) (t : Text) : Prop :=
  ∃ sign mantissa power, t = sign ++ (mantissa ++ power) ∧ Sign sign n.negative ∧
    Mantissa mantissa n.whole n.fraction ∧ Power power n.exponent

/-! ### Reading -/

section
variable {t u rest : Text} {ds : List Nat}

theorem digits_nil_iff : Digits [] ds ↔ ds = [] := by
  rw [Digits, List.map_nil, eq_comm, List.map_eq_nil_iff]

theorem digits_cons_iff {c : Char} : Digits (c :: t) ds ↔
    ∃ d ds', Unicode.digit? c = some d ∧ Digits t ds' ∧ ds = d :: ds' := by
  cases ds with
  | nil => simp [Digits]
  | cons d ds => simp [Digits]

/-- Digits of all scripts count, also mixed in one text. -/
theorem exists_digits_iff : (∃ ds, Digits t ds) ↔ ∀ c ∈ t, Unicode.isDigit c := by
  induction t with
  | nil => simp [digits_nil_iff]
  | cons c t ih =>
    rw [List.forall_mem_cons, ← ih]
    simp [digits_cons_iff, Unicode.isDigit, Option.isSome_iff_exists]

theorem Digits.ne_nil_iff (h : Digits t ds) : ds ≠ [] ↔ t ≠ [] := by
  refine not_congr ⟨?_, ?_⟩
  · rintro rfl
    exact List.map_eq_nil_iff.1 h
  · rintro rfl
    exact digits_nil_iff.1 h

/-- The digits in front end where something else begins. -/
theorem leadingDigits_eq_iff : leadingDigits t = (ds, rest) ↔
    ∃ u, t = u ++ rest ∧ Digits u ds ∧ ∀ c ∈ rest.head?, Unicode.digit? c = none := by
  induction t generalizing ds with
  | nil =>
    rw [leadingDigits, Prod.mk.injEq]
    constructor
    · rintro ⟨rfl, rfl⟩
      exact ⟨[], rfl, rfl, by simp⟩
    · rintro ⟨u, hnil, hdigits, -⟩
      obtain ⟨rfl, rfl⟩ := List.append_eq_nil_iff.1 hnil.symm
      exact ⟨(digits_nil_iff.1 hdigits).symm, rfl⟩
  | cons c t ih =>
    cases hc : Unicode.digit? c with
    | none =>
      simp only [leadingDigits, hc, Prod.mk.injEq]
      constructor
      · rintro ⟨rfl, rfl⟩
        exact ⟨[], rfl, rfl, by simp [hc]⟩
      · rintro ⟨u, htext, hdigits, -⟩
        cases u with
        | nil => exact ⟨(digits_nil_iff.1 hdigits).symm, htext⟩
        | cons b u =>
          obtain ⟨d, ds', hd, -⟩ := digits_cons_iff.1 hdigits
          rw [← (List.cons.inj htext).1, hc] at hd
          cases hd
    | some d =>
      simp only [leadingDigits, hc, Prod.mk.injEq]
      constructor
      · rintro ⟨rfl, hrest⟩
        have hlead : leadingDigits t = ((leadingDigits t).1, rest) := Prod.ext rfl hrest
        obtain ⟨u, htext, hdigits, hstop⟩ := ih.1 hlead
        exact ⟨c :: u, by rw [htext, List.cons_append], digits_cons_iff.2 ⟨d, _, hc, hdigits, rfl⟩, hstop⟩
      · rintro ⟨u, htext, hdigits, hstop⟩
        cases u with
        | nil =>
          have hnone := hstop c (by simp [show rest = c :: t from htext.symm])
          rw [hc] at hnone
          cases hnone
        | cons b u =>
          obtain ⟨rfl, rfl⟩ := List.cons.inj htext
          obtain ⟨d', ds', hd, hdigits', rfl⟩ := digits_cons_iff.1 hdigits
          obtain rfl := Option.some.inj (hc.symm.trans hd)
          rw [ih.2 ⟨u, rfl, hdigits', hstop⟩]
          exact ⟨rfl, rfl⟩

/-- Every text has a sign in front, the empty one included. -/
theorem exists_sign (t : Text) : ∃ s, t = s ++ (Decimal.signed t).2 ∧ Sign s (Decimal.signed t).1 := by
  unfold Decimal.signed
  split
  · exact ⟨['-'], rfl, .minus⟩
  · exact ⟨['+'], rfl, .plus⟩
  · exact ⟨[], rfl, .absent⟩

theorem Sign.eq_of_mem {s : Text} {negative : Bool} {c : Char} (h : Sign s negative) (hc : c ∈ s) :
    c = '+' ∨ c = '-' := by
  cases h with
  | absent => cases hc
  | plus => exact .inl (List.mem_singleton.1 hc)
  | minus => exact .inr (List.mem_singleton.1 hc)

/-- A text that does not begin with a sign of its own is read behind the one in front. -/
theorem signed_append {s : Text} {negative : Bool} (sign : Sign s negative)
    (h : ∀ c ∈ t.head?, c ≠ '-' ∧ c ≠ '+') : Decimal.signed (s ++ t) = (negative, t) := by
  cases sign with
  | plus => rfl
  | minus => rfl
  | absent =>
    rw [List.nil_append]
    unfold Decimal.signed
    split
    · exact absurd rfl (h '-' rfl).1
    · exact absurd rfl (h '+' rfl).2
    · rfl

private theorem ne_of_digit? {c : Char} {d : Nat} (h : Unicode.digit? c = some d) :
    c ≠ '-' ∧ c ≠ '+' := by
  have hminus : Unicode.digit? '-' = none := by decide
  have hplus : Unicode.digit? '+' = none := by decide
  constructor
  · rintro rfl
    cases hminus.symm.trans h
  · rintro rfl
    cases hplus.symm.trans h

theorem digits_head (digits : Digits t ds) (given : ds ≠ []) :
    ∀ c ∈ (t ++ u).head?, c ≠ '-' ∧ c ≠ '+' := by
  cases t with
  | nil => exact absurd (digits_nil_iff.1 digits) given
  | cons b t =>
    obtain ⟨d, ds', hd, -⟩ := digits_cons_iff.1 digits
    rintro c ⟨⟩
    exact ne_of_digit? hd

/-- A power of ten goes to the end of the text. -/
theorem exponent?_eq_some_iff {e : Int} : exponent? t = some e ↔ Power t e := by
  constructor
  · intro h
    cases t with
    | nil =>
      cases h
      exact .absent
    | cons c t =>
      rw [exponent?] at h
      split at h
      · rename_i mark
        obtain ⟨s, htext, sign⟩ := exists_sign t
        generalize Decimal.signed t = signed at h htext sign
        obtain ⟨negative, body⟩ := signed
        obtain rfl := htext
        cases hdigits : leadingDigits body with
        | mk ds rest =>
          obtain ⟨u, rfl, digits, -⟩ := leadingDigits_eq_iff.1 hdigits
          simp only [hdigits] at h
          split at h
          · cases h
          · rename_i hgiven heq
            cases heq
            cases h
            rw [List.append_nil]
            exact .marked mark sign digits hgiven
          · cases h
      · cases h
  · rintro (_ | @⟨c, s, t, negative, ds, mark, sign, digits, given⟩)
    · rfl
    · have hsigned : Decimal.signed (s ++ t) = (negative, t) := by
        simpa using signed_append sign (digits_head (u := []) digits given)
      have hdigits : leadingDigits t = (ds, []) :=
        leadingDigits_eq_iff.2 ⟨t, (List.append_nil t).symm, digits, by simp⟩
      rw [exponent?, if_pos mark]
      simp only [hsigned, hdigits]

/-- A power of ten begins with neither a digit nor a point. -/
theorem power_head {e : Int} (h : Power t e) :
    ∀ c ∈ t.head?, Unicode.digit? c = none ∧ c ≠ '.' := by
  cases h with
  | absent => simp
  | marked mark sign digits given =>
    rintro c ⟨⟩
    rcases mark with rfl | rfl <;> decide

end

/-- The digits in front of the power of ten. -/
theorem mantissa_eq_iff {body power : Text} {whole fraction : List Nat}
    (stop : ∀ c ∈ power.head?, Unicode.digit? c = none ∧ c ≠ '.') :
    (∃ behind, leadingDigits body = (whole, behind) ∧ fractionPart behind = (fraction, power) ∧
      (whole ≠ [] ∨ fraction ≠ [])) ↔
      ∃ mantissa, body = mantissa ++ power ∧ Mantissa mantissa whole fraction := by
  constructor
  · rintro ⟨behind, hwhole, hfraction, given⟩
    obtain ⟨t, rfl, digits, -⟩ := leadingDigits_eq_iff.1 hwhole
    unfold fractionPart at hfraction
    split at hfraction
    · obtain ⟨u, rfl, digits', -⟩ := leadingDigits_eq_iff.1 hfraction
      exact ⟨t ++ '.' :: u, by simp, .pointed digits digits' given⟩
    · cases hfraction
      exact ⟨t, rfl, .whole digits (by simpa using given)⟩
  · rintro ⟨mantissa, rfl, hmantissa⟩
    have hstop : ∀ c ∈ power.head?, Unicode.digit? c = none := fun c hc => (stop c hc).1
    cases hmantissa with
    | whole digits given =>
      refine ⟨power, leadingDigits_eq_iff.2 ⟨mantissa, rfl, digits, hstop⟩, ?_, .inl given⟩
      unfold fractionPart
      split
      · exact absurd rfl (stop '.' rfl).2
      · rfl
    | @pointed t u _ _ digits digits' given =>
      refine ⟨'.' :: (u ++ power), leadingDigits_eq_iff.2 ⟨t, by simp, digits, ?_⟩, ?_, given⟩
      · rintro c ⟨⟩
        decide
      · exact leadingDigits_eq_iff.2 ⟨u, rfl, digits', hstop⟩

private theorem mantissa_head {mantissa power : Text} {whole fraction : List Nat}
    (h : Mantissa mantissa whole fraction) : ∀ c ∈ (mantissa ++ power).head?, c ≠ '-' ∧ c ≠ '+' := by
  cases h with
  | whole digits given => exact digits_head digits given
  | @pointed t u _ _ digits _ _ =>
    rw [List.append_assoc]
    cases hwhole : whole with
    | nil =>
      obtain rfl : t = [] := by simpa [Digits, hwhole] using digits
      rintro c ⟨⟩
      decide
    | cons d ds => exact digits_head digits (by simp [hwhole])

/-- A text is read as a numeral if and only if it writes this numeral. -/
theorem read?_eq_some_iff {t : Text} {n : Numeral} : read? t = some n ↔ n.Spells t := by
  constructor
  · intro h
    obtain ⟨s, htext, sign⟩ := exists_sign t
    rw [read?] at h
    generalize Decimal.signed t = signed at h htext sign
    obtain ⟨negative, body⟩ := signed
    cases hwhole : leadingDigits body with
    | mk whole behind =>
      cases hfraction : fractionPart behind with
      | mk fraction power =>
        simp only [hwhole, hfraction] at h
        split at h
        · cases h
        · rename_i hgiven
          obtain ⟨e, he, rfl⟩ := Option.map_eq_some_iff.1 h
          have hpower := exponent?_eq_some_iff.1 he
          have given : whole ≠ [] ∨ fraction ≠ [] := by simpa [← not_and_or] using hgiven
          obtain ⟨mantissa, rfl, hmantissa⟩ :=
            (mantissa_eq_iff (power_head hpower)).1 ⟨behind, hwhole, hfraction, given⟩
          exact ⟨s, mantissa, power, htext, sign, hmantissa, hpower⟩
  · rintro ⟨s, mantissa, power, rfl, sign, hmantissa, hpower⟩
    obtain ⟨behind, hwhole, hfraction, given⟩ :=
      (mantissa_eq_iff (power_head hpower)).2 ⟨mantissa, rfl, hmantissa⟩
    have hgiven : (n.whole.isEmpty && n.fraction.isEmpty) = false := by
      rcases given with given | given <;> simp [given]
    simp only [read?, signed_append sign (mantissa_head hmantissa), hwhole, hfraction, hgiven,
      exponent?_eq_some_iff.2 hpower]
    rfl

/-! ### Blanks around a numeral -/

end Numeral

/-- A zero of any script is none of the blanks, and neither are the nine digits behind it. -/
theorem Unicode.not_isBlank_of_digit? {c : Char} {d : Nat} (h : digit? c = some d) : ¬ isBlank c := by
  by_cases hascii : c.toNat < 128
  · have hdigit : c.isDigit := by
      rw [← isDigit_of_ascii hascii, isDigit, h]
      rfl
    exact not_isBlank_of_isDigit hdigit
  · have hzeros : ∀ z ∈ zeros, 0x660 ≤ z ∧ (z + 9 < 0x1680 ∨ 0x1680 < z) ∧
        (z + 9 < 0x2000 ∨ 0x3000 < z) := by decide
    simp only [digit?, if_neg hascii] at h
    obtain ⟨z, hz, -⟩ := Option.map_eq_some_iff.1 h
    obtain ⟨hlow, hogham, hpunctuation⟩ := hzeros z (List.mem_of_find?_eq_some hz)
    have hrange := List.find?_some hz
    simp only [Bool.and_eq_true, decide_eq_true_eq] at hrange
    simp only [isBlank, isSeparatorControl, Bool.or_eq_true, Bool.and_eq_true, decide_eq_true_eq]
    omega

namespace Numeral
variable {t : Text} {n : Numeral}

theorem not_isBlank_of_digits {ds : List Nat} (h : Digits t ds) : ∀ c ∈ t, ¬ Unicode.isBlank c := by
  intro c hc
  have hmem : Unicode.digit? c ∈ ds.map some := h ▸ List.mem_map_of_mem hc
  obtain ⟨d, -, hd⟩ := List.mem_map.1 hmem
  exact Unicode.not_isBlank_of_digit? hd.symm

/-- No blank is in a numeral. -/
theorem Spells.not_isBlank (h : n.Spells t) : ∀ c ∈ t, ¬ Unicode.isBlank c := by
  obtain ⟨negative, whole, fraction, exponent⟩ := n
  obtain ⟨s, mantissa, power, rfl, hsign, hmantissa, hpower⟩ := h
  have hs {u : Text} {negative : Bool} (sign : Sign u negative) : ∀ c ∈ u, ¬ Unicode.isBlank c := by
    intro c hc
    rcases sign.eq_of_mem hc with rfl | rfl <;> decide
  refine List.forall_mem_append.2 ⟨hs hsign, List.forall_mem_append.2 ⟨?_, ?_⟩⟩
  · cases hmantissa with
    | whole digits given => exact not_isBlank_of_digits digits
    | pointed digits digits' given =>
      refine List.forall_mem_append.2 ⟨not_isBlank_of_digits digits, ?_⟩
      exact List.forall_mem_cons.2 ⟨by decide, not_isBlank_of_digits digits'⟩
  · cases hpower with
    | absent => simp
    | marked mark sign digits given =>
      refine List.forall_mem_cons.2 ⟨?_, ?_⟩
      · rcases mark with rfl | rfl <;> decide
      · exact List.forall_mem_append.2 ⟨hs sign, not_isBlank_of_digits digits⟩

/-- Information separators count as blanks, but no numeral is read across one. -/
theorem read?_eq_none {c : Char} (h : c ∈ t) (hc : Unicode.isSeparatorControl c) : read? t = none := by
  rw [Option.eq_none_iff_forall_ne_some]
  intro n hn
  exact (read?_eq_some_iff.1 hn).not_isBlank c h (by simp [Unicode.isBlank, hc])

inductive Within (n : Numeral) : Text → Text → Prop where
  | mk {before t after : Text} (blanks : ∀ c ∈ before ++ after, Unicode.isBlank c) (spells : n.Spells t) :
      Within n (before ++ (t ++ after)) (before ++ after)

/-- The reader against the grammar: a numeral between blanks, and nothing else. -/
theorem read?_trim_eq_some_iff : read? t.trim = some n ↔ ∃ blanks, n.Within t blanks := by
  rw [read?_eq_some_iff]
  constructor
  · intro h
    obtain ⟨before, after, htext, blanks⟩ := Text.exists_strip Unicode.isBlank t
    refine ⟨before ++ after, ?_⟩
    rw [htext]
    exact .mk blanks h
  · rintro ⟨_, @⟨before, u, after, blanks, spells⟩⟩
    rwa [Text.trim, Text.strip_append blanks spells.not_isBlank]

end Numeral

/-- A text is a number exactly when the grammar derives it between blanks. -/
theorem Value.isNumber_text_iff {t : Text} :
    isNumber (.text t) ↔ ∃ n blanks, Numeral.Within n t blanks := by
  simp only [isNumber, Option.isSome_iff_exists, Numeral.read?_trim_eq_some_iff]

end FieldRules
