import FieldRules.Proofs.Date.Directive

/-! The letters of a date format, one by one: the part that a letter names takes what the letter
writes. -/
namespace FieldRules

/-- The minutes of an offset as letters write them: without seconds, rounded down. -/
def Zone.minutes (z : Zone) : Int := (z.offset.tdiv 1000000).fdiv 60

namespace Zone
variable (z : Zone)

/-- The minutes that letters write after the sign: east of Greenwich the seconds are cut off, west of
it the whole seconds are rounded up. -/
def writtenMinutes : Nat :=
  if z.offset < 0 then (z.offset.natAbs / 1000000 + 59) / 60 else z.offset.natAbs / 60000000

theorem writtenMinutes_le : z.writtenMinutes ≤ 1440 := by
  obtain ⟨hl, hu⟩ := z.bounded
  unfold writtenMinutes
  split <;> omega

theorem minutes_eq : z.minutes = if z.offset < 0 then -(z.writtenMinutes : Int) else z.writtenMinutes := by
  have hseconds : (z.offset.tdiv 1000000).natAbs = z.offset.natAbs / 1000000 :=
    Int.natAbs_tdiv z.offset 1000000
  rw [minutes, Int.fdiv_eq_ediv_of_nonneg _ (by decide), writtenMinutes]
  split
  · rename_i hz
    have hnonneg := Int.tdiv_nonneg (Int.neg_nonneg_of_nonpos (Int.le_of_lt hz))
      (show (0 : Int) ≤ 1000000 by decide)
    rw [Int.neg_tdiv] at hnonneg
    omega
  · rename_i hz
    have hnonneg := Int.tdiv_nonneg (Int.not_lt.1 hz) (show (0 : Int) ≤ 1000000 by decide)
    omega

theorem natAbs_minutes : z.minutes.natAbs = z.writtenMinutes := by
  rw [minutes_eq]
  split <;> omega

/-- Flooring can bring an offset to a whole day, which no offset has itself. -/
theorem natAbs_minutes_le : z.minutes.natAbs ≤ 1440 := by
  rw [natAbs_minutes]
  exact z.writtenMinutes_le

end Zone

private theorem Calendar.daysInMonth_le (year month : Nat) : daysInMonth year month ≤ 31 := by
  unfold daysInMonth
  split
  · split <;> decide
  all_goals decide

namespace DateTime
variable (t : DateTime)

theorem month_pos : 0 < t.month := t.valid.2.1.1
theorem month_lt : t.month < 13 := Nat.lt_succ_of_le t.valid.2.1.2
theorem month_pred_lt : t.month - 1 < 12 := Nat.sub_lt_right_of_lt_add t.month_pos t.month_lt
private theorem day_pos : 0 < t.day := t.valid.2.2.1.1
theorem day_lt : t.day < 32 :=
  Nat.lt_succ_of_le (Nat.le_trans t.valid.2.2.1.2 (Calendar.daysInMonth_le t.year t.month))
theorem year_lt : t.year < 10 ^ 4 := Nat.lt_succ_of_le t.valid.1.2
theorem hour_lt : t.hour < 24 := t.valid.2.2.2.1
theorem minute_lt : t.minute < 60 := t.valid.2.2.2.2.1
theorem second_lt : t.second < 60 := t.valid.2.2.2.2.2.1
theorem microsecond_lt : t.microsecond < 10 ^ 6 := t.valid.2.2.2.2.2.2

theorem hour12_bounds : 0 < t.hour12 ∧ t.hour12 < 13 := by
  unfold hour12
  split <;> omega

theorem weekday_lt : t.weekday < 7 := Nat.mod_lt _ (by decide)

end DateTime

namespace Directive

private theorem day_takes : ∀ n < 32, 0 < n →
    takesAlone .day (Decimal.padded 2 n) ∧ takesAlone .day (Decimal.natural n) := by decide

private theorem month_takes : ∀ n < 13, 0 < n →
    takesAlone .month (Decimal.padded 2 n) ∧ takesAlone .month (Decimal.natural n) := by decide

private theorem yearOfCentury_takes : ∀ n < 100, takesAlone .yearOfCentury (Decimal.padded 2 n) := by
  decide

private theorem hour24_takes : ∀ n < 24,
    takesAlone .hour24 (Decimal.padded 2 n) ∧ takesAlone .hour24 (Decimal.natural n) := by decide

private theorem hour12_takes : ∀ n < 13, 0 < n →
    takesAlone .hour12 (Decimal.padded 2 n) ∧ takesAlone .hour12 (Decimal.natural n) := by decide

private theorem minute_takes : ∀ n < 60, takesAlone .minute (Decimal.padded 2 n) := by decide

private theorem second_takes : ∀ n < 60, takesAlone .second (Decimal.padded 2 n) := by decide

private theorem weekday_names : ∀ n < 7,
    ((Calendar.weekdayNames.getD n "").toList.map Char.toLower ∈ names .longWeekday) ∧
      ((Calendar.weekdayNames.getD n "").toList.take 3).map Char.toLower ∈ names .shortWeekday := by
  decide

private theorem month_names : ∀ n < 12,
    ((Calendar.monthNames.getD n "").toList.map Char.toLower ∈ names .longMonth) ∧
      ((Calendar.monthNames.getD n "").toList.take 3).map Char.toLower ∈ names .shortMonth := by
  decide

private theorem year_takes {word : Text} (hw : word.length = 4) (hd : ∀ c ∈ word, c.isDigit)
    (rest : Text) :
    Takes .year word rest := by
  have hform : Form.take? [.anyDigit, .anyDigit, .anyDigit, .anyDigit] (word ++ rest) = some (word, rest) := by
    have h := Form.take?_replicate (s := .anyDigit) (fun c hc => Unicode.isDigit_of_isDigit (hd c hc)) rest
    rwa [hw] at h
  exact ⟨[], by simp [candidates, forms, names, hform]⟩

private theorem microsecond_takes {word : Text} (hw : word.length = 6) (hd : ∀ c ∈ word, c.isDigit)
    (rest : Text) :
    Takes .microsecond word rest := by
  have hform : Form.take? (List.replicate 6 (.digit '0' '9')) (word ++ rest) = some (word, rest) := by
    have h := Form.take?_replicate (s := .digit '0' '9') (fun c hc => hd c hc) rest
    rwa [hw] at h
  obtain ⟨others, ho⟩ : ∃ others, forms .microsecond = List.replicate 6 (.digit '0' '9') :: others :=
    ⟨_, rfl⟩
  exact ⟨_, by rw [candidates, ho, List.filterMap_cons, hform]; rfl⟩

/-- Forms that are longer than the text are not in it. -/
theorem filterMap_take?_eq (forms : List Form) {t : Text} {n : Nat} (hn : t.length ≤ n) :
    forms.filterMap (·.take? t) = (forms.filter (·.length ≤ n)).filterMap (·.take? t) := by
  rw [List.filterMap_filter]
  apply List.filterMap_congr
  intro form _
  split
  · rfl
  · rename_i hlong
    cases h : form.take? t with
    | none => rfl
    | some p =>
      have := Form.length_le_of_take? h
      simp only [decide_eq_true_eq] at hlong
      omega

private theorem offset_takes {sign a b c e : Char} (hs : sign = '+' ∨ sign = '-')
    (ha : Unicode.isDigit a)
    (hb : Unicode.isDigit b) (hc : '0' ≤ c ∧ c ≤ '5') (he : Unicode.isDigit e) :
    Takes .offset [sign, a, b, c, e] [] ∧ Takes .offset [sign, a, b, ':', c, e] [] := by
  have hshort : (forms .offset).filter (·.length ≤ 5) =
      [[.mark '+', .anyDigit, .anyDigit, .digit '0' '5', .anyDigit],
        [.mark '-', .anyDigit, .anyDigit, .digit '0' '5', .anyDigit], [.mark 'Z']] := rfl
  have hlong : (forms .offset).filter (·.length ≤ 6) =
      [[.mark '+', .anyDigit, .anyDigit, .mark ':', .digit '0' '5', .anyDigit],
        [.mark '+', .anyDigit, .anyDigit, .digit '0' '5', .anyDigit],
        [.mark '-', .anyDigit, .anyDigit, .mark ':', .digit '0' '5', .anyDigit],
        [.mark '-', .anyDigit, .anyDigit, .digit '0' '5', .anyDigit], [.mark 'Z']] := rfl
  constructor
  · unfold Takes
    rw [candidates, List.append_nil, filterMap_take?_eq _ (show _ ≤ 5 by simp), hshort]
    rcases hs with rfl | rfl <;> simp [Form.take?, Slot.accepts, ha, hb, hc, he]
  · unfold Takes
    rw [candidates, List.append_nil, filterMap_take?_eq _ (show _ ≤ 6 by simp), hlong]
    rcases hs with rfl | rfl <;> simp [Form.take?, Slot.accepts, ha, hb, hc, he]

end Directive

namespace Letter

theorem isAlpha_char (x : Letter) : x.char.isAlpha := by cases x <;> decide

/-- The letters are exactly those of the table. -/
theorem ofChar?_eq_none_iff {c : Char} : ofChar? c = none ↔ ∀ x : Letter, x.char ≠ c := by
  have hall : ∀ x : Letter, x ∈ all := by
    intro x
    cases x <;> decide
  rw [ofChar?, List.find?_eq_none]
  simp [hall]

def clockDigits (separator : Text) (hours minutes : Nat) : Text :=
  Decimal.padded 2 hours ++ separator ++ Decimal.padded 2 minutes

theorem offsetText_eq_clockDigits {t : DateTime} {z : Zone} (h : t.zone = some z) (separator : Text) :
    offsetText separator t = (if z.minutes < 0 then '-' else '+') ::
      clockDigits separator (z.minutes.natAbs / 60) (z.minutes.natAbs % 60) := by
  simp only [offsetText, h]
  rfl

/-- The sign of an offset, and two digits each of its hours and minutes. -/
theorem offsetText_eq {t : DateTime} {z : Zone} (h : t.zone = some z) (separator : Text) :
    offsetText separator t =
      (if z.minutes < 0 then '-' else '+') :: Nat.digitChar (z.minutes.natAbs / 60 / 10) ::
        Nat.digitChar (z.minutes.natAbs / 60 % 10) :: (separator ++
          [Nat.digitChar (z.minutes.natAbs % 60 / 10), Nat.digitChar (z.minutes.natAbs % 60 % 10)]) := by
  have hle := z.natAbs_minutes_le
  rw [offsetText_eq_clockDigits h, clockDigits, Decimal.padded_two (by omega),
    Decimal.padded_two (by omega)]
  rfl

private theorem isDigit_digitChar : ∀ n < 10, Unicode.isDigit (Nat.digitChar n) := by decide

private theorem digitChar_bounds : ∀ n < 6, '0' ≤ Nat.digitChar n ∧ Nat.digitChar n ≤ '5' := by decide

private theorem offset_takes {t : DateTime} {z : Zone} (h : t.zone = some z) :
    Directive.Takes .offset (offsetText [] t) [] ∧ Directive.Takes .offset (offsetText [':'] t) [] := by
  have hle := z.natAbs_minutes_le
  have hs : (if z.minutes < 0 then '-' else '+') = '+' ∨ (if z.minutes < 0 then '-' else '+') = '-' := by
    split
    · exact .inr rfl
    · exact .inl rfl
  have htakes := Directive.offset_takes hs
    (isDigit_digitChar (z.minutes.natAbs / 60 / 10) (by omega))
    (isDigit_digitChar (z.minutes.natAbs / 60 % 10) (by omega))
    (digitChar_bounds (z.minutes.natAbs % 60 / 10) (by omega))
    (isDigit_digitChar (z.minutes.natAbs % 60 % 10) (by omega))
  rw [offsetText_eq h, offsetText_eq h]
  exact htakes

/-- The part that a letter names takes what the letter writes. Only an offset has to come last. -/
theorem takes (x : Letter) (t : DateTime) {rest : Text} (hr : Halts rest)
    (ho : x.directive = .offset → rest = [] ∧ t.zone.isSome) : x.directive.Takes (x.render t) rest := by
  cases x with
  | d => exact Directive.takes_of_takesAlone (Directive.day_takes t.day t.day_lt t.day_pos).1 hr
  | j => exact Directive.takes_of_takesAlone (Directive.day_takes t.day t.day_lt t.day_pos).2 hr
  | D => exact Directive.takes_name rfl (by decide) (Directive.weekday_names t.weekday t.weekday_lt).2 rest
  | l => exact Directive.takes_name rfl (by decide) (Directive.weekday_names t.weekday t.weekday_lt).1 rest
  | m => exact Directive.takes_of_takesAlone (Directive.month_takes t.month t.month_lt t.month_pos).1 hr
  | n => exact Directive.takes_of_takesAlone (Directive.month_takes t.month t.month_lt t.month_pos).2 hr
  | M => exact Directive.takes_name rfl (by decide) (Directive.month_names _ t.month_pred_lt).2 rest
  | F => exact Directive.takes_name rfl (by decide) (Directive.month_names _ t.month_pred_lt).1 rest
  | Y =>
    exact Directive.year_takes (Decimal.length_padded (by decide) t.year_lt)
      (fun c => Decimal.isDigit_of_mem_padded) rest
  | y =>
    have hlt : t.year % 100 < 100 := Nat.mod_lt _ (by decide)
    exact Directive.takes_of_takesAlone (Directive.yearOfCentury_takes _ hlt) hr
  | H => exact Directive.takes_of_takesAlone (Directive.hour24_takes t.hour t.hour_lt).1 hr
  | G => exact Directive.takes_of_takesAlone (Directive.hour24_takes t.hour t.hour_lt).2 hr
  | h =>
    obtain ⟨hpos, hlt⟩ := t.hour12_bounds
    exact Directive.takes_of_takesAlone (Directive.hour12_takes t.hour12 hlt hpos).1 hr
  | g =>
    obtain ⟨hpos, hlt⟩ := t.hour12_bounds
    exact Directive.takes_of_takesAlone (Directive.hour12_takes t.hour12 hlt hpos).2 hr
  | i => exact Directive.takes_of_takesAlone (Directive.minute_takes t.minute t.minute_lt) hr
  | s => exact Directive.takes_of_takesAlone (Directive.second_takes t.second t.second_lt) hr
  | u =>
    exact Directive.microsecond_takes (Decimal.length_padded (by decide) t.microsecond_lt)
      (fun c => Decimal.isDigit_of_mem_padded) rest
  | A =>
    refine Directive.takes_name rfl (by decide) ?_ rest
    rw [render]
    split <;> decide
  | a =>
    refine Directive.takes_name rfl (by decide) ?_ rest
    rw [render]
    split <;> decide
  | O =>
    obtain ⟨rfl, hz⟩ := ho rfl
    obtain ⟨z, hz⟩ := Option.isSome_iff_exists.1 hz
    exact (offset_takes hz).1
  | P =>
    obtain ⟨rfl, hz⟩ := ho rfl
    obtain ⟨z, hz⟩ := Option.isSome_iff_exists.1 hz
    exact (offset_takes hz).2

end Letter
end FieldRules
