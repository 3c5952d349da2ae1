import FieldRules.Proofs.Date.Letter

/-! What is found in a written date: each letter gives back the part of the date that it names, and
the parts that no letter names are those of the start of 1900. -/
namespace FieldRules

namespace Found

/-- Two digits each for hours and minutes, with a colon between them or without. -/
theorem offsetOf_digits {sign a b c e : Char} {da db dc de : Nat} (ha : Unicode.digit? a = some da)
    (hb : Unicode.digit? b = some db) (hc : Unicode.digit? c = some dc)
    (he : Unicode.digit? e = some de) {separator : Text} (hs : separator = [] ∨ separator = [':']) :
    offsetOf (sign :: a :: b :: (separator ++ [c, e])) =
      some (if sign = '-' then -(((3600 * (10 * da + db) + 60 * (10 * dc + de)) * 1000000 : Nat) : Int)
        else ((3600 * (10 * da + db) + 60 * (10 * dc + de)) * 1000000 : Nat)) := by
  have hcolon : Unicode.digit? ':' = none := by decide
  have hdigits : digitsOf (a :: b :: (separator ++ [c, e])) = [da, db, dc, de] := by
    rcases hs with rfl | rfl <;> simp [digitsOf, ha, hb, hc, he, hcolon]
  have hshort : ¬ (6 ≤ [da, db, dc, de].length ∧
      List.count ':' (a :: b :: (separator ++ [c, e])) = 1) := by simp
  have hclock : 3600 * Decimal.value ([da, db, dc, de].take 2) +
      60 * Decimal.value (([da, db, dc, de].drop 2).take 2) +
        Decimal.value (([da, db, dc, de].drop 4).take 2) =
      3600 * (10 * da + db) + 60 * (10 * dc + de) := by simp [Decimal.value]
  have hfraction : Decimal.value ([da, db, dc, de].drop 6 ++
      List.replicate (6 - ([da, db, dc, de].drop 6).length) 0) = 0 := rfl
  simp only [offsetOf, hdigits, if_neg hshort, hclock, hfraction, Int.natCast_mul,
    Int.natCast_zero, Int.add_zero]
  rfl

private theorem digit?_digitChar : ∀ n < 10, Unicode.digit? (Nat.digitChar n) = some n := by decide

/-- The minutes of an offset come back, without what was cut off. -/
theorem offsetOf_offsetText {t : DateTime} {z : Zone} (h : t.zone = some z) {separator : Text}
    (hs : separator = [] ∨ separator = [':']) :
    offsetOf (Letter.offsetText separator t) = some (z.minutes * 60000000) := by
  have hle := z.natAbs_minutes_le
  rw [Letter.offsetText_eq h, offsetOf_digits
    (digit?_digitChar (z.minutes.natAbs / 60 / 10) (by omega))
    (digit?_digitChar (z.minutes.natAbs / 60 % 10) (by omega))
    (digit?_digitChar (z.minutes.natAbs % 60 / 10) (by omega))
    (digit?_digitChar (z.minutes.natAbs % 60 % 10) (by omega)) hs, Option.some_inj]
  by_cases hm : z.minutes < 0
  · simp only [hm, if_true]
    omega
  · have hplus : ¬ '+' = '-' := by decide
    simp only [hm, if_false, hplus]
    omega

private theorem weekday_index : ∀ n < 7,
    nameIndex .longWeekday (Calendar.weekdayNames.getD n "").toList = n ∧
      nameIndex .shortWeekday ((Calendar.weekdayNames.getD n "").toList.take 3) = n := by decide

private theorem month_index : ∀ n < 12,
    nameIndex .longMonth (Calendar.monthNames.getD n "").toList = n ∧
      nameIndex .shortMonth ((Calendar.monthNames.getD n "").toList.take 3) = n := by decide

end Found

namespace Letter

def note (t : DateTime) (afternoon : Bool) (f : Found) : Letter → Found
  | .d | .j => { f with day := t.day }
  | .D | .l => { f with weekday := some t.weekday }
  | .m | .n | .M | .F => { f with month := t.month }
  | .Y => { f with year := some t.year }
  | .y => { f with year := some (Found.fullYear (t.year % 100)) }
  | .H | .G => { f with hour := t.hour }
  | .h | .g => { f with hour := Found.hourOfHalfDay t.hour12 afternoon }
  | .i => { f with minute := t.minute }
  | .s => { f with second := t.second }
  | .u => { f with microsecond := t.microsecond }
  | .A | .a => f
  | .O | .P => { f with offset := some (t.zone.map fun z => z.minutes * 60000000) }

private theorem offsetOf_offsetText (t : DateTime) {separator : Text}
    (hs : separator = [] ∨ separator = [':']) :
    Found.offsetOf (offsetText separator t) = t.zone.map fun z => z.minutes * 60000000 := by
  cases hz : t.zone with
  | none =>
    rw [offsetText, hz]
    rfl
  | some z => exact Found.offsetOf_offsetText hz hs

/-- What is found in a written part is what the letter says of the time. -/
theorem add_render (x : Letter) (t : DateTime) (afternoon : Bool) (f : Found) :
    Found.add afternoon f (x.directive, x.render t) = note t afternoon f x := by
  cases x with
  | d | m | H | i | s => simp only [directive, render, Found.add, note, Found.numberOf_padded]
  | j | n | G => simp only [directive, render, Found.add, note, Found.numberOf_natural]
  | h | Y | y => simp only [directive, render, Found.add, note, Found.numberOf_padded]
  | g => simp only [directive, render, Found.add, note, Found.numberOf_natural]
  | D =>
    have hi := (Found.weekday_index t.weekday t.weekday_lt).2
    simp only [directive, render, Found.add, note, DateTime.weekdayName, hi]
  | l =>
    have hi := (Found.weekday_index t.weekday t.weekday_lt).1
    simp only [directive, render, Found.add, note, DateTime.weekdayName, hi]
  | M =>
    have hi := (Found.month_index _ t.month_pred_lt).2
    simp only [directive, render, Found.add, note, DateTime.monthName, hi, Nat.sub_add_cancel t.month_pos]
  | F =>
    have hi := (Found.month_index _ t.month_pred_lt).1
    simp only [directive, render, Found.add, note, DateTime.monthName, hi, Nat.sub_add_cancel t.month_pos]
  | u =>
    have hlen := Decimal.length_padded (by decide) t.microsecond_lt
    have hscale : Nat.pow 10 (6 - 6) = 1 := rfl
    simp only [directive, render, Found.add, note, Found.numberOf_padded, hlen, hscale, Nat.mul_one]
  | A | a => rfl
  | O => simp only [directive, render, Found.add, note, offsetOf_offsetText t (.inl rfl)]
  | P => simp only [directive, render, Found.add, note, offsetOf_offsetText t (.inr rfl)]

section Parts
variable {α : Type} {v : α} {t : DateTime} {afternoon : Bool} {xs : List Letter}

/-- A part of what is found has a value if every letter that names it gives it that value, the other
letters leave it alone, and it has the value from the start where no letter names it. -/
theorem foldl_note (part : Found → α) (named : Letter → Prop)
    (hset : ∀ x ∈ xs, named x → ∀ f, part (note t afternoon f x) = v)
    (hkeep : ∀ x, ¬ named x → ∀ f, part (note t afternoon f x) = part f) {f : Found}
    (hnone : (∀ x ∈ xs, ¬ named x) → part f = v) : part (xs.foldl (note t afternoon) f) = v := by
  induction xs generalizing f with
  | nil => exact hnone (by simp)
  | cons x xs ih =>
    rw [List.foldl_cons]
    apply ih fun z hz => hset z (List.mem_cons_of_mem x hz)
    intro hrest
    by_cases hx : named x
    · exact hset x List.mem_cons_self hx f
    · rw [hkeep x hx f]
      apply hnone
      intro z hz
      rcases List.mem_cons.1 hz with rfl | hz
      · exact hx
      · exact hrest z hz

/-- A part that one letter names. -/
theorem foldl_note_one (part : Found → α) (x : Letter) (hset : ∀ f, part (note t afternoon f x) = v)
    (hkeep : ∀ z, z ≠ x → ∀ f, part (note t afternoon f z) = part f) (f : Found) :
    part (xs.foldl (note t afternoon) f) = if x ∈ xs then v else part f := by
  apply foldl_note part (· = x) _ hkeep
  · intro hx
    rw [if_neg fun hm => hx x hm rfl]
  · rintro z hz rfl f'
    rw [if_pos hz, hset]

/-- A part that no letter names. -/
theorem foldl_note_none (part : Found → α) (hkeep : ∀ x f, part (note t afternoon f x) = part f)
    (f : Found) : part (xs.foldl (note t afternoon) f) = part f :=
  foldl_note part (fun _ => False) (fun _ _ hx => hx.elim) (fun x _ => hkeep x) fun _ => rfl

end Parts

/-- The year that is read: two digits stand for one of 1969 to 2068. -/
def yearRead (xs : List Letter) (t : DateTime) : Nat :=
  if .Y ∈ xs then t.year else Found.fullYear (t.year % 100)

/-- The hour that is read: on a clock of twelve hours that of the morning, if the half of the day is
not given, and midnight without any hour. -/
def hourRead (xs : List Letter) (t : DateTime) : Nat :=
  if .H ∈ xs ∨ .G ∈ xs then t.hour
  else if .h ∈ xs ∨ .g ∈ xs then if .A ∈ xs ∨ .a ∈ xs then t.hour else t.hour % 12
  else 0

/-- The zone that is read, if there is such a zone: one of whole minutes, or none. -/
def zoneRead (xs : List Letter) (t : DateTime) : Option (Option Zone) :=
  if .O ∈ xs ∨ .P ∈ xs then
    t.zone.bind fun z => (Zone.make? (z.minutes * 60000000) none).map some
  else some none

private theorem isAfternoon_render (xs : List Letter) (t : DateTime) :
    Found.isAfternoon (xs.map fun x => (x.directive, x.render t)) =
      (decide (.A ∈ xs ∨ .a ∈ xs) && decide (12 ≤ t.hour)) := by
  induction xs with
  | nil => rfl
  | cons x xs ih =>
    by_cases hx : x.directive = .halfDay
    · have hword : Found.nameIndex .halfDay (x.render t) = if t.hour < 12 then 0 else 1 := by
        cases x with
        | A | a => simp only [render]; split <;> decide
        | _ => cases hx
      have hgiven : .A ∈ x :: xs ∨ .a ∈ x :: xs := by
        cases x with
        | A | a => simp
        | _ => cases hx
      simp only [Found.isAfternoon, List.map_cons, List.lookup_cons, hx, beq_self_eq_true, hword, hgiven,
        decide_true, Bool.true_and]
      by_cases ht : t.hour < 12
      · simp [ht]
      · simp [ht, Nat.le_of_not_lt ht]
    · have hne : (Directive.halfDay == x.directive) = false := by simpa using Ne.symm hx
      have hsame : (.A ∈ x :: xs ∨ .a ∈ x :: xs) ↔ (.A ∈ xs ∨ .a ∈ xs) := by
        cases x with
        | A | a => exact absurd rfl hx
        | _ => simp
      rw [decide_eq_decide.2 hsame, ← ih]
      simp only [Found.isAfternoon, List.map_cons, List.lookup_cons, hne]

private theorem hourOfHalfDay_hour12 (t : DateTime) (given : Bool) :
    Found.hourOfHalfDay t.hour12 (given && decide (12 ≤ t.hour)) =
      if given then t.hour else t.hour % 12 := by
  have hlt := t.hour_lt
  unfold Found.hourOfHalfDay DateTime.hour12
  cases given with
  | false =>
    simp only [Bool.false_and, Bool.false_eq_true, if_false]
    split <;> split <;> omega
  | true =>
    simp only [Bool.true_and, decide_eq_true_eq, if_true]
    split <;> split <;> split <;> omega

def isHour (x : Letter) : Bool := x.directive = .hour24 || x.directive = .hour12

/-- Letters that name each part of a date once at most, and of the date all parts. The half of the
day goes with an hour. -/
structure Definite (xs : List Letter) : Prop where
  distinct : (xs.map directive).Nodup
  year : .Y ∈ xs ↔ .y ∉ xs
  month : .m ∈ xs ∨ .n ∈ xs ∨ .M ∈ xs ∨ .F ∈ xs
  day : .d ∈ xs ∨ .j ∈ xs
  hour : ∀ x ∈ xs, ∀ z ∈ xs, x.isHour → z.isHour → x = z
  half : .A ∈ xs ∨ .a ∈ xs → ∃ x ∈ xs, x.isHour

end Letter

structure Found.Recalls (xs : List Letter) (t : DateTime) (f : Found) : Prop where
  year : f.year = some (Letter.yearRead xs t)
  month : f.month = t.month
  day : f.day = t.day
  hour : f.hour = Letter.hourRead xs t
  minute : f.minute = if .i ∈ xs then t.minute else 0
  second : f.second = if .s ∈ xs then t.second else 0
  microsecond : f.microsecond = if .u ∈ xs then t.microsecond else 0
  offset : f.offset =
    if .O ∈ xs ∨ .P ∈ xs then some (t.zone.map fun z => z.minutes * 60000000) else none
  others : f.dayOfYear = none ∧ f.isoYear = none ∧ f.isoWeek = none ∧ f.week = none ∧ f.zoneName = none

namespace Letter

private theorem recalls_foldl_note {xs : List Letter} (h : Definite xs) (t : DateTime) :
    Found.Recalls xs t
      (xs.foldl (note t (decide (.A ∈ xs ∨ .a ∈ xs) && decide (12 ≤ t.hour))) {}) where
  year := by
    apply foldl_note Found.year fun x => x = .Y ∨ x = .y
    · rintro x hx (rfl | rfl) f
      · simp [note, yearRead, hx]
      · have hY : .Y ∉ xs := fun hY => h.year.1 hY hx
        simp [note, yearRead, hY]
    · intro x hx f
      cases x <;> first | rfl | simp at hx
    · intro hx
      by_cases hY : .Y ∈ xs
      · exact absurd (.inl rfl) (hx .Y hY)
      · exact absurd (.inr rfl) (hx .y (by_contra fun hy => hY (h.year.2 hy)))
  month := by
    apply foldl_note Found.month fun x => x = .m ∨ x = .n ∨ x = .M ∨ x = .F
    · rintro x - (rfl | rfl | rfl | rfl) f <;> rfl
    · intro x hx f
      cases x <;> first | rfl | simp at hx
    · intro hx
      rcases h.month with hm | hm | hm | hm <;> exact absurd (by simp) (hx _ hm)
  day := by
    apply foldl_note Found.day fun x => x = .d ∨ x = .j
    · rintro x - (rfl | rfl) f <;> rfl
    · intro x hx f
      cases x <;> first | rfl | simp at hx
    · intro hx
      rcases h.day with hm | hm <;> exact absurd (by simp) (hx _ hm)
  hour := by
    have hhalf := hourOfHalfDay_hour12 t (decide (.A ∈ xs ∨ .a ∈ xs))
    simp only [decide_eq_true_eq] at hhalf
    apply foldl_note Found.hour fun x => x.isHour
    · intro x hx hh f
      have honly : ∀ z, z.isHour → z ≠ x → z ∉ xs := fun z hz hne hm => hne (h.hour z hm x hx hz hh)
      cases x with
      | H => rw [hourRead, if_pos (.inl hx)]; rfl
      | G => rw [hourRead, if_pos (.inr hx)]; rfl
      | h =>
        rw [hourRead, if_neg (by simp [honly .H, honly .G, isHour, directive]), if_pos (.inl hx)]
        exact hhalf
      | g =>
        rw [hourRead, if_neg (by simp [honly .H, honly .G, isHour, directive]), if_pos (.inr hx)]
        exact hhalf
      | _ => cases hh
    · intro x hx f
      cases x <;> first | rfl | exact absurd rfl hx
    · intro hx
      have hnone : ∀ x, x.isHour → x ∉ xs := fun x hh hm => hx x hm hh
      simp [hourRead, hnone .H rfl, hnone .G rfl, hnone .h rfl, hnone .g rfl]
  minute := foldl_note_one Found.minute .i (fun _ => rfl)
    (fun x hx f => by cases x <;> first | rfl | exact absurd rfl hx) _
  second := foldl_note_one Found.second .s (fun _ => rfl)
    (fun x hx f => by cases x <;> first | rfl | exact absurd rfl hx) _
  microsecond := foldl_note_one Found.microsecond .u (fun _ => rfl)
    (fun x hx f => by cases x <;> first | rfl | exact absurd rfl hx) _
  offset := by
    apply foldl_note Found.offset fun x => x = .O ∨ x = .P
    · rintro x hx (rfl | rfl) f
      · rw [if_pos (.inl hx)]
        rfl
      · rw [if_pos (.inr hx)]
        rfl
    · intro x hx f
      cases x <;> first | rfl | simp at hx
    · intro hx
      rw [if_neg]
      rintro (hm | hm) <;> exact absurd (by simp) (hx _ hm)
  others := by
    refine ⟨?_, ?_, ?_, ?_, ?_⟩
    · exact foldl_note_none Found.dayOfYear (fun x f => by cases x <;> rfl) _
    · exact foldl_note_none Found.isoYear (fun x f => by cases x <;> rfl) _
    · exact foldl_note_none Found.isoWeek (fun x f => by cases x <;> rfl) _
    · exact foldl_note_none Found.week (fun x f => by cases x <;> rfl) _
    · exact foldl_note_none Found.zoneName (fun x f => by cases x <;> rfl) _

/-- What is captured of the words of letters. -/
theorem recalls_ofCaptures {xs : List Letter} (h : Definite xs) (t : DateTime) :
    Found.Recalls xs t (Found.ofCaptures (xs.map fun x => (x.directive, x.render t))) := by
  have hadd : ∀ afternoon, (fun (f : Found) (x : Letter) =>
      Found.add afternoon f (x.directive, x.render t)) = note t afternoon := by
    intro afternoon
    funext f x
    exact add_render x t afternoon f
  rw [Found.ofCaptures, isAfternoon_render, List.foldl_map, hadd]
  exact recalls_foldl_note h t

end Letter

namespace Found

/-- With a year and without a numbered week or day the date is that of year, month and day. -/
theorem dateTime?_of_year {f : Found} {year : Nat} (hy : f.year = some year)
    (h : f.dayOfYear = none ∧ f.isoYear = none ∧ f.isoWeek = none ∧ f.week = none ∧ f.zoneName = none) :
    f.dateTime? = f.zone?.bind fun zone =>
      DateTime.make? year f.month f.day f.hour f.minute f.second f.microsecond zone := by
  obtain ⟨hday, hiso, hweek, hw, -⟩ := h
  have hconsistent : f.isoConsistent = true := by simp [isoConsistent, hy, hweek]
  have hyear : f.yearAndDay year = some (year, none) := by
    unfold yearAndDay
    rw [hday, hw, hiso]
    cases f.weekday <;> rfl
  have hdate : f.date? (f.year.getD f.assumedYear) =
      if 1 ≤ year ∧ 1 ≤ f.day ∧ f.day ≤ Calendar.daysInMonth year f.month then
        some (year, f.month, f.day) else none := by
    rw [hy, Option.getD_some, date?, hyear]
  rw [dateTime?, if_pos hconsistent, hdate]
  by_cases hd : 1 ≤ year ∧ 1 ≤ f.day ∧ f.day ≤ Calendar.daysInMonth year f.month
  · rw [if_pos hd]
    cases f.zone? <;> simp [hy]
  · -- the date that is not there cannot be made either
    have hmake : ∀ zone, DateTime.make? year f.month f.day f.hour f.minute f.second f.microsecond zone =
        none := by
      intro zone
      rw [DateTime.make?, dif_neg]
      rintro ⟨⟨hyear, -⟩, -, hday, -⟩
      exact hd ⟨hyear, hday⟩
    rw [if_neg hd]
    cases f.zone? <;> simp [hmake]

/-- The zone found is the one the letters kept, its name lost. -/
theorem Recalls.zone?_eq {xs : List Letter} {t : DateTime} {f : Found} (h : Recalls xs t f) :
    f.zone? = Letter.zoneRead xs t := by
  obtain ⟨-, -, -, -, hname⟩ := h.others
  rw [zone?, h.offset, hname, Letter.zoneRead]
  by_cases ho : .O ∈ xs ∨ .P ∈ xs
  · rw [if_pos ho, if_pos ho]
    cases t.zone <;> rfl
  · rw [if_neg ho, if_neg ho]

end Found
end FieldRules
