import FieldRules.Proofs.Date.Found
import FieldRules.Proofs.Date.Pattern

/-! The texts that have a date format are those that the format writes, and what it writes is read
back: a text with the format is what is written for the date that it is read as. -/
namespace FieldRules

private theorem DateTime.make?_eq_some_iff {year month day hour minute second microsecond : Nat}
    {zone : Option Zone} {t : DateTime} :
    make? year month day hour minute second microsecond zone = some t ↔
      t.year = year ∧ t.month = month ∧ t.day = day ∧ t.hour = hour ∧ t.minute = minute ∧
        t.second = second ∧ t.microsecond = microsecond ∧ t.zone = zone := by
  unfold make?
  constructor
  · intro h
    split at h
    · cases h
      exact ⟨rfl, rfl, rfl, rfl, rfl, rfl, rfl, rfl⟩
    · cases h
  · rintro ⟨rfl, rfl, rfl, rfl, rfl, rfl, rfl, rfl⟩
    rw [dif_pos t.valid]

theorem Zone.make?_eq_some_iff {offset : Int} {name : Option Text} {z : Zone} :
    make? offset name = some z ↔ z.offset = offset ∧ z.name = name := by
  unfold make?
  constructor
  · intro h
    split at h
    · cases h
      exact ⟨rfl, rfl⟩
    · cases h
  · rintro ⟨rfl, rfl⟩
    rw [dif_pos z.bounded]

namespace Found

private theorem zone?_of_dateTime? {f : Found} {t : DateTime} (h : f.dateTime? = some t) :
    f.zone? = some t.zone := by
  unfold dateTime? at h
  split at h
  · split at h
    · rename_i zone _ hz
      obtain ⟨-, -, -, -, -, -, -, rfl⟩ := DateTime.make?_eq_some_iff.1 h
      exact hz
    · cases h
  · cases h

private theorem offset_foldl_add (afternoon : Bool) {captures : Pattern.Captures} {f : Found}
    (h : f.offset.isSome ∨ .offset ∈ captures.map Prod.fst) :
    (captures.foldl (add afternoon) f).offset.isSome := by
  induction captures generalizing f with
  | nil => simpa using h
  | cons capture captures ih =>
    obtain ⟨d, word⟩ := capture
    apply ih
    rcases h with h | h
    · left
      cases d <;> first | exact h | rfl
    · rcases List.mem_cons.1 h with rfl | h
      · exact .inl rfl
      · exact .inr h

/-- A captured offset gives a zone. -/
theorem isSome_zone {captures : Pattern.Captures} {t : DateTime}
    (h : (ofCaptures captures).dateTime? = some t) (ho : .offset ∈ captures.map Prod.fst) :
    t.zone.isSome := by
  have hz := zone?_of_dateTime? h
  have hsome : (captures.foldl (add (isAfternoon captures)) {}).offset.isSome :=
    offset_foldl_add _ (.inr ho)
  obtain ⟨offset, hoffset⟩ := Option.isSome_iff_exists.1 hsome
  rw [zone?, ofCaptures, hoffset] at hz
  cases offset with
  | none => cases hz
  | some o =>
    obtain ⟨z, -, hz⟩ := Option.map_eq_some_iff.1 hz
    rw [← hz]
    rfl

/-- Years of two digits stand for 1969 to 2068. -/
private theorem fullYear_mod {year : Nat} (h : 1969 ≤ year ∧ year ≤ 2068) :
    fullYear (year % 100) = year := by
  unfold fullYear
  split <;> omega

private theorem fullYear_bounds {n : Nat} (h : n < 100) : 1969 ≤ fullYear n ∧ fullYear n ≤ 2068 := by
  unfold fullYear
  split <;> omega

end Found

private theorem Zone.minutes_mul {z : Zone} (h : 60000000 ∣ z.offset) :
    z.minutes * 60000000 = z.offset := by
  obtain ⟨k, hk⟩ := h
  have hseconds : z.offset.tdiv 1000000 = 60 * k := by
    rw [hk, show (60000000 : Int) * k = 1000000 * (60 * k) by omega]
    exact Int.mul_tdiv_cancel_left _ (by decide)
  rw [minutes, hseconds, Int.mul_fdiv_cancel_left _ (by decide), hk]
  omega

namespace Letter
variable {xs : List Letter} {t t' : DateTime}

private theorem eq_of_directive_offset {x : Letter} (h : x.directive = .offset) : x = .O ∨ x = .P := by
  cases x <;> first | exact .inl rfl | exact .inr rfl | cases h

private theorem hourRead_lt (xs : List Letter) (t : DateTime) : hourRead xs t < 24 := by
  have hlt := t.hour_lt
  unfold hourRead
  split
  · exact hlt
  · split
    · split <;> omega
    · decide

private theorem mem_of_isHour {x : Letter} (hx : x ∈ xs) (hh : x.isHour) :
    (.H ∈ xs ∨ .G ∈ xs) ∨ .h ∈ xs ∨ .g ∈ xs := by
  cases x with
  | H => exact .inl (.inl hx)
  | G => exact .inl (.inr hx)
  | h => exact .inr (.inl hx)
  | g => exact .inr (.inr hx)
  | _ => cases hh

/-- With the half of the day the hour is read as it was. -/
theorem hourRead_of_half (hd : Definite xs) (h : .A ∈ xs ∨ .a ∈ xs) : hourRead xs t = t.hour := by
  obtain ⟨x, hx, hh⟩ := hd.half h
  unfold hourRead
  rcases mem_of_isHour hx hh with hhour | hhour
  · rw [if_pos hhour]
  · rw [if_pos hhour, if_pos h]
    split <;> rfl

private theorem hourRead_mod {x : Letter} (hx : x ∈ xs) (hh : x.isHour) :
    hourRead xs t % 12 = t.hour % 12 := by
  unfold hourRead
  rcases mem_of_isHour hx hh with hhour | hhour
  · rw [if_pos hhour]
  · rw [if_pos hhour]
    split
    · rfl
    · split
      · rfl
      · exact Nat.mod_mod _ _

private theorem hour12_congr (h : t'.hour % 12 = t.hour % 12) : t'.hour12 = t.hour12 := by
  rw [DateTime.hour12, DateTime.hour12, h]

private theorem offsetText_congr (h : t'.zone.map Zone.offset = t.zone.map Zone.offset)
    (separator : Text) :
    offsetText separator t' = offsetText separator t := by
  unfold offsetText
  cases hz : t.zone with
  | none =>
    rw [hz, Option.map_none, Option.map_eq_none_iff] at h
    rw [h]
  | some z =>
    rw [hz, Option.map_some] at h
    obtain ⟨z', hz', ho⟩ := Option.map_eq_some_iff.1 h
    simp only [hz', ho]

end Letter

namespace DateFormat

/-- Letters that name a date and each part of it once at most, kept apart by characters that are no
digits, an offset at the end. -/
structure Unambiguous (ps : List Piece) : Prop where
  definite : Letter.Definite (letters ps)
  apart : ps.IsChain MayFollow

/-- A point in time of which the letters can say enough: of the years that two digits stand for, and
with an offset of whole minutes, if such letters are there. -/
structure Writable (ps : List Piece) (t : DateTime) : Prop where
  century : .y ∈ letters ps → 1969 ≤ t.year ∧ t.year ≤ 2068
  zone : .O ∈ letters ps ∨ .P ∈ letters ps → ∃ z, t.zone = some z ∧ 60000000 ∣ z.offset

/-- The date agrees, and so does what the letters name of the rest. What they do not name is nothing,
and of an hour of twelve without its half of the day that of the morning. -/
structure ReadsAs (ps : List Piece) (t t' : DateTime) : Prop where
  date : t'.year = t.year ∧ t'.month = t.month ∧ t'.day = t.day
  hour : t'.hour = Letter.hourRead (letters ps) t
  minute : t'.minute = if .i ∈ letters ps then t.minute else 0
  second : t'.second = if .s ∈ letters ps then t.second else 0
  microsecond : t'.microsecond = if .u ∈ letters ps then t.microsecond else 0
  offset : t'.zone.map Zone.offset =
    if .O ∈ letters ps ∨ .P ∈ letters ps then t.zone.map Zone.offset else none

variable {pattern : Text} {ps : List Piece}

theorem percent_notMem_of_ofPattern (h : ofPattern pattern = .ok (.lettered pattern ps)) :
    Sum.inr '%' ∉ ps := by
  have hplain : '%' ∉ pattern := by
    intro hm
    rw [ofPattern, if_pos (by simpa using hm)] at h
    cases h
  obtain ⟨qs, hqs, heq⟩ := (ofPattern_eq_ok_iff hplain).1 h
  cases heq
  exact percent_notMem hqs hplain

private theorem redefinition?_itemsOf (hu : Unambiguous ps) :
    Pattern.redefinition? (itemsOf ps) = none := by
  rw [Pattern.redefinition?_eq_none_iff, directives_of_itemsOf]
  exact hu.definite.distinct

/-- A text is read by a match of all of it that names a point in time. -/
theorem read_eq_ok_iff (h : ofPattern pattern = .ok (.lettered pattern ps)) (hu : Unambiguous ps)
    {text : Text} {t : DateTime} :
    (lettered pattern ps).read text = .ok t ↔
      ∃ found, Pattern.fit? (itemsOf ps) text = some (found, []) ∧
        (Found.ofCaptures found).dateTime? = some t := by
  simp only [read, directives, Pattern.read, items?_directives (percent_notMem_of_ofPattern h),
    redefinition?_itemsOf hu]
  rcases Pattern.fit? (itemsOf ps) text with _ | ⟨found, _ | ⟨c, rest⟩⟩
  · simp
  · cases hd : (Found.ofCaptures found).dateTime? <;> simp [hd]
  · simp

/-- No part is named twice, so that a text that is not read does not fit. -/
theorem read_ne_repeated (h : ofPattern pattern = .ok (.lettered pattern ps)) (hu : Unambiguous ps)
    (text : Text) (again : Redefinition) :
    (lettered pattern ps).read text ≠ .error (.repeated again) := by
  simp only [read, directives, Pattern.read, items?_directives (percent_notMem_of_ofPattern h),
    redefinition?_itemsOf hu]
  split
  · split <;> simp
  · simp

/-- What is written for a date is read as the year, month, day, time and zone that its letters say. -/
theorem read_written_iff (h : ofPattern pattern = .ok (.lettered pattern ps)) (hu : Unambiguous ps)
    {t t' : DateTime} (hz : ∀ x ∈ letters ps, x.directive = .offset → t.zone.isSome) :
    (lettered pattern ps).read ((lettered pattern ps).render t) = .ok t' ↔
      Letter.zoneRead (letters ps) t = some t'.zone ∧
      t'.year = Letter.yearRead (letters ps) t ∧ t'.month = t.month ∧ t'.day = t.day ∧
      t'.hour = Letter.hourRead (letters ps) t ∧
      t'.minute = (if .i ∈ letters ps then t.minute else 0) ∧
      t'.second = (if .s ∈ letters ps then t.second else 0) ∧
      t'.microsecond = if .u ∈ letters ps then t.microsecond else 0 := by
  have hfit := fit?_itemsOf hu.apart hz [] (by simp) (by simp)
  have hr := Letter.recalls_ofCaptures hu.definite t
  have hdate := Found.dateTime?_of_year hr.year hr.others
  rw [hr.zone?_eq, hr.month, hr.day, hr.hour, hr.minute, hr.second, hr.microsecond] at hdate
  rw [List.nil_append] at hfit
  have hread : (lettered pattern ps).read ((lettered pattern ps).render t) = .ok t' ↔
      (Found.ofCaptures (captures ps t)).dateTime? = some t' := by
    rw [read_eq_ok_iff h hu, render, hfit]
    simp
  rw [hread, captures, hdate, Option.bind_eq_some_iff]
  simp only [DateTime.make?_eq_some_iff]
  constructor
  · rintro ⟨zone, hzone, hy, hmo, hd, hh, hmi, hs, hus, rfl⟩
    exact ⟨hzone, hy, hmo, hd, hh, hmi, hs, hus⟩
  · rintro ⟨hzone, hy, hmo, hd, hh, hmi, hs, hus⟩
    exact ⟨t'.zone, hzone, hy, hmo, hd, hh, hmi, hs, hus, rfl⟩

private theorem yearRead_eq (hu : Unambiguous ps) {t : DateTime} (hw : Writable ps t) :
    Letter.yearRead (letters ps) t = t.year := by
  unfold Letter.yearRead
  split
  · rfl
  · rename_i hY
    have hy : .y ∈ letters ps := by_contra fun hy => hY (hu.definite.year.2 hy)
    exact Found.fullYear_mod (hw.century hy)

private theorem zoneRead_eq {t : DateTime} (hw : Writable ps t) :
    ∃ zone, Letter.zoneRead (letters ps) t = some zone ∧
      zone.map Zone.offset = if .O ∈ letters ps ∨ .P ∈ letters ps then t.zone.map Zone.offset else none := by
  unfold Letter.zoneRead
  by_cases ho : .O ∈ letters ps ∨ .P ∈ letters ps
  · obtain ⟨z, hz, hd⟩ := hw.zone ho
    refine ⟨some ⟨z.offset, none, z.bounded⟩, ?_, ?_⟩
    · rw [if_pos ho, hz, Option.bind_some, Zone.minutes_mul hd, Zone.make?, dif_pos z.bounded]
      rfl
    · rw [if_pos ho, hz]
      rfl
  · exact ⟨none, by rw [if_neg ho], by rw [if_neg ho]; rfl⟩

/-- What is written for a date is read, and the date agrees as far as it was written. -/
theorem exists_read_written (h : ofPattern pattern = .ok (.lettered pattern ps)) (hu : Unambiguous ps)
    {t : DateTime} (hw : Writable ps t) :
    ∃ t', (lettered pattern ps).read ((lettered pattern ps).render t) = .ok t' ∧ ReadsAs ps t t' := by
  have hz : ∀ x ∈ letters ps, x.directive = .offset → t.zone.isSome := by
    intro x hx ho
    have hmem : .O ∈ letters ps ∨ .P ∈ letters ps := by
      rcases Letter.eq_of_directive_offset ho with rfl | rfl
      · exact .inl hx
      · exact .inr hx
    obtain ⟨z, hz, -⟩ := hw.zone hmem
    rw [hz]
    rfl
  obtain ⟨zone, hzone, hoffset⟩ := zoneRead_eq hw
  obtain ⟨hyear, hmonth, hday, hhour, hminute, hsecond, hmicro⟩ := t.valid
  let t' : DateTime :=
    { year := t.year
      month := t.month
      day := t.day
      hour := Letter.hourRead (letters ps) t
      minute := if .i ∈ letters ps then t.minute else 0
      second := if .s ∈ letters ps then t.second else 0
      microsecond := if .u ∈ letters ps then t.microsecond else 0
      zone := zone
      valid := by
        refine ⟨hyear, hmonth, hday, Letter.hourRead_lt _ t, ?_, ?_, ?_⟩ <;> split <;> omega }
  refine ⟨t', (read_written_iff h hu hz).2 ⟨hzone, (yearRead_eq hu hw).symm, rfl, rfl, rfl, rfl, rfl, rfl⟩, ?_⟩
  exact ⟨⟨rfl, rfl, rfl⟩, rfl, rfl, rfl, rfl, hoffset⟩

/-- A letter writes the same for a date that agrees as far as the letters say. -/
theorem render_letter_eq (hu : Unambiguous ps) {t t' : DateTime} (hr : ReadsAs ps t t') {x : Letter}
    (hx : x ∈ letters ps) : x.render t' = x.render t := by
  obtain ⟨hyear, hmonth, hday⟩ := hr.date
  have hweekday : t'.weekdayName = t.weekdayName := by
    simp only [DateTime.weekdayName, DateTime.weekday, DateTime.dayNumber, hyear, hmonth, hday]
  have hname : t'.monthName = t.monthName := by simp only [DateTime.monthName, hmonth]
  have hhour : t'.hour = Letter.hourRead (letters ps) t := hr.hour
  have hclock : x.isHour → t'.hour12 = t.hour12 := by
    intro hh
    apply Letter.hour12_congr
    rw [hhour, Letter.hourRead_mod hx hh]
  have hoffset : x = .O ∨ x = .P → t'.zone.map Zone.offset = t.zone.map Zone.offset := by
    intro ho
    rw [hr.offset, if_pos]
    rcases ho with rfl | rfl
    · exact .inl hx
    · exact .inr hx
  cases x with
  | d | j => simp only [Letter.render, hday]
  | D | l => simp only [Letter.render, hweekday]
  | m | n => simp only [Letter.render, hmonth]
  | M | F => simp only [Letter.render, hname]
  | Y | y => simp only [Letter.render, hyear]
  | H => rw [Letter.render, hhour, Letter.hourRead, if_pos (.inl hx), Letter.render]
  | G => rw [Letter.render, hhour, Letter.hourRead, if_pos (.inr hx), Letter.render]
  | h | g => rw [Letter.render, hclock rfl, Letter.render]
  | i => rw [Letter.render, hr.minute, if_pos hx, Letter.render]
  | s => rw [Letter.render, hr.second, if_pos hx, Letter.render]
  | u => rw [Letter.render, hr.microsecond, if_pos hx, Letter.render]
  | A => rw [Letter.render, hhour, Letter.hourRead_of_half hu.definite (.inl hx), Letter.render]
  | a => rw [Letter.render, hhour, Letter.hourRead_of_half hu.definite (.inr hx), Letter.render]
  | O => exact Letter.offsetText_congr (hoffset (.inl rfl)) []
  | P => exact Letter.offsetText_congr (hoffset (.inr rfl)) [':']

/-- Two times that read alike are written alike, so what is lost in reading is not seen in writing. -/
private theorem render_eq_of_readsAs (hu : Unambiguous ps) {t t' : DateTime} (hr : ReadsAs ps t t') :
    (lettered pattern ps).render t' = (lettered pattern ps).render t := by
  have hpiece : ∀ p ∈ ps, renderPiece t' p = renderPiece t p := by
    rintro (x | c) hp
    · exact render_letter_eq hu hr (List.mem_filterMap.2 ⟨.inl x, hp, rfl⟩)
    · rfl
  exact List.flatMap_congr hpiece

/-- A date that is read from what is written for it can be written: its year is that of its two
digits, and its offset that of its minutes. -/
theorem writable_of_read (h : ofPattern pattern = .ok (.lettered pattern ps)) (hu : Unambiguous ps)
    {t : DateTime} (hread : (lettered pattern ps).read ((lettered pattern ps).render t) = .ok t) :
    Writable ps t := by
  have hz : ∀ x ∈ letters ps, x.directive = .offset → t.zone.isSome := by
    intro x hx ho
    obtain ⟨found, hfit, hdate⟩ := (read_eq_ok_iff h hu).1 hread
    apply Found.isSome_zone hdate
    rw [Pattern.map_fst_of_fit? hfit, directives_of_itemsOf, ← ho]
    exact List.mem_map.2 ⟨x, hx, rfl⟩
  obtain ⟨hzone, hyear, -⟩ := (read_written_iff h hu hz).1 hread
  constructor
  · intro hy
    have hY : .Y ∉ letters ps := fun hY => hu.definite.year.1 hY hy
    rw [hyear, Letter.yearRead, if_neg hY]
    exact Found.fullYear_bounds (Nat.mod_lt _ (by decide))
  · intro ho
    rw [Letter.zoneRead, if_pos ho] at hzone
    obtain ⟨z, hz, hmake⟩ := Option.bind_eq_some_iff.1 hzone
    obtain ⟨z', hz', hsome⟩ := Option.map_eq_some_iff.1 hmake
    obtain ⟨hoffset, -⟩ := Zone.make?_eq_some_iff.1 hz'
    exact ⟨z', hsome.symm, z.minutes, hoffset.trans (Int.mul_comm _ _)⟩

/-- A text has the format exactly if the format writes it for some point in time that it can write,
and every such point in time is read back from what is written for it as far as it was written. -/
theorem roundTrips_iff_written (h : ofPattern pattern = .ok (.lettered pattern ps))
    (hu : Unambiguous ps) :
    (∀ text, ∃ b, (lettered pattern ps).roundTrips text = .ok b) ∧
    (∀ text, (lettered pattern ps).roundTrips text = .ok true ↔
      ∃ t, Writable ps t ∧ (lettered pattern ps).render t = text) ∧
    ∀ t, Writable ps t →
      ∃ t', (lettered pattern ps).read ((lettered pattern ps).render t) = .ok t' ∧ ReadsAs ps t t' := by
  refine ⟨?_, ?_, fun t => exists_read_written h hu⟩
  · intro text
    rw [roundTrips]
    split
    · exact ⟨_, rfl⟩
    · exact ⟨_, rfl⟩
    · rename_i again hagain
      exact absurd hagain (read_ne_repeated h hu text again)
  · intro text
    constructor
    · intro htrip
      rw [roundTrips] at htrip
      split at htrip
      · rename_i t hread
        have hwritten : (lettered pattern ps).render t = text := by simpa using htrip
        rw [← hwritten] at hread
        exact ⟨t, writable_of_read h hu hread, hwritten⟩
      · cases htrip
      · cases htrip
    · rintro ⟨t, hw, rfl⟩
      obtain ⟨t', hread, hr⟩ := exists_read_written h hu hw
      simp only [roundTrips, hread, render_eq_of_readsAs hu hr, beq_self_eq_true]

/-- Shortly after the midnight that starts a leap day, west of Greenwich. -/
def leapDay : DateTime :=
  ⟨2024, 2, 29, 0, 5, 0, 0, some ⟨-12600000000, none, by decide⟩, by decide⟩

def leapDayPieces : List Piece :=
  [.inl .D, .inr ',', .inr ' ', .inl .j, .inr ' ', .inl .F, .inr ' ', .inl .y, .inr ' ', .inr ' ',
    .inl .g, .inr ':', .inl .i, .inr ' ', .inl .a, .inr ' ', .inl .P]

/-- Names, a clock of twelve hours, two digits of the year, two blanks and an offset. -/
theorem leapDay_roundTrips :
    ofPattern "D, j F y  g:i a P".toList = .ok (.lettered "D, j F y  g:i a P".toList leapDayPieces) ∧
    Unambiguous leapDayPieces ∧ Writable leapDayPieces leapDay ∧
    (lettered "D, j F y  g:i a P".toList leapDayPieces).roundTrips
      "Thu, 29 February 24  12:05 am -03:30".toList = .ok true := by
  have h : ofPattern "D, j F y  g:i a P".toList =
      .ok (.lettered "D, j F y  g:i a P".toList leapDayPieces) := rfl
  have hu : Unambiguous leapDayPieces :=
    ⟨⟨by decide, by decide, by decide, by decide, by decide, by decide⟩, by decide⟩
  have hw : Writable leapDayPieces leapDay :=
    ⟨fun _ => by decide, fun _ => ⟨_, rfl, by decide⟩⟩
  obtain ⟨-, htrips, -⟩ := roundTrips_iff_written h hu
  exact ⟨h, hu, hw, (htrips _).2 ⟨leapDay, hw, by decide⟩⟩

end DateFormat
end FieldRules
