import FieldRules.Proofs.Date.Native
import FieldRules.Proofs.Date.RoundTrip

/-! Offsets as letters write them, beside the whole hours and minutes of their size. East of Greenwich
the seconds of an offset are cut off; west of it they count as a minute more, so that an offset and
its opposite are written alike only if there are no seconds, and the last minute of the day becomes
an hour that no offset has. -/
namespace FieldRules

namespace Zone
variable (z : Zone)

def wholeHours : Nat := z.offset.natAbs / 3600000000

def wholeMinutes : Nat := z.offset.natAbs / 60000000 % 60

def wholeSeconds : Nat := z.offset.natAbs / 1000000 % 60

private theorem wholeHours_lt : z.wholeHours < 24 := by
  obtain ⟨hl, hu⟩ := z.bounded
  unfold wholeHours
  omega

private theorem wholeMinutes_lt : z.wholeMinutes < 60 := Nat.mod_lt _ (by decide)

private theorem minutes_neg_iff : z.minutes < 0 ↔ z.offset ≤ -1000000 := by
  rw [minutes_eq, writtenMinutes]
  split <;> omega

/-- What is written is the size without its seconds, unless they are rounded up. -/
theorem writtenMinutes_eq_iff :
    z.writtenMinutes = z.offset.natAbs / 60000000 ↔ 0 ≤ z.offset ∨ z.wholeSeconds = 0 := by
  unfold writtenMinutes wholeSeconds
  split <;> omega

/-- The hours and minutes of the written minutes are those of the size under the same condition. -/
theorem written_clock_iff :
    z.writtenMinutes / 60 = z.wholeHours ∧ z.writtenMinutes % 60 = z.wholeMinutes ↔
      0 ≤ z.offset ∨ z.wholeSeconds = 0 := by
  rw [← writtenMinutes_eq_iff]
  unfold wholeHours wholeMinutes
  omega

private theorem writtenMinutes_lt_iff : z.writtenMinutes < 1440 ↔ -86341000000 < z.offset := by
  obtain ⟨hl, hu⟩ := z.bounded
  unfold writtenMinutes
  split <;> omega

private theorem natAbs_minutes_sub_lt : (z.minutes * 60000000 - z.offset).natAbs < 60000000 := by
  rw [minutes_eq, writtenMinutes]
  split <;> omega

/-- Of an offset and its opposite the one is rounded up, the other down. -/
theorem writtenMinutes_opposite_iff {z z' : Zone} (h : z'.offset = -z.offset) :
    z'.writtenMinutes = z.writtenMinutes ↔ z.wholeSeconds = 0 := by
  unfold writtenMinutes wholeSeconds
  rw [h, Int.natAbs_neg]
  split <;> split <;> omega

private theorem make?_eq_none_iff {offset : Int} {name : Option Text} :
    make? offset name = none ↔ ¬ (-86400000000 < offset ∧ offset < 86400000000) := by
  rw [make?]
  split <;> simp_all

end Zone

private theorem Decimal.padded_inj {width m n : Nat} : padded width m = padded width n ↔ m = n := by
  constructor
  · intro h
    rw [← Found.numberOf_padded width m, h, Found.numberOf_padded]
  · rintro rfl
    rfl

namespace Letter
variable {x : Letter} {t : DateTime} {z : Zone}

private theorem clockDigits_inj {separator : Text} {h m h' m' : Nat} (hh : h < 100) (hh' : h' < 100) :
    clockDigits separator h m = clockDigits separator h' m' ↔ h = h' ∧ m = m' := by
  have hlen : (Decimal.padded 2 h).length = 2 := Decimal.length_padded (by decide) hh
  have hlen' : (Decimal.padded 2 h').length = 2 := Decimal.length_padded (by decide) hh'
  constructor
  · intro heq
    obtain ⟨hhours, hminutes⟩ := List.append_inj heq (by simp [hlen, hlen'])
    exact ⟨Decimal.padded_inj.1 (List.append_cancel_right hhours), Decimal.padded_inj.1 hminutes⟩
  · rintro ⟨rfl, rfl⟩
    rfl

def separator : Letter → Text
  | .P => [':']
  | _ => []

/-- The sign is a minus from one whole second behind on; less than that still counts as ahead. -/
private theorem render_offset (hx : x = .O ∨ x = .P) (hz : t.zone = some z) :
    x.render t = (if z.offset ≤ -1000000 then '-' else '+') ::
      clockDigits x.separator (z.writtenMinutes / 60) (z.writtenMinutes % 60) := by
  simp only [← z.minutes_neg_iff, ← z.natAbs_minutes, ← offsetText_eq_clockDigits hz]
  rcases hx with rfl | rfl <;> rfl

end Letter

/-! ### Reading back -/

/-- An offset alone is read as that of midnight at the start of 1900. -/
theorem Found.dateTime?_offset (offset : Int) :
    ({ offset := some (some offset) } : Found).dateTime? =
      (Zone.make? offset none).map fun z => ⟨1900, 1, 1, 0, 0, 0, 0, some z, by decide⟩ := by
  have hzone : ({ offset := some (some offset) } : Found).zone? = (Zone.make? offset none).map some := rfl
  unfold dateTime?
  rw [hzone]
  cases Zone.make? offset none <;> rfl

namespace DateFormat
open Letter (clockDigits)
variable {x : Letter} {t : DateTime} {z : Zone}

def alone (x : Letter) : DateFormat := .lettered [x.char] [.inl x]

private theorem ofPattern_alone (x : Letter) : ofPattern [x.char] = .ok (alone x) := by
  cases x <;> rfl

/-- What is written is the offset of some time, less than a minute away. -/
def ReadsBack (x : Letter) (t : DateTime) (z : Zone) : Prop :=
  ∃ t' z', (alone x).read (x.render t) = .ok t' ∧ t'.zone = some z' ∧
    (z'.offset - z.offset).natAbs < 60000000

/-- The letter writes the whole hours and minutes of the size of the offset, and they can be read. -/
structure Truncates (x : Letter) (t : DateTime) (z : Zone) : Prop where
  digits : (x.render t).tail = clockDigits x.separator z.wholeHours z.wholeMinutes
  back : ReadsBack x t z

/-- The offset that is read is that of the written minutes, if there is such an offset. -/
theorem read_offset (hx : x = .O ∨ x = .P) (hz : t.zone = some z) :
    (alone x).read (x.render t) =
      match Zone.make? (z.minutes * 60000000) none with
      | some z' => .ok ⟨1900, 1, 1, 0, 0, 0, 0, some z', by decide⟩
      | none => .error .mismatch := by
  have hnames : Pattern.redefinition? (itemsOf [.inl x]) = none := rfl
  have hchain : [Sum.inl x].IsChain MayFollow := List.isChain_singleton _
  have hzone : ∀ letter ∈ letters [.inl x], letter.directive = .offset → t.zone.isSome := by
    intro _ _ _
    rw [hz]
    rfl
  have hfit := fit?_itemsOf hchain hzone [] (by simp) (by simp)
  have hwritten : [Sum.inl x].flatMap (renderPiece t) = x.render t := List.append_nil _
  have hfound : Found.ofCaptures (captures [.inl x] t) =
      { offset := some (some (z.minutes * 60000000)) } := by
    have hone : Found.ofCaptures (captures [.inl x] t) =
        Found.add (Found.isAfternoon (captures [.inl x] t)) {} (x.directive, x.render t) := rfl
    rw [hone, Letter.add_render]
    rcases hx with rfl | rfl <;> rw [Letter.note, hz] <;> rfl
  rw [List.nil_append, hwritten] at hfit
  rw [read, alone, directives, Pattern.read, items?_directives (by simp)]
  simp only [hnames, hfit, hfound, Found.dateTime?_offset]
  cases Zone.make? (z.minutes * 60000000) none <;> rfl

/-- Only an offset within a minute of minus one day is written as one that cannot be read. -/
private theorem readsBack_iff (hx : x = .O ∨ x = .P) (hz : t.zone = some z) :
    ReadsBack x t z ↔ -86341000000 < z.offset := by
  have hsize := z.natAbs_minutes
  rw [ReadsBack, read_offset hx hz, ← z.writtenMinutes_lt_iff]
  cases hmake : Zone.make? (z.minutes * 60000000) none with
  | some z' =>
    obtain ⟨hoffset, -⟩ := Zone.make?_eq_some_iff.1 hmake
    obtain ⟨hl, hu⟩ := z'.bounded
    refine iff_of_true ⟨_, z', rfl, rfl, ?_⟩ (by omega)
    rw [hoffset]
    exact z.natAbs_minutes_sub_lt
  | none =>
    have hout := Zone.make?_eq_none_iff.1 hmake
    refine iff_of_false ?_ (by omega)
    rintro ⟨t', z', hread, -⟩
    cases hread

private theorem read_eq_mismatch (hx : x = .O ∨ x = .P) (hz : t.zone = some z) (h : ¬ ReadsBack x t z) :
    (alone x).read (x.render t) = .error .mismatch := by
  rw [readsBack_iff hx hz, ← z.writtenMinutes_lt_iff, ← z.natAbs_minutes] at h
  rw [read_offset hx hz, Zone.make?_eq_none_iff.2 (by omega)]

private theorem tail_render_eq_iff (hx : x = .O ∨ x = .P) (hz : t.zone = some z) :
    (x.render t).tail = clockDigits x.separator z.wholeHours z.wholeMinutes ↔
      0 ≤ z.offset ∨ z.wholeSeconds = 0 := by
  have hle := z.writtenMinutes_le
  have hlt := z.wholeHours_lt
  rw [Letter.render_offset hx hz, List.tail_cons, Letter.clockDigits_inj (by omega) (by omega),
    z.written_clock_iff]

/-- Cutting the seconds off and flooring differ below zero, unless there are no seconds. -/
private theorem truncates_iff (hx : x = .O ∨ x = .P) (hz : t.zone = some z) :
    Truncates x t z ↔ 0 ≤ z.offset ∨ z.wholeSeconds = 0 := by
  constructor
  · intro h
    exact (tail_render_eq_iff hx hz).1 h.digits
  · intro h
    refine ⟨(tail_render_eq_iff hx hz).2 h, (readsBack_iff hx hz).2 ?_⟩
    obtain ⟨hl, hu⟩ := z.bounded
    unfold Zone.wholeSeconds at h
    omega

private theorem tail_render_opposite_iff (hx : x = .O ∨ x = .P) (hz : t.zone = some z)
    {t' : DateTime} {z' : Zone}
    (hz' : t'.zone = some z') (ho : z'.offset = -z.offset) :
    (x.render t').tail = (x.render t).tail ↔ z.wholeSeconds = 0 := by
  have hle := z.writtenMinutes_le
  have hle' := z'.writtenMinutes_le
  rw [Letter.render_offset hx hz, Letter.render_offset hx hz', List.tail_cons, List.tail_cons,
    Letter.clockDigits_inj (by omega) (by omega), ← Zone.writtenMinutes_opposite_iff ho]
  omega

end DateFormat

/-! ### The native directive -/

namespace Native
open Letter (clockDigits)

def secondsText (z : Zone) : Text :=
  if z.wholeSeconds = 0 ∧ z.offset.natAbs % 1000000 = 0 then []
  else two z.wholeSeconds ++ fractionText (z.offset.natAbs % 1000000)

private theorem length_secondsText_le (z : Zone) : (secondsText z).length ≤ 9 := by
  have hlt : z.wholeSeconds < 100 := Nat.lt_trans (Nat.mod_lt _ (by decide)) (show 60 < 100 by decide)
  have htwo : (Decimal.padded 2 z.wholeSeconds).length = 2 := Decimal.length_padded (by decide) hlt
  have hmicro : z.offset.natAbs % 1000000 < 10 ^ 6 := Nat.mod_lt _ (by decide)
  have hsix : (Decimal.padded 6 (z.offset.natAbs % 1000000)).length = 6 :=
    Decimal.length_padded (by decide) hmicro
  unfold secondsText fractionText
  split
  · decide
  · split
    · simp [two, htwo]
    · simp [two, htwo, hsix]

private theorem offsetText_eq {t : DateTime} {z : Zone} (hz : t.zone = some z) :
    offsetText t = (if z.offset < 0 then '-' else '+') ::
      (clockDigits [] z.wholeHours z.wholeMinutes ++ secondsText z) := by
  have hhours : z.offset.natAbs / 1000000 / 3600 = z.wholeHours := Nat.div_div_eq_div_mul _ _ _
  have hminutes : z.offset.natAbs / 1000000 / 60 % 60 = z.wholeMinutes := by
    rw [Nat.div_div_eq_div_mul]
    rfl
  simp only [offsetText, hz, offsetClock, hhours, hminutes]
  rfl

/-- The directive writes the size of every offset, and the seconds as well. -/
theorem render_offset {t : DateTime} {z : Zone} (hz : t.zone = some z) :
    (DateFormat.native "%z".toList).render t = (if z.offset < 0 then '-' else '+') ::
      (clockDigits [] z.wholeHours z.wholeMinutes ++ secondsText z) := by
  have hdirect : direct? t 'z' = some (offsetText t) := rfl
  have hwritten : ∀ widest, renderFrom t widest none "%z".toList = offsetText t := by
    intro widest
    change renderFrom t widest none ['%', 'z'] = _
    rw [renderFrom_direct rfl hdirect, renderFrom, List.append_nil]
  have hhours : (Decimal.padded 2 z.wholeHours).length = 2 :=
    Decimal.length_padded (by decide) (Nat.lt_trans z.wholeHours_lt (by decide))
  have hminutes : (Decimal.padded 2 z.wholeMinutes).length = 2 :=
    Decimal.length_padded (by decide) (Nat.lt_trans z.wholeMinutes_lt (by decide))
  have hseconds := length_secondsText_le z
  have hroom : (offsetText t).length < room "%z".toList := by
    apply Native.lt_room (by decide)
    rw [offsetText_eq hz, clockDigits]
    simp only [List.length_cons, List.length_append, hhours, hminutes, List.length_nil]
    have hformat : "%z".toList.length = 2 := rfl
    omega
  rw [← offsetText_eq hz, DateFormat.render, Native.render]
  simp only [hwritten, if_pos hroom]

end Native

namespace DateFormat
open Letter (clockDigits)

/-- The letters for an offset write the whole hours and minutes of its size if and only if it is not
negative or has no whole seconds beside its minutes; with such seconds a negative offset is written as
the minute after them, and its opposite with other digits. What is written is read by the format of
the letter as an offset less than a minute away, but in the last minute of a day west of Greenwich,
for which an hour is written that no offset has. The native directive that the letters are read by
writes the whole hours and minutes of every size. -/
theorem offset_truncated_iff {x : Letter} (hx : x = .O ∨ x = .P) {t : DateTime} {z : Zone}
    (hz : t.zone = some z) :
    ofPattern [x.char] = .ok (alone x) ∧
    (Truncates x t z ↔ 0 ≤ z.offset ∨ z.wholeSeconds = 0) ∧
    (∀ t' z', t'.zone = some z' → z'.offset = -z.offset →
      ((x.render t').tail = (x.render t).tail ↔ z.wholeSeconds = 0)) ∧
    z.wholeHours < 24 ∧
    x.render t = (if z.offset ≤ -1000000 then '-' else '+') ::
      clockDigits x.separator (z.writtenMinutes / 60) (z.writtenMinutes % 60) ∧
    (ReadsBack x t z ↔ -86341000000 < z.offset) ∧
    (¬ ReadsBack x t z → (alone x).read (x.render t) = .error .mismatch) ∧
    ∃ seconds, (native "%z".toList).render t = (if z.offset < 0 then '-' else '+') ::
      (clockDigits [] z.wholeHours z.wholeMinutes ++ seconds) :=
  ⟨ofPattern_alone x, truncates_iff hx hz, fun _ _ => tail_render_opposite_iff hx hz,
    z.wholeHours_lt, Letter.render_offset hx hz, readsBack_iff hx hz, read_eq_mismatch hx hz, _,
    Native.render_offset hz⟩

def amsterdamZone : Zone := ⟨1172000000, none, by decide⟩

def amsterdam : DateTime := ⟨1936, 7, 1, 12, 0, 0, 0, some amsterdamZone, by decide⟩

/-- The mean time of Amsterdam before 1937 was 19 minutes and 32 seconds ahead; the seconds are left
out. -/
theorem amsterdam_truncated :
    amsterdam.zone = some amsterdamZone ∧ Truncates .O amsterdam amsterdamZone ∧
    Letter.O.render amsterdam = "+0019".toList ∧
    ∃ seconds, (native "%z".toList).render amsterdam = '+' :: ("0019".toList ++ seconds) := by
  have hzone : amsterdam.zone = some amsterdamZone := rfl
  obtain ⟨-, htruncates, -, -, hwritten, -, -, hnative⟩ := offset_truncated_iff (.inl rfl) hzone
  exact ⟨hzone, htruncates.2 (.inl (by decide)), hwritten, hnative⟩

def monroviaZone : Zone := ⟨-2670000000, none, by decide⟩

/-- Forty-four minutes and a half west of Greenwich. -/
def monrovia : DateTime := ⟨1970, 1, 1, 0, 0, 0, 0, some monroviaZone, by decide⟩

def lastMinuteZone : Zone := ⟨-86399000000, none, by decide⟩

/-- A second less than a day west of Greenwich. -/
def lastMinute : DateTime := ⟨1970, 1, 1, 0, 0, 0, 0, some lastMinuteZone, by decide⟩

/-- Of 44 minutes and a half 45 are written, and of the last minute of a day an hour 24, which cannot
be read. -/
theorem west_not_truncated :
    (Letter.P.render monrovia = "-00:45".toList ∧ monroviaZone.wholeMinutes = 44 ∧
      ¬ Truncates .P monrovia monroviaZone) ∧
    Letter.P.render lastMinute = "-24:00".toList ∧ lastMinuteZone.wholeHours = 23 ∧
      (alone .P).read "-24:00".toList = .error .mismatch := by
  have hdigits : ¬ (Letter.P.render monrovia).tail =
      clockDigits [':'] monroviaZone.wholeHours monroviaZone.wholeMinutes := by decide
  exact ⟨⟨rfl, rfl, fun h => hdigits h.digits⟩, rfl, rfl, rfl⟩

end DateFormat
end FieldRules
