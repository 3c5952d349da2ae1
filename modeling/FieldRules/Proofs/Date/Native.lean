import FieldRules.Proofs.Date.Pattern
import Mathlib.Algebra.Order.BigOperators.Group.List
import Mathlib.Algebra.Order.Group.Nat
import Mathlib.Data.List.TakeWhile

/-! Formats of letters beside the native formats that they are read by. Most letters write what their
directive writes, the year only from 1000 on: then a format of such letters and its native format
have the same texts. -/
namespace FieldRules

private theorem Decimal.padded_of_le {width n : Nat} (h : width ≤ (natural n).length) :
    padded width n = natural n := by
  rw [padded, Nat.sub_eq_zero_of_le h]
  rfl

private theorem Decimal.length_natural_le (width n : Nat) :
    (natural n).length ≤ (padded width n).length := by
  rw [padded, List.length_append]
  omega

/-- Where no part grows shorter, a whole that stays the same stays the same part by part. -/
theorem flatMap_eq_iff_of_length_le {α β : Type} {f g : α → List β} {xs : List α}
    (h : ∀ x ∈ xs, (f x).length ≤ (g x).length) :
    xs.flatMap f = xs.flatMap g ↔ ∀ x ∈ xs, f x = g x := by
  constructor
  · intro heq
    induction xs with
    | nil => simp
    | cons x xs ih =>
      obtain ⟨hx, hxs⟩ := List.forall_mem_cons.1 h
      have hrest : (xs.flatMap f).length ≤ (xs.flatMap g).length := by
        rw [List.length_flatMap, List.length_flatMap]
        exact List.sum_le_sum hxs
      rw [List.flatMap_cons, List.flatMap_cons] at heq
      have hsum := congrArg List.length heq
      rw [List.length_append, List.length_append] at hsum
      obtain ⟨hhead, htail⟩ := List.append_inj heq (by omega)
      exact List.forall_mem_cons.2 ⟨hhead, ih hxs htail⟩
  · exact List.flatMap_congr

/-! ### What a directive writes -/

namespace Native
variable {t : DateTime} {widest : Nat} {c : Char}

/-- No flag, no digit of a width and no modifier: with such a character a directive ends. -/
def isLast (c : Char) : Bool :=
  !(c.isDigit || ['\x00', '_', '-', '^', '#', 'E', 'O'].contains c)

private theorem renderFrom_character (hc : c ≠ '%') (hnull : c ≠ '\x00') (rest : Text) :
    renderFrom t widest none (c :: rest) = c :: renderFrom t widest none rest := by
  rw [renderFrom, if_neg hnull, if_neg hc]

private theorem renderFrom_percent (rest : Text) :
    renderFrom t widest none ('%' :: rest) =
      renderFrom t widest (some ⟨{}, none, ['%']⟩) rest := by
  rw [renderFrom, if_neg (by decide), if_pos rfl]

theorem renderFrom_direct {text : Text} (hc : isLast c) (hd : direct? t c = some text) (rest : Text) :
    renderFrom t widest none ('%' :: c :: rest) = text ++ renderFrom t widest none rest := by
  have hnull : c ≠ '\x00' := by
    rintro rfl
    cases hc
  rw [renderFrom_percent, renderFrom]
  simp [hnull, hd]

private theorem renderFrom_piece {p : Piece} (hc : isLast c) (hd : direct? t c = none)
    (hp : piece? t c = some p) (rest : Text) :
    renderFrom t widest none ('%' :: c :: rest) = p.render {} ++ renderFrom t widest none rest := by
  simp only [isLast, List.contains_eq_mem, List.mem_cons, List.not_mem_nil, or_false,
    Bool.not_eq_true', Bool.or_eq_false_iff, decide_eq_false_iff_not, not_or] at hc
  obtain ⟨hdigit, hnull, hflags⟩ := hc
  have hzero : c ≠ '0' := by
    rintro rfl
    cases hdigit
  rw [renderFrom_percent, renderFrom]
  simp [hnull, hd, hdigit, hzero, hflags, Head.piece?, hp]

private theorem widened_plain (text : Text) : widened {} text = text := by
  rw [widened, Nat.zero_sub]
  rfl

private theorem render_number (digits n : Nat) :
    (Piece.number digits n).render {} = Decimal.padded digits n := by
  have hnegative : ¬ (n : Int) < 0 := Int.not_lt.2 (Int.natCast_nonneg n)
  rw [Piece.render, widened_plain]
  simp [numeral, hnegative, Decimal.padded]

private theorem render_name (text : Text) : (Piece.name text).render {} = text := widened_plain text

private theorem render_half (text : Text) : (Piece.half text).render {} = text := widened_plain text

end Native

namespace Letter
variable {x : Letter} {t : DateTime}

/-- The letters whose directive writes what they write, but for zeros in front of a year. -/
def shared : List Letter := [.d, .D, .l, .m, .M, .F, .Y, .y, .H, .h, .i, .s, .u, .A]

def nativeText (t : DateTime) : Letter → Text
  | .Y => Decimal.natural t.year
  | x => x.render t

private theorem renderFrom_directive (hx : x ∈ shared) (widest : Nat) (rest : Text) :
    Native.renderFrom t widest none ('%' :: x.directive.letter :: rest) =
      x.nativeText t ++ Native.renderFrom t widest none rest := by
  cases x with
  | d | m | y | H | h | i | s =>
    rw [Native.renderFrom_piece rfl rfl rfl, Native.render_number]
    rfl
  | D | l | M | F =>
    rw [Native.renderFrom_piece rfl rfl rfl, Native.render_name]
    rfl
  | A =>
    rw [Native.renderFrom_piece rfl rfl rfl, Native.render_half]
    rfl
  | u =>
    rw [Native.renderFrom_direct rfl rfl]
    rfl
  | Y =>
    have hlen := List.length_pos_of_ne_nil (Decimal.natural_ne_nil t.year)
    rw [Native.renderFrom_piece rfl rfl rfl, Native.render_number, Decimal.padded_of_le hlen]
    rfl
  | _ => exact absurd hx (by decide)

/-- A year has four digits from 1000 on. -/
theorem nativeText_eq_iff : x.nativeText t = x.render t ↔ (x = .Y → 1000 ≤ t.year) := by
  have hshort : (Decimal.natural t.year).length ≤ 3 ↔ t.year < 1000 :=
    Nat.length_toDigits_le_iff (by decide) (by decide)
  cases x with
  | Y =>
    have hfour : (Decimal.padded 4 t.year).length = 4 := Decimal.length_padded (by decide) t.year_lt
    simp only [nativeText, render, forall_const]
    constructor
    · intro heq
      rw [← heq] at hfour
      omega
    · intro hy
      exact (Decimal.padded_of_le (by omega)).symm
  | _ => exact iff_of_true rfl (by simp)

private theorem length_nativeText_le : (x.nativeText t).length ≤ (x.render t).length := by
  cases x with
  | Y => exact Decimal.length_natural_le 4 t.year
  | _ => exact le_rfl

/-- The longest names are those of Wednesday and September. -/
theorem length_render_le (hx : x ∈ shared) : (x.render t).length ≤ 9 := by
  have htwo : ∀ n < 100, (Decimal.padded 2 n).length ≤ 9 := fun n hn => by
    rw [Decimal.length_padded (by decide) hn]
    decide
  have hweekdays : ∀ n < 7, (Calendar.weekdayNames.getD n "").toList.length ≤ 9 := by decide
  have hmonths : ∀ n < 12, (Calendar.monthNames.getD n "").toList.length ≤ 9 := by decide
  have hshort : ∀ name : Text, (name.take 3).length ≤ 9 := fun name => by
    rw [List.length_take]
    omega
  cases x with
  | d => exact htwo _ (Nat.lt_trans t.day_lt (by decide))
  | m => exact htwo _ (Nat.lt_trans t.month_lt (by decide))
  | y => exact htwo _ (Nat.mod_lt _ (by decide))
  | H => exact htwo _ (Nat.lt_trans t.hour_lt (by decide))
  | h => exact htwo _ (Nat.lt_trans t.hour12_bounds.2 (by decide))
  | i => exact htwo _ (Nat.lt_trans t.minute_lt (by decide))
  | s => exact htwo _ (Nat.lt_trans t.second_lt (by decide))
  | D | M => exact hshort _
  | l => exact hweekdays _ t.weekday_lt
  | F => exact hmonths _ t.month_pred_lt
  | Y => exact (Decimal.length_padded (by decide) t.year_lt).trans_le (by decide)
  | u => exact (Decimal.length_padded (by decide) t.microsecond_lt).trans_le (by decide)
  | A =>
    rw [render]
    split <;> decide
  | _ => exact absurd hx (by decide)

end Letter

/-! ### Whole formats -/

namespace Native

/-- The room for a text grows with the length of the format. -/
theorem lt_room {format : Text} (h : '\x00' ∉ format) {n : Nat} (hn : n ≤ 9 * format.length) :
    n < room format := by
  have hwhole : format.takeWhile (· ≠ '\x00') = format := by
    rw [List.takeWhile_eq_self_iff]
    intro c hc
    simpa using ne_of_mem_of_not_mem hc h
  rw [room, hwhole]
  split
  · omega
  · have hpower : 256 * format.length - 1 < Nat.pow 2 ((256 * format.length - 1).log2 + 1) :=
      Nat.lt_log2_self
    omega

end Native

namespace DateFormat
variable {ps : List Piece} {t : DateTime}

/-- A letter that is shared, or a character that the native format copies. -/
def IsShared : Piece → Prop
  | .inl x => x ∈ Letter.shared
  | .inr c => c ≠ '%' ∧ c ≠ '\x00'

def nativePiece (t : DateTime) : Piece → Text
  | .inl x => x.nativeText t
  | .inr c => [c]

/-- Native rendering goes piece by piece over the letters that both notations share. -/
private theorem renderFrom_directives (h : ∀ p ∈ ps, IsShared p) (widest : Nat) :
    Native.renderFrom t widest none (ps.flatMap pieceDirectives) = ps.flatMap (nativePiece t) := by
  induction ps with
  | nil => rfl
  | cons p ps ih =>
    obtain ⟨hp, hps⟩ := List.forall_mem_cons.1 h
    rw [List.flatMap_cons, List.flatMap_cons, ← ih hps]
    cases p with
    | inl x => exact Letter.renderFrom_directive hp widest _
    | inr c => exact Native.renderFrom_character hp.1 hp.2 _

/-- A rendered text is at most nine times as long as its directives, so the buffer always suffices. -/
private theorem length_renderPiece_le (h : ∀ p ∈ ps, IsShared p) :
    (ps.flatMap (renderPiece t)).length ≤ 9 * (ps.flatMap pieceDirectives).length := by
  induction ps with
  | nil => exact le_rfl
  | cons p ps ih =>
    obtain ⟨hp, hps⟩ := List.forall_mem_cons.1 h
    have hpiece : (renderPiece t p).length ≤ 9 * (pieceDirectives p).length := by
      cases p with
      | inl x => exact (Letter.length_render_le hp).trans (show 9 ≤ 9 * 2 by decide)
      | inr c => exact (by decide : 1 ≤ 9)
    rw [List.flatMap_cons, List.flatMap_cons, List.length_append, List.length_append, Nat.mul_add]
    exact Nat.add_le_add hpiece (ih hps)

private theorem length_nativePiece_le (p : Piece) :
    (nativePiece t p).length ≤ (renderPiece t p).length := by
  cases p with
  | inl x => exact Letter.length_nativeText_le
  | inr c => exact le_rfl

private theorem null_notMem_directives (h : ∀ p ∈ ps, IsShared p) :
    '\x00' ∉ ps.flatMap pieceDirectives := by
  rw [List.mem_flatMap]
  rintro ⟨p, hp, hnull⟩
  cases p with
  | inl x =>
    have hletters : ∀ letter ∈ Letter.shared, '\x00' ∉ pieceDirectives (.inl letter) := by decide
    exact hletters x (h _ hp) hnull
  | inr c => exact (h _ hp).2 (List.mem_singleton.1 hnull).symm

/-- The native format writes what its directives write. -/
theorem native_render (h : ∀ p ∈ ps, IsShared p) :
    Native.render t (ps.flatMap pieceDirectives) = ps.flatMap (nativePiece t) := by
  have hlen : (ps.flatMap (nativePiece t)).length ≤ (ps.flatMap (renderPiece t)).length := by
    rw [List.length_flatMap, List.length_flatMap]
    exact List.sum_le_sum fun p _ => length_nativePiece_le p
  have hroom := Native.lt_room (null_notMem_directives h) (hlen.trans (length_renderPiece_le h))
  rw [Native.render]
  simp only [renderFrom_directives h, if_pos hroom]

private theorem mem_letters_iff {x : Letter} : x ∈ letters ps ↔ .inl x ∈ ps := by
  simp [letters, List.mem_filterMap]

/-- The two formats write alike but for years before 1000. -/
theorem render_native_iff (h : ∀ p ∈ ps, IsShared p) (pattern : Text) :
    (native (ps.flatMap pieceDirectives)).render t = (lettered pattern ps).render t ↔
      (.Y ∈ letters ps → 1000 ≤ t.year) := by
  have hpiece : ∀ p, nativePiece t p = renderPiece t p ↔ (p = .inl .Y → 1000 ≤ t.year) := by
    intro p
    cases p with
    | inl x => rw [nativePiece, renderPiece, Letter.nativeText_eq_iff, Sum.inl.injEq]
    | inr c => exact iff_of_true rfl (by simp)
  change Native.render t _ = ps.flatMap (renderPiece t) ↔ _
  rw [native_render h, flatMap_eq_iff_of_length_le fun p _ => length_nativePiece_le p]
  simp only [hpiece, mem_letters_iff]
  constructor
  · exact fun hall hy => hall _ hy rfl
  · rintro hyear p hp rfl
    exact hyear hp

/-! ### Patterns of shared letters -/

/-- A character that stands for itself in both kinds of formats. -/
def IsMark (c : Char) : Prop := ¬ c.isAlpha ∧ c ≠ '%' ∧ c ≠ '\\' ∧ c ≠ '\x00'

instance (c : Char) : Decidable (IsMark c) := by unfold IsMark; infer_instance

structure Translatable (pattern : Text) : Prop where
  characters : ∀ c ∈ pattern, (∃ x ∈ Letter.shared, c = x.char) ∨ IsMark c
  lettered : ∃ x ∈ Letter.shared, x.char ∈ pattern

def pieceOf (c : Char) : Piece :=
  match Letter.ofChar? c with
  | some x => .inl x
  | none => .inr c

private theorem pieceOf_char (x : Letter) :
    pieceOf x.char = .inl x := by rw [pieceOf, Letter.ofChar?_char]

private theorem ofChar?_mark {c : Char} (h : IsMark c) : Letter.ofChar? c = none :=
  Letter.ofChar?_eq_none_iff.2 fun x hx => h.1 (hx ▸ x.isAlpha_char)

private theorem pieceOf_mark {c : Char} (h : IsMark c) :
    pieceOf c = .inr c := by rw [pieceOf, ofChar?_mark h]

theorem pieces?_cons {c : Char} (hc : c ≠ '\\') (rest : Text) :
    pieces? (c :: rest) =
      match Letter.ofChar? c with
      | some x => (pieces? rest).map (.inl x :: ·)
      | none => if c.isAlpha then .error c else (pieces? rest).map (.inr c :: ·) := by
  conv_lhs => unfold pieces?
  split
  · rename_i h
    cases h
  · rename_i h
    exact absurd (List.cons.inj h).1 hc
  · rename_i h
    exact absurd (List.cons.inj h).1 hc
  · rename_i h
    obtain ⟨rfl, rfl⟩ := List.cons.inj h
    rfl

/-- Without a backslash each character stands for a piece. -/
theorem pieces?_eq {pattern : Text}
    (h : ∀ c ∈ pattern, (∃ x ∈ Letter.shared, c = x.char) ∨ IsMark c) :
    pieces? pattern = .ok (pattern.map pieceOf) := by
  have hbackslash : ∀ x ∈ Letter.all, x.char ≠ '\\' := by decide
  induction pattern with
  | nil => rfl
  | cons c rest ih =>
    obtain ⟨hc, hrest⟩ := List.forall_mem_cons.1 h
    rcases hc with ⟨x, -, rfl⟩ | hmark
    · rw [pieces?_cons (hbackslash x (by cases x <;> decide)), Letter.ofChar?_char, ih hrest,
        List.map_cons, pieceOf_char]
      rfl
    · rw [pieces?_cons hmark.2.2.1, ofChar?_mark hmark, ih hrest, List.map_cons, pieceOf_mark hmark]
      simp only [if_neg hmark.1]
      rfl

private theorem inl_mem_iff {pattern : Text}
    (h : ∀ c ∈ pattern, (∃ x ∈ Letter.shared, c = x.char) ∨ IsMark c) {x : Letter} :
    .inl x ∈ pattern.map pieceOf ↔ x.char ∈ pattern := by
  rw [List.mem_map]
  constructor
  · rintro ⟨c, hc, hpiece⟩
    rcases h c hc with ⟨letter, -, rfl⟩ | hmark
    · rw [pieceOf_char] at hpiece
      cases hpiece
      exact hc
    · rw [pieceOf_mark hmark] at hpiece
      cases hpiece
  · exact fun hx => ⟨x.char, hx, pieceOf_char x⟩

private theorem isShared_of_translatable {pattern : Text} (h : Translatable pattern) :
    ∀ p ∈ pattern.map pieceOf, IsShared p := by
  rw [List.forall_mem_map]
  intro c hc
  rcases h.characters c hc with ⟨x, hx, rfl⟩ | hmark
  · rw [pieceOf_char]
    exact hx
  · rw [pieceOf_mark hmark]
    exact ⟨hmark.2.1, hmark.2.2.2⟩

/-- Formats that read a text alike, and write alike what it is read as, give it one answer. -/
theorem roundTrips_congr {f g : DateFormat} {text : Text} (hread : g.read text = f.read text)
    (hrender : ∀ t, f.read text = .ok t → g.render t = f.render t) :
    g.roundTrips text = f.roundTrips text := by
  rw [roundTrips, roundTrips, hread]
  cases hf : f.read text with
  | ok t => simp only [hrender t hf]
  | error problem => cases problem <;> rfl

/-- The directives of a pattern of shared letters and marks are a native format that reads alike. It
writes alike but for years before 1000, where the letter for the year asks for zeros that the
directive leaves out. A text that is not read as of such a year has the one format if and only if it
has the other, or has no answer from either. -/
theorem letters_agree_with_native {pattern : Text} (h : Translatable pattern) :
    ∃ f g : DateFormat, ofPattern pattern = .ok f ∧ f.isNative = false ∧
      ofPattern f.directives = .ok g ∧ g.isNative = true ∧
      (∀ text, g.read text = f.read text) ∧
      (∀ t, g.render t = f.render t ↔ ('Y' ∈ pattern → 1000 ≤ t.year)) ∧
      ∀ text, (∀ t, f.read text = .ok t → 1000 ≤ t.year) → g.roundTrips text = f.roundTrips text := by
  have hshared := isShared_of_translatable h
  have hplain : pattern.contains '%' = false := by
    rw [List.contains_eq_mem, decide_eq_false_iff_not]
    intro hpercent
    rcases h.characters _ hpercent with ⟨x, hx, heq⟩ | hmark
    · have hletters : ∀ x ∈ Letter.shared, x.char ≠ '%' := by decide
      exact hletters x hx heq.symm
    · exact hmark.2.1 rfl
  have hyear : .Y ∈ letters (pattern.map pieceOf) ↔ 'Y' ∈ pattern :=
    mem_letters_iff.trans (inl_mem_iff h.characters)
  have hpercent : ((pattern.map pieceOf).flatMap pieceDirectives).contains '%' := by
    obtain ⟨x, -, hx⟩ := h.lettered
    rw [List.contains_eq_mem, decide_eq_true_eq, List.mem_flatMap]
    exact ⟨.inl x, (inl_mem_iff h.characters).2 hx, List.mem_cons_self⟩
  have hrender : ∀ t, (native ((pattern.map pieceOf).flatMap pieceDirectives)).render t =
      (lettered pattern (pattern.map pieceOf)).render t ↔ ('Y' ∈ pattern → 1000 ≤ t.year) := by
    intro t
    rw [render_native_iff hshared, hyear]
  refine ⟨.lettered pattern (pattern.map pieceOf), .native _, ?_, rfl, if_pos hpercent, rfl,
    fun _ => rfl, hrender, ?_⟩
  · rw [ofPattern, hplain, pieces?_eq h.characters]
    rfl
  · intro text hread
    exact roundTrips_congr rfl fun t ht => (hrender t).2 fun _ => hread t ht

def posted : Text := "D, d M Y (h:i A)".toList

def posting : Text := "Fri, 02 Jan 2026 (12:05 AM)".toList

/-- A pattern with names, punctuation and the half of the day reads back in both notations. -/
theorem posted_agrees_with_native :
    ∃ f g : DateFormat, ofPattern posted = .ok f ∧ ofPattern "%a, %d %b %Y (%I:%M %p)".toList = .ok g ∧
      f.roundTrips posting = .ok true ∧ g.roundTrips posting = .ok true := by
  have hcharacters :
      posted.all fun c => decide ((∃ x ∈ Letter.shared, c = x.char) ∨ IsMark c) := by decide
  have hposted : Translatable posted :=
    ⟨fun c hc => of_decide_eq_true (List.all_eq_true.1 hcharacters c hc), .d, by decide, by decide⟩
  obtain ⟨f, g, hf, -, hg, -, -, -, hagree⟩ := letters_agree_with_native hposted
  have hpieces : ofPattern posted = .ok (.lettered posted (posted.map pieceOf)) := rfl
  cases hpieces.symm.trans hf
  have hread : read (.lettered posted (posted.map pieceOf)) posting =
      .ok ⟨2026, 1, 2, 0, 5, 0, 0, none, by decide⟩ := rfl
  have htrue : roundTrips (.lettered posted (posted.map pieceOf)) posting = .ok true := by
    rw [roundTrips, hread]
    rfl
  have hyear : ∀ t, read (.lettered posted (posted.map pieceOf)) posting = .ok t → 1000 ≤ t.year := by
    intro t ht
    cases hread.symm.trans ht
    decide
  exact ⟨_, g, rfl, hg, htrue, (hagree posting hyear).trans htrue⟩

end DateFormat
end FieldRules
