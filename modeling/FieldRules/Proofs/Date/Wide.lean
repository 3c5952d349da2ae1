import FieldRules.Date.Wide
import FieldRules.Proofs.Date.Pattern

/-! Formats over texts of code points. On texts of characters they are the formats over characters; the
parts that a pattern names can be read off its percent signs. -/
namespace FieldRules

namespace WideText

private theorem lead_ofText (t : Text) : (ofText t).lead = t := by
  induction t with
  | nil => rfl
  | cons c t ih => exact congrArg (c :: ·) ih

private theorem afterLead_ofText (t : Text) : (ofText t).afterLead = [] := by
  induction t with
  | nil => rfl
  | cons c t ih => exact ih

private theorem ofText_cons (c : Char) (t : Text) : ofText (c :: t) = .char c :: ofText t := rfl

private theorem ofText_injective : Function.Injective ofText :=
  List.map_injective_iff.2 fun _ _ => CodePoint.char.inj

/-- Behind the lead stands nothing, or a code point that is no character. -/
theorem afterLead_cases (t : WideText) :
    (t.afterLead = [] ∧ ∀ s, .lone s ∉ t) ∨ ∃ s rest, t.afterLead = .lone s :: rest ∧ .lone s ∈ t := by
  induction t with
  | nil => exact .inl ⟨rfl, by simp⟩
  | cons x t ih =>
    cases x with
    | lone s => exact .inr ⟨s, t, rfl, List.mem_cons_self⟩
    | char c =>
      rcases ih with ⟨hnil, hnone⟩ | ⟨s, rest, hlone, hs⟩
      · exact .inl ⟨hnil, by simpa using hnone⟩
      · exact .inr ⟨s, rest, hlone, List.mem_cons_of_mem _ hs⟩

private theorem encode_ofText (t : Text) : (ofText t).encode = .ok t := by
  simp only [encode, afterLead_ofText, lead_ofText]

/-- Encoding fails at lone surrogates and nowhere else. -/
theorem exists_encode_error_iff {t : WideText} :
    (∃ fault, t.encode = .error fault) ↔ ∃ s, .lone s ∈ t := by
  unfold encode
  rcases afterLead_cases t with ⟨hnil, hnone⟩ | ⟨s, rest, hlone, hs⟩
  · simp [hnil, hnone]
  · rw [hlone]
    exact iff_of_true ⟨_, rfl⟩ ⟨s, hs⟩

end WideText

namespace WidePattern
open WideText

/-- The parts that a pattern names, in order. A percent sign with a letter names the parts that the
letter stands for, and any other code point names none. -/
inductive Names : WideText → List Directive → Prop where
  | nil : Names [] []
  | percent {c : Char} {t : WideText} {meaning : List Pattern.Item} {ds : List Directive}
      (letter : Pattern.expand? c = some meaning) (rest : Names t ds) :
      Names (.char '%' :: .char c :: t) (meaning.filterMap Pattern.Item.directive? ++ ds)
  | other {x : CodePoint} {t : WideText} {ds : List Directive} (plain : x ≠ .char '%')
      (rest : Names t ds) : Names (x :: t) ds

def parts (items : List Item) : List Directive :=
  (items.map stand).filterMap Pattern.Item.directive?

private theorem parts_meaning (meaning : List Pattern.Item) (items : List Item) :
    parts (meaning.map .inl ++ items) = meaning.filterMap Pattern.Item.directive? ++ parts items := by
  simp [parts, stand, Function.comp_def]

private theorem items?_character {c : Char} (hc : c ≠ '%') (t : WideText) :
    items? (.char c :: t) =
      if Unicode.isBlank c then
        if startsBlank t then items? t else (items? t).map (.inl .blanks :: ·)
      else (items? t).map (.inl (.literal c) :: ·) := by
  rw [items?.eq_def]
  exact if_neg hc

theorem names_of_items? {t : WideText} {items : List Item} (h : items? t = some items) :
    Names t (parts items) := by
  fun_induction items? t generalizing items with
  | case1 =>
    cases h
    exact .nil
  | case2 s t ih =>
    obtain ⟨rest, hrest, rfl⟩ := Option.map_eq_some_iff.1 h
    have hnames := ih hrest
    exact .other (by simp) hnames
  | case3 letter t meaning rest hrest hmeaning ih =>
    cases h
    rw [parts_meaning]
    exact .percent hmeaning (ih hrest)
  | case4 | case5 => cases h
  | case6 c t hc _ _ ih => exact .other (by simpa using hc) (ih h)
  | case7 c t hc _ _ ih | case8 c t hc _ ih =>
    obtain ⟨rest, hrest, rfl⟩ := Option.map_eq_some_iff.1 h
    have hnames := ih hrest
    exact .other (by simpa using hc) hnames

/-- A pattern is read as items that name its parts, or not at all. -/
theorem names_iff {t : WideText} {ds : List Directive} :
    Names t ds ↔ ∃ items, items? t = some items ∧ parts items = ds := by
  constructor
  · intro h
    induction h with
    | nil => exact ⟨[], rfl, rfl⟩
    | percent letter rest ih =>
      obtain ⟨items, hitems, rfl⟩ := ih
      exact ⟨_, by simp [items?, letter, hitems], parts_meaning _ items⟩
    | @other x t ds plain rest ih =>
      obtain ⟨items, hitems, rfl⟩ := ih
      cases x with
      | lone s => exact ⟨.inr s :: items, by simp [items?, hitems], rfl⟩
      | char c =>
        rw [items?_character (by simpa using plain), hitems]
        split
        · split
          · exact ⟨items, rfl, rfl⟩
          · exact ⟨.inl .blanks :: items, rfl, rfl⟩
        · exact ⟨.inl (.literal c) :: items, rfl, rfl⟩
  · rintro ⟨items, hitems, rfl⟩
    exact names_of_items? hitems

/-- A pattern names its parts in one way. -/
theorem Names.unique {t : WideText} {ds ds' : List Directive} (h : Names t ds) (h' : Names t ds') :
    ds = ds' := by
  obtain ⟨items, hitems, rfl⟩ := names_iff.1 h
  obtain ⟨items', hitems', rfl⟩ := names_iff.1 h'
  rw [Option.some.inj (hitems.symm.trans hitems')]

/-! ### Texts of characters -/

private theorem startsBlank_ofText (t : Text) : startsBlank (ofText t) = Pattern.startsBlank t := by
  cases t <;> rfl

private theorem items?_ofText (t : Text) :
    items? (ofText t) = (Pattern.items? t).map (List.map .inl) := by
  have hplain {c : Char} {t : Text} (hstray : c = '%' → t = [] → False)
      (hpercent : ∀ c' t', c = '%' → t = c' :: t' → False) : c ≠ '%' := by
    intro hc
    cases t with
    | nil => exact hstray hc rfl
    | cons c' t' => exact hpercent c' t' hc rfl
  fun_induction Pattern.items? t with
  | case1 | case2 => rfl
  | case3 c t meaning rest hrest hmeaning ih =>
    rw [hrest] at ih
    simp [ofText_cons, items?, hmeaning, ih]
  | case4 c t hnone ih =>
    rw [ofText_cons, ofText_cons, items?, if_pos rfl, ih]
    cases hmeaning : Pattern.expand? c with
    | none => rfl
    | some meaning =>
      cases hrest : Pattern.items? t with
      | none => rfl
      | some rest => exact (hnone _ _ hmeaning hrest).elim
  | case5 c t hstray hpercent hblank hnext ih =>
    rw [ofText_cons, items?_character (hplain hstray hpercent), if_pos hblank, startsBlank_ofText,
      if_pos hnext, ih]
  | case6 c t hstray hpercent hblank hnext ih =>
    rw [ofText_cons, items?_character (hplain hstray hpercent), if_pos hblank, startsBlank_ofText,
      if_neg hnext, ih, Option.map_map, Option.map_map]
    rfl
  | case7 c t hstray hpercent hblank ih =>
    rw [ofText_cons, items?_character (hplain hstray hpercent), if_neg hblank, ih, Option.map_map,
      Option.map_map]
    rfl

private theorem redefinition?_inl (items : List Pattern.Item) :
    redefinition? (items.map .inl) = Pattern.redefinition? items := by
  have hstand : stand ∘ .inl = id := rfl
  rw [redefinition?, List.map_map, hstand, List.map_id]

private theorem fit?_inl (items : List Pattern.Item) (t : Text) :
    fit? (items.map .inl) (ofText t) =
      (Pattern.fit? items t).map fun found => (found.1, ofText found.2) := by
  induction items generalizing t with
  | nil => rfl
  | cons item items ih =>
    cases item with
    | literal p =>
      cases t with
      | nil => rfl
      | cons c t =>
        rw [List.map_cons, ofText_cons, fit?, Pattern.fit?, ih]
        split <;> rfl
    | blanks =>
      rw [List.map_cons, fit?, Pattern.fit?, lead_ofText, afterLead_ofText, List.map_findSome?]
      simp only [List.append_nil, ih, Function.comp_def]
    | part d =>
      rw [List.map_cons, fit?, Pattern.fit?, lead_ofText, afterLead_ofText, List.map_findSome?]
      simp only [List.append_nil, ih, Function.comp_def, Option.map_map]

/-- Without lone surrogates reading over code points is reading over characters. -/
private theorem read_ofText (pattern t : Text) :
    read (ofText pattern) (ofText t) = Pattern.read pattern t := by
  unfold read Pattern.read
  rw [items?_ofText]
  cases Pattern.items? pattern with
  | none => rfl
  | some items =>
    simp only [Option.map_some, redefinition?_inl, fit?_inl]
    cases Pattern.redefinition? items with
    | some again => rfl
    | none =>
      rcases Pattern.fit? items t with _ | ⟨captures, _ | ⟨c, rest⟩⟩ <;> rfl

end WidePattern

namespace WideFormat
open WideText

def letters (ps : List (Letter ⊕ CodePoint)) : List Letter := ps.filterMap Sum.getLeft?

def Repeats (f : WideFormat) (d : Directive) : Prop :=
  ∃ ds, WidePattern.Names f.directives ds ∧ List.Duplicate d ds

/-- The part is the first that is named again. -/
def RepeatsFirst (f : WideFormat) (d : Directive) : Prop :=
  ∃ ds, WidePattern.Names f.directives ds ∧ Pattern.NamedAgain ds d

/-! ### Letters -/

theorem percent_notMem {t : WideText} {ps : List (Letter ⊕ CodePoint)} (h : pieces? t = .ok ps)
    (ht : .char '%' ∉ t) : .inr (.char '%') ∉ ps := by
  fun_induction pieces? t generalizing ps with
  | case1 | case3 =>
    cases h
    simp
  | case2 s t ih =>
    obtain ⟨qs, hq, rfl⟩ := DateFormat.exists_pieces_of_map h
    simpa using ih hq (by simpa using ht)
  | case4 x t ih =>
    obtain ⟨qs, hq, rfl⟩ := DateFormat.exists_pieces_of_map h
    simp only [List.mem_cons, not_or, Sum.inr.injEq] at ht ⊢
    exact ⟨ht.2.1, ih hq ht.2.2⟩
  | case5 c t _ x _ ih =>
    obtain ⟨qs, hq, rfl⟩ := DateFormat.exists_pieces_of_map h
    simp only [List.mem_cons, not_or] at ht
    simpa using ih hq ht.2
  | case6 => cases h
  | case7 c t _ _ _ ih =>
    obtain ⟨qs, hq, rfl⟩ := DateFormat.exists_pieces_of_map h
    simp only [List.mem_cons, not_or] at ht
    simpa [ht.1] using ih hq ht.2

/-- A format of letters names the parts of its letters. -/
theorem names_directives {ps : List (Letter ⊕ CodePoint)} (h : .inr (.char '%') ∉ ps) :
    WidePattern.Names (ps.flatMap pieceDirectives) ((letters ps).map Letter.directive) := by
  induction ps with
  | nil => exact .nil
  | cons p ps ih =>
    simp only [List.mem_cons, not_or] at h
    have hrest := ih h.2
    cases p with
    | inl x => exact .percent (DateFormat.expand?_letter x) hrest
    | inr x => exact .other (fun hx => h.1 (hx ▸ rfl)) hrest

/-! ### Formats of characters -/

def ofFormat : DateFormat → WideFormat
  | .lettered p ps => .lettered (ofText p) (ps.map (Sum.map id .char))
  | .native p => .native (ofText p)

private theorem pieces?_character {c : Char} (hc : c ≠ '\\') (t : WideText) :
    pieces? (.char c :: t) =
      match Letter.ofChar? c with
      | some x => (pieces? t).map (.inl x :: ·)
      | none => if c.isAlpha then .error c else (pieces? t).map (.inr (.char c) :: ·) := by
  rw [pieces?.eq_def]
  exact if_neg hc

private theorem pieces?_ofText (t : Text) :
    pieces? (ofText t) = (DateFormat.pieces? t).map (List.map (Sum.map id .char)) := by
  have hmap (p : Letter ⊕ Char) (x : Except Char (List (Letter ⊕ Char))) :
      (x.map (p :: ·)).map (List.map (Sum.map id CodePoint.char)) =
        (x.map (List.map (Sum.map id CodePoint.char))).map (p.map id .char :: ·) := by
    cases x <;> rfl
  fun_induction DateFormat.pieces? t with
  | case1 | case2 => rfl
  | case3 c t ih =>
    rw [ofText_cons, ofText_cons, pieces?, if_pos rfl, hmap, ih]
    rfl
  | case4 c t hlast hescape x hx ih =>
    have hc : c ≠ '\\' := by rintro rfl; cases hx
    rw [ofText_cons, pieces?_character hc, hx, hmap, ih]
    rfl
  | case5 c t hlast hescape hx halpha =>
    have hc : c ≠ '\\' := by rintro rfl; cases halpha
    rw [ofText_cons, pieces?_character hc, hx]
    exact if_pos halpha
  | case6 c t hlast hescape hx halpha ih =>
    have hc : c ≠ '\\' := by
      rintro rfl
      cases t with
      | nil => exact hlast rfl rfl
      | cons c t => exact hescape c t rfl rfl
    rw [ofText_cons, pieces?_character hc, hx, hmap, ih]
    exact if_neg halpha

/-- Without lone surrogates a pattern over code points is read as the one over characters. -/
theorem ofPattern_ofText (p : Text) : ofPattern (ofText p) = (DateFormat.ofPattern p).map ofFormat := by
  have hpercent : (ofText p).contains (.char '%') = p.contains '%' := by
    simp [ofText]
  rw [ofPattern, DateFormat.ofPattern, hpercent, pieces?_ofText]
  split
  · rfl
  · cases DateFormat.pieces? p <;> rfl

private theorem directives_ofFormat (f : DateFormat) :
    (ofFormat f).directives = ofText f.directives := by
  cases f with
  | native p => rfl
  | lettered p ps =>
    rw [ofFormat, directives, DateFormat.directives, List.flatMap_map, ofText, List.map_flatMap]
    congr 1
    funext x
    cases x <;> rfl

private theorem render_ofFormat (f : DateFormat) (t : DateTime) :
    (ofFormat f).render t = .ok (ofText (f.render t)) := by
  cases f with
  | native p => rw [ofFormat, render, encode_ofText]; rfl
  | lettered p ps =>
    rw [ofFormat, render, DateFormat.render, List.flatMap_map, ofText, List.map_flatMap]
    congr 2
    funext x
    cases x <;> rfl

/-- A format of characters answers a text of characters as it does among all texts. -/
theorem roundTrips_ofFormat (f : DateFormat) (text : Text) :
    (ofFormat f).roundTrips (ofText text) = f.roundTrips text := by
  rw [roundTrips, DateFormat.roundTrips, read, DateFormat.read, directives_ofFormat,
    WidePattern.read_ofText]
  cases Pattern.read f.directives text with
  | error problem => cases problem <;> rfl
  | ok t =>
    have hsame : (ofText (f.render t) == ofText text) = (f.render t == text) := by
      rw [Bool.eq_iff_iff, beq_iff_eq, beq_iff_eq, ofText_injective.eq_iff]
    simp only [render_ofFormat, Except.map, hsame]

end WideFormat
end FieldRules
