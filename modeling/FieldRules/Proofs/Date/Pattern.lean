import FieldRules.Date.Format
import FieldRules.Proofs.Date.Letter
import Mathlib.Data.List.Chain
import Mathlib.Data.List.Duplicate

/-! What a format writes fits the pattern it is read by, piece for piece: the first choice of each
part and of each run of blanks is right, so that the match never goes back. -/
namespace FieldRules

namespace DateFormat

abbrev Piece := Letter ⊕ Char

def letters (ps : List Piece) : List Letter := ps.filterMap Sum.getLeft?

/-- After an offset comes nothing, and after another letter a character that is no digit. -/
def MayFollow : Piece → Piece → Prop
  | .inl x, .inr c => x.directive ≠ .offset ∧ ¬ Unicode.isDigit c
  | .inl _, .inl _ => False
  | .inr _, _ => True

instance (p q : Piece) : Decidable (MayFollow p q) :=
  match p, q with
  | .inl x, .inr c => inferInstanceAs (Decidable (x.directive ≠ .offset ∧ ¬ Unicode.isDigit c))
  | .inl _, .inl _ => .isFalse id
  | .inr _, _ => .isTrue trivial

def beginsBlank : List Piece → Bool
  | .inr c :: _ => Unicode.isBlank c
  | _ => false

/-- The items of the pattern that the pieces are read by: each run of blanks is one item. -/
def itemsOf : List Piece → List Pattern.Item
  | [] => []
  | .inl x :: ps => .part x.directive :: itemsOf ps
  | .inr c :: ps =>
    if Unicode.isBlank c then if beginsBlank ps then itemsOf ps else .blanks :: itemsOf ps
    else .literal c :: itemsOf ps

def captures (ps : List Piece) (t : DateTime) : Pattern.Captures :=
  (letters ps).map fun x => (x.directive, x.render t)

/-- The items of a pattern hold its letters in order. -/
theorem directives_of_itemsOf (ps : List Piece) :
    (itemsOf ps).filterMap Pattern.Item.directive? = (letters ps).map Letter.directive := by
  induction ps with
  | nil => rfl
  | cons p ps ih =>
    cases p with
    | inl x => simpa [itemsOf, letters, Pattern.Item.directive?] using ih
    | inr c =>
      have hl : letters (.inr c :: ps) = letters ps := rfl
      rw [hl, ← ih, itemsOf]
      split
      · split <;> rfl
      · rfl

private theorem startsBlank_directives (ps : List Piece) :
    Pattern.startsBlank (ps.flatMap pieceDirectives) = beginsBlank ps := by
  rcases ps with _ | ⟨x | c, ps⟩ <;> rfl

theorem expand?_letter (x : Letter) :
    Pattern.expand? x.directive.letter = some [.part x.directive] := by
  cases x <;> decide

private theorem items?_percent (c : Char) (t : Text) :
    Pattern.items? ('%' :: c :: t) =
      match Pattern.expand? c, Pattern.items? t with
      | some meaning, some rest => some (meaning ++ rest)
      | _, _ => none := rfl

private theorem items?_character {c : Char} (hc : c ≠ '%') (t : Text) :
    Pattern.items? (c :: t) =
      if Unicode.isBlank c then
        if Pattern.startsBlank t then Pattern.items? t else (Pattern.items? t).map (.blanks :: ·)
      else (Pattern.items? t).map (.literal c :: ·) := by
  conv_lhs => unfold Pattern.items?
  split
  · rename_i h
    cases h
  · rename_i h
    exact absurd (List.cons.inj h).1 hc
  · rename_i h
    exact absurd (List.cons.inj h).1 hc
  · rename_i h
    obtain ⟨rfl, rfl⟩ := List.cons.inj h
    rfl

/-- Without a percent sign among its characters a format is read piece by piece. -/
theorem items?_directives {ps : List Piece} (h : Sum.inr '%' ∉ ps) :
    Pattern.items? (ps.flatMap pieceDirectives) = some (itemsOf ps) := by
  induction ps with
  | nil => rfl
  | cons p ps ih =>
    simp only [List.mem_cons, not_or] at h
    have hrest := ih h.2
    cases p with
    | inl x =>
      rw [List.flatMap_cons, pieceDirectives, List.cons_append, List.cons_append, List.nil_append,
        items?_percent, expand?_letter, hrest]
      rfl
    | inr c =>
      have hc : c ≠ '%' := fun heq => h.1 (heq ▸ rfl)
      rw [List.flatMap_cons, pieceDirectives, List.cons_append, List.nil_append, items?_character hc,
        startsBlank_directives, hrest, itemsOf]
      split
      · split <;> rfl
      · rfl

/-- A pattern that is accepted with one more piece in front was accepted without it. -/
theorem exists_pieces_of_map {ε α : Type} {p : α} {x : Except ε (List α)} {ps : List α}
    (h : x.map (p :: ·) = .ok ps) : ∃ qs, x = .ok qs ∧ ps = p :: qs := by
  cases x with
  | error e => cases h
  | ok qs =>
    cases h
    exact ⟨qs, rfl, rfl⟩

theorem percent_notMem {t : Text} {ps : List Piece} (h : pieces? t = .ok ps) (ht : '%' ∉ t) :
    Sum.inr '%' ∉ ps := by
  fun_induction pieces? t generalizing ps with
  | case1 | case2 =>
    cases h
    simp
  | case3 c t ih | case6 c t _ _ _ _ ih =>
    obtain ⟨qs, hq, rfl⟩ := exists_pieces_of_map h
    simp only [List.mem_cons, not_or] at ht ⊢
    refine ⟨fun heq => ?_, ih hq (by tauto)⟩
    cases heq
    tauto
  | case4 c t _ _ x _ ih =>
    obtain ⟨qs, hq, rfl⟩ := exists_pieces_of_map h
    simp only [List.mem_cons, not_or] at ht ⊢
    exact ⟨by simp, ih hq ht.2⟩
  | case5 => cases h

theorem ofPattern_of_notMem {p : Text} (h : '%' ∉ p) : ofPattern p = (pieces? p).map (.lettered p) :=
  if_neg (by simpa using h)

theorem ofPattern_eq_ok_iff {p : Text} (h : '%' ∉ p) {f : DateFormat} :
    ofPattern p = .ok f ↔ ∃ ps, pieces? p = .ok ps ∧ .lettered p ps = f := by
  rw [ofPattern_of_notMem h]
  cases pieces? p <;> simp [Except.map]

/-! ### Blanks -/

def startsPlain : Text → Bool
  | c :: _ => !Unicode.isBlank c
  | [] => false

private theorem startsBlank_append {word : Text} (h : startsPlain word) (rest : Text) :
    Pattern.startsBlank (word ++ rest) = false := by
  rcases word with _ | ⟨c, word⟩
  · cases h
  · simpa [startsPlain, Pattern.startsBlank] using h

private theorem startsPlain_of_digits {word : Text} (hne : word ≠ []) (h : ∀ c ∈ word, c.isDigit) :
    startsPlain word := by
  rcases word with _ | ⟨c, word⟩
  · exact absurd rfl hne
  · have hc := h c List.mem_cons_self
    simp only [Char.isDigit, Bool.and_eq_true, decide_eq_true_eq] at hc
    have hl : 48 ≤ c.toNat := hc.1
    have hu : c.toNat ≤ 57 := hc.2
    have hblank : Unicode.isBlank c = false := by
      simp only [Unicode.isBlank, Unicode.isSeparatorControl, Bool.or_eq_false_iff, Bool.and_eq_false_iff,
        decide_eq_false_iff_not]
      omega
    simp [startsPlain, hblank]

private theorem startsPlain_padded {width n : Nat} : startsPlain (Decimal.padded width n) := by
  apply startsPlain_of_digits _ fun _ => Decimal.isDigit_of_mem_padded
  simp [Decimal.padded, Decimal.natural_ne_nil]

private theorem startsPlain_natural {n : Nat} : startsPlain (Decimal.natural n) :=
  startsPlain_of_digits (Decimal.natural_ne_nil n) fun _ => Decimal.isDigit_of_mem_natural

private theorem startsPlain_weekday : ∀ n < 7, startsPlain (Calendar.weekdayNames.getD n "").toList ∧
    startsPlain ((Calendar.weekdayNames.getD n "").toList.take 3) := by decide

private theorem startsPlain_month : ∀ n < 12, startsPlain (Calendar.monthNames.getD n "").toList ∧
    startsPlain ((Calendar.monthNames.getD n "").toList.take 3) := by decide

private theorem startsPlain_offset {t : DateTime} (h : t.zone.isSome) (separator : Text) :
    startsPlain (Letter.offsetText separator t) := by
  obtain ⟨z, hz⟩ := Option.isSome_iff_exists.1 h
  rw [Letter.offsetText_eq hz]
  by_cases hs : z.minutes < 0 <;> simp only [startsPlain, hs, if_true, if_false] <;> decide

/-- No written part begins with a blank, so blanks before it are taken by their own item. -/
private theorem startsPlain_render (x : Letter) {t : DateTime}
    (h : x.directive = .offset → t.zone.isSome) :
    startsPlain (x.render t) := by
  cases x with
  | d | m | Y | y | H | h | i | s | u => exact startsPlain_padded
  | j | n | G | g => exact startsPlain_natural
  | D => exact (startsPlain_weekday t.weekday t.weekday_lt).2
  | l => exact (startsPlain_weekday t.weekday t.weekday_lt).1
  | M => exact (startsPlain_month _ t.month_pred_lt).2
  | F => exact (startsPlain_month _ t.month_pred_lt).1
  | A | a =>
    rw [Letter.render]
    split <;> decide
  | O | P => exact startsPlain_offset (h rfl) _

/-- The longest run of blanks is tried first. -/
theorem blankCandidates_append {run rest : Text} (hne : run ≠ []) (hrun : ∀ c ∈ run, Unicode.isBlank c)
    (hrest : Pattern.startsBlank rest = false) :
    ∃ others, Pattern.blankCandidates (run ++ rest) = rest :: others := by
  have hnone : rest.takeWhile Unicode.isBlank = [] := by
    rcases rest with _ | ⟨c, rest⟩
    · rfl
    · have hc : Unicode.isBlank c = false := hrest
      rw [List.takeWhile_cons, hc]
      rfl
  have hwhile : (run ++ rest).takeWhile Unicode.isBlank = run := by
    rw [List.takeWhile_append_of_pos hrun, hnone, List.append_nil]
  obtain ⟨n, hn⟩ : ∃ n, run.length = n + 1 :=
    Nat.exists_eq_succ_of_ne_zero (by simpa using hne)
  have hdrop : (run ++ rest).drop (n + 1) = rest := by rw [← hn, List.drop_left]
  have hrange : (List.range run.length).reverse = n :: (List.range n).reverse := by
    rw [hn, List.range_succ, List.reverse_append]
    rfl
  unfold Pattern.blankCandidates
  simp only [hwhile, hrange, List.map_cons, hdrop]
  exact ⟨_, rfl⟩

/-! ### The match -/

private theorem sameLetter_self (c : Char) : Unicode.sameLetter c c := by
  unfold Unicode.sameLetter
  split <;> simp

private theorem fit?_part {d : Directive} {word rest : Text} (h : d.Takes word rest)
    {items : List Pattern.Item}
    {found : Pattern.Captures × Text} (hrest : Pattern.fit? items rest = some found) :
    Pattern.fit? (.part d :: items) (word ++ rest) = some ((d, word) :: found.1, found.2) := by
  obtain ⟨others, ho⟩ := h
  simp only [Pattern.fit?, ho, List.findSome?_cons, hrest]
  rfl

private theorem fit?_blanks {run rest : Text} (hne : run ≠ []) (hrun : ∀ c ∈ run, Unicode.isBlank c)
    (hb : Pattern.startsBlank rest = false) {items : List Pattern.Item}
    {found : Pattern.Captures × Text} (hrest : Pattern.fit? items rest = some found) :
    Pattern.fit? (.blanks :: items) (run ++ rest) = some found := by
  obtain ⟨others, ho⟩ := blankCandidates_append hne hrun hb
  rw [Pattern.fit?, ho, List.findSome?_cons, hrest]

/-- In a pattern whose parts may follow one another no digits run on into the next part. -/
private theorem halts_render {x : Letter} {ps : List Piece} (h : (.inl x :: ps).IsChain MayFollow)
    (t : DateTime) : Halts (ps.flatMap (renderPiece t)) := by
  rcases ps with _ | ⟨next | c, ps⟩
  · exact halts_nil
  · exact absurd (List.isChain_cons_cons.1 h).1 (by simp [MayFollow])
  · exact halts_cons (List.isChain_cons_cons.1 h).1.2 _

private theorem startsBlank_render {ps : List Piece} {t : DateTime}
    (hz : ∀ x ∈ letters ps, x.directive = .offset → t.zone.isSome) (h : beginsBlank ps = false) :
    Pattern.startsBlank (ps.flatMap (renderPiece t)) = false := by
  rcases ps with _ | ⟨x | c, ps⟩
  · rfl
  · exact startsBlank_append (startsPlain_render x (hz x (by simp [letters]))) _
  · exact h

/-- The invariant of the match: behind a run of blanks that the next item still has to take, the
items of the pieces fit what the pieces write, each part takes its letter's word, and nothing is
left. -/
theorem fit?_itemsOf {ps : List Piece} {t : DateTime} (hc : ps.IsChain MayFollow)
    (hz : ∀ x ∈ letters ps, x.directive = .offset → t.zone.isSome) (run : Text)
    (hrun : ∀ c ∈ run, Unicode.isBlank c) (hb : run ≠ [] → beginsBlank ps) :
    Pattern.fit? (itemsOf ps) (run ++ ps.flatMap (renderPiece t)) = some (captures ps t, []) := by
  induction ps generalizing run with
  | nil =>
    have hnil : run = [] := by
      by_contra hne
      cases hb hne
    rw [hnil]
    rfl
  | cons p ps ih =>
    have hcs : ps.IsChain MayFollow := hc.tail
    cases p with
    | inl x =>
      have hnil : run = [] := by
        by_contra hne
        cases hb hne
      have hzs : ∀ z ∈ letters ps, z.directive = .offset → t.zone.isSome :=
        fun z hm => hz z (List.mem_cons_of_mem x hm)
      have hrest := ih hcs hzs [] (by simp) (by simp)
      have ho : x.directive = .offset → ps.flatMap (renderPiece t) = [] ∧ t.zone.isSome := by
        intro hx
        refine ⟨?_, hz x (by simp [letters]) hx⟩
        rcases ps with _ | ⟨next | c, ps⟩
        · rfl
        · exact absurd (List.isChain_cons_cons.1 hc).1 (by simp [MayFollow])
        · exact absurd hx (List.isChain_cons_cons.1 hc).1.1
      rw [hnil, List.nil_append, List.flatMap_cons, renderPiece, itemsOf]
      exact fit?_part (x.takes t (halts_render hc t) ho) hrest
    | inr c =>
      have hzs : ∀ z ∈ letters ps, z.directive = .offset → t.zone.isSome := hz
      rw [List.flatMap_cons, renderPiece, itemsOf]
      by_cases hblank : Unicode.isBlank c
      · have hrun' : ∀ d ∈ run ++ [c], Unicode.isBlank d := by
          intro d hd
          rcases List.mem_append.1 hd with hd | hd
          · exact hrun d hd
          · rw [List.mem_singleton.1 hd]
            exact hblank
        rw [if_pos hblank, ← List.append_assoc]
        by_cases hnext : beginsBlank ps
        · rw [if_pos hnext]
          exact ih hcs hzs (run ++ [c]) hrun' fun _ => hnext
        · have hrest := ih hcs hzs [] (by simp) (by simp)
          rw [if_neg hnext]
          exact fit?_blanks (by simp) hrun' (startsBlank_render hzs (by simpa using hnext)) hrest
      · have hnil : run = [] := by
          by_contra hne
          exact hblank (hb hne)
        have hrest := ih hcs hzs [] (by simp) (by simp)
        rw [if_neg hblank, hnil, List.nil_append, List.singleton_append, Pattern.fit?,
          if_pos (sameLetter_self c)]
        exact hrest

end DateFormat

namespace Pattern

/-- A match captures the parts of the pattern in their order. -/
theorem map_fst_of_fit? {items : List Item} {text : Text} {found : Captures × Text}
    (h : fit? items text = some found) : found.1.map Prod.fst = items.filterMap Item.directive? := by
  induction items generalizing text found with
  | nil =>
    cases h
    rfl
  | cons item items ih =>
    cases item with
    | literal p =>
      rcases text with _ | ⟨c, rest⟩
      · cases h
      · simp only [fit?, Option.ite_none_right_eq_some] at h
        exact ih h.2
    | blanks =>
      obtain ⟨rest, -, hr⟩ := List.exists_of_findSome?_eq_some h
      exact ih hr
    | part d =>
      obtain ⟨⟨taken, rest⟩, -, hr⟩ := List.exists_of_findSome?_eq_some h
      obtain ⟨inner, hi, rfl⟩ := Option.map_eq_some_iff.1 hr
      rw [List.map_cons, ih hi]
      rfl

/-- The first of the parts that is one of those before it. -/
def NamedAgain (ds : List Directive) (d : Directive) : Prop :=
  ∃ before after, ds = before ++ d :: after ∧ before.Nodup ∧ d ∈ before

theorem NamedAgain.duplicate {ds : List Directive} {d : Directive} (h : NamedAgain ds d) :
    List.Duplicate d ds := by
  obtain ⟨before, after, rfl, -, hd⟩ := h
  exact List.duplicate_iff_sublist.2
    ((List.singleton_sublist.2 hd).append (List.singleton_sublist.2 List.mem_cons_self))

/-- The parts with groups are distinct. Either all parts are, or the search ends at the first that is
not. -/
theorem redefinitionFrom_cases {earlier : List (Directive × Nat)} (h : (earlier.map Prod.fst).Nodup)
    (length groups : Nat) (items : List Item) :
    match redefinitionFrom length groups earlier items with
    | none => (earlier.map Prod.fst ++ items.filterMap Item.directive?).Nodup
    | some again => ∃ d, again.name = d.letter ∧
        NamedAgain (earlier.map Prod.fst ++ items.filterMap Item.directive?) d := by
  induction items generalizing earlier length groups with
  | nil => simpa [redefinitionFrom] using h
  | cons item items ih =>
    cases item with
    | literal c => exact ih h _ _
    | blanks => exact ih h _ _
    | part d =>
      cases hd : earlier.lookup d with
      | some n =>
        have hmem : d ∈ earlier.map Prod.fst := by
          obtain ⟨before, after, rfl, -⟩ := List.lookup_eq_some_iff.1 hd
          simp
        simp only [redefinitionFrom, hd]
        exact ⟨d, rfl, _, _, rfl, h, hmem⟩
      | none =>
        have hnew : d ∉ earlier.map Prod.fst := by
          rintro hm
          obtain ⟨entry, hentry, rfl⟩ := List.mem_map.1 hm
          simpa using List.lookup_eq_none_iff.1 hd entry hentry
        have hnodup : ((earlier ++ [(d, groups + 1)]).map Prod.fst).Nodup := by
          rw [List.map_append, List.map_singleton, ← List.concat_eq_append, List.nodup_concat]
          exact ⟨hnew, h⟩
        have hsplit : earlier.map Prod.fst ++ (Item.part d :: items).filterMap Item.directive? =
            (earlier ++ [(d, groups + 1)]).map Prod.fst ++ items.filterMap Item.directive? := by
          rw [List.map_append, List.append_assoc]
          rfl
        rw [hsplit]
        simp only [redefinitionFrom, hd]
        exact ih hnodup _ _

/-- Compiling refuses nothing but a part named twice. -/
theorem redefinition?_eq_none_iff {items : List Item} :
    redefinition? items = none ↔ (items.filterMap Item.directive?).Nodup := by
  have hcases := @redefinitionFrom_cases [] List.nodup_nil 0 0 items
  rw [← redefinition?] at hcases
  cases hagain : redefinition? items with
  | none =>
    rw [hagain] at hcases
    simpa using hcases
  | some again =>
    rw [hagain] at hcases
    obtain ⟨d, -, hd⟩ := hcases
    simpa using hd.duplicate.not_nodup

/-- The part that the fault names is the one whose second naming comes first. -/
theorem namedAgain_of_redefinition? {items : List Item} {again : Redefinition}
    (h : redefinition? items = some again) :
    ∃ d, again.name = d.letter ∧ NamedAgain (items.filterMap Item.directive?) d := by
  have hcases := @redefinitionFrom_cases [] List.nodup_nil 0 0 items
  rw [← redefinition?, h] at hcases
  exact hcases

end Pattern
end FieldRules
