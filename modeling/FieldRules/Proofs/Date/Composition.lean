import FieldRules.Checker
import FieldRules.Proofs.Date.Native
import Mathlib.Data.List.DropRight

/-! Patterns one after the other. If the first does not end with a backslash that still waits for its
character, each is translated as if it stood alone, and the first refusal is that of the whole. What
is refused is an unescaped letter without a meaning. -/
namespace FieldRules.DateFormat

/-- An odd run of backslashes at the end: the next character is escaped. -/
def EndsInEscape (front : Text) : Prop := (front.rtakeWhile (· = '\\')).length % 2 = 1

instance (front : Text) : Decidable (EndsInEscape front) := by unfold EndsInEscape; infer_instance

def Unsupported (c : Char) : Prop := c.isAlpha ∧ ∀ x : Letter, x.char ≠ c

/-- The character stands in the pattern without being escaped, and has no meaning. -/
def Offends (c : Char) (pattern : Text) : Prop :=
  ∃ front rest, pattern = front ++ c :: rest ∧ ¬ EndsInEscape front ∧ Unsupported c

/-- Nothing in front of the character offends. -/
def OffendsFirst (c : Char) (pattern : Text) : Prop :=
  ∃ front rest, pattern = front ++ c :: rest ∧ ¬ EndsInEscape front ∧ Unsupported c ∧
    ∀ d, ¬ Offends d front

def refusal? (pattern : Text) : Option Text :=
  match ofPattern pattern with
  | .error c => some (Expectation.dateFormat c).text
  | .ok _ => none

/-- The second pattern written after the first is refused for the first of them that is, or else is
both of them, one after the other. -/
structure Composes (p q : Text) : Prop where
  refused : (∃ c, ofPattern (p ++ q) = .error c) ↔
    (∃ c, ofPattern p = .error c) ∨ ∃ c, ofPattern q = .error c
  refusal : refusal? (p ++ q) = (refusal? p).or (refusal? q)
  accepted : ∀ f g, ofPattern p = .ok f → ofPattern q = .ok g →
    ∃ both, ofPattern (p ++ q) = .ok both ∧ both.directives = f.directives ++ g.directives ∧
      ∀ t, both.render t = f.render t ++ g.render t

/-! ### Runs of backslashes -/

/-- A character in front is part of the run at the end if nothing else is behind it. -/
theorem length_run_cons (c : Char) (t : Text) :
    ((c :: t).rtakeWhile (· = '\\')).length =
      if c = '\\' ∧ (t.rtakeWhile (· = '\\')).length = t.length then t.length + 1
      else (t.rtakeWhile (· = '\\')).length := by
  simp only [List.rtakeWhile, List.length_reverse, List.reverse_cons, List.takeWhile_append]
  by_cases hall : (t.reverse.takeWhile (· = '\\')).length = t.length
  · by_cases hc : c = '\\' <;> simp [hall, hc]
  · simp [hall]

private theorem endsInEscape_cons {c : Char} (hc : c ≠ '\\') (t : Text) :
    EndsInEscape (c :: t) ↔ EndsInEscape t := by
  rw [EndsInEscape, length_run_cons, if_neg fun h => hc h.1, EndsInEscape]

/-- A backslash and the character that it escapes do not matter for what comes behind. -/
theorem endsInEscape_pair (c : Char) (t : Text) :
    EndsInEscape ('\\' :: c :: t) ↔ EndsInEscape t := by
  have hle : (t.rtakeWhile (· = '\\')).length ≤ t.length := (List.rtakeWhile_suffix _ t).length_le
  rw [EndsInEscape, length_run_cons, length_run_cons, EndsInEscape, List.length_cons]
  by_cases hc : c = '\\'
  · by_cases hall : (t.rtakeWhile (· = '\\')).length = t.length
    · -- the run grows by the pair, so that it stays odd or even
      simp only [hc, hall, and_self, if_true]
      omega
    · simp only [hall, and_false, if_false]
      rw [if_neg (by omega)]
  · simp only [hc, false_and, if_false]
    rw [if_neg (by omega)]

/-- A pattern is read by escaped and other characters, and perhaps a backslash without a character. -/
theorem escaped_induction {motive : Text → Prop} (nil : motive []) (stray : motive ['\\'])
    (escaped : ∀ c t, motive t → motive ('\\' :: c :: t))
    (plain : ∀ c t, c ≠ '\\' → motive t → motive (c :: t)) : ∀ t, motive t
  | [] => nil
  | [c] => by
    by_cases hc : c = '\\'
    · exact hc ▸ stray
    · exact plain c [] hc nil
  | c :: d :: t => by
    by_cases hc : c = '\\'
    · exact hc ▸ escaped d t (escaped_induction nil stray escaped plain t)
    · exact plain c (d :: t) hc (escaped_induction nil stray escaped plain (d :: t))

/-! ### Pieces -/

private theorem pieces?_pair (c : Char) (t : Text) :
    pieces? ('\\' :: c :: t) = (pieces? t).map (.inr c :: ·) := rfl

private theorem pieces?_of_unsupported {c : Char} (h : Unsupported c) (t : Text) :
    pieces? (c :: t) = .error c := by
  have hc : c ≠ '\\' := by
    rintro rfl
    cases h.1
  rw [pieces?_cons hc, Letter.ofChar?_eq_none_iff.2 h.2]
  exact if_pos h.1

private theorem pieces?_of_supported {c : Char} (hc : c ≠ '\\') (h : ¬ Unsupported c) (t : Text) :
    pieces? (c :: t) = (pieces? t).map (pieceOf c :: ·) := by
  rw [pieces?_cons hc, pieceOf]
  cases hletter : Letter.ofChar? c with
  | some x => rfl
  | none => exact if_neg fun halpha => h ⟨halpha, Letter.ofChar?_eq_none_iff.1 hletter⟩

/-- The pieces of two patterns, if both have pieces, one after the other. -/
theorem pieces?_append {p : Text} (h : ¬ EndsInEscape p) (q : Text) :
    pieces? (p ++ q) = (pieces? p).bind fun ps => (pieces? q).map (ps ++ ·) := by
  have hmap : ∀ (piece : Piece) (first : Except Char (List Piece)),
      (first.bind fun ps => (pieces? q).map (ps ++ ·)).map (piece :: ·) =
        (first.map (piece :: ·)).bind fun ps => (pieces? q).map (ps ++ ·) := by
    intro piece first
    cases first with
    | error c => rfl
    | ok ps => cases pieces? q <;> rfl
  induction p using escaped_induction with
  | nil =>
    rw [List.nil_append]
    cases pieces? q <;> rfl
  | stray => exact absurd rfl h
  | escaped c t ih =>
    have hrest := ih ((endsInEscape_pair c t).not.1 h)
    rw [List.cons_append, List.cons_append, pieces?_pair, pieces?_pair, hrest, hmap]
  | plain c t hc ih =>
    have hrest := ih ((endsInEscape_cons hc t).not.1 h)
    by_cases hu : Unsupported c
    · rw [List.cons_append, pieces?_of_unsupported hu, pieces?_of_unsupported hu]
      rfl
    · rw [List.cons_append, pieces?_of_supported hc hu, pieces?_of_supported hc hu, hrest, hmap]

/-- Pieces end at an unescaped letter without a meaning, behind what has pieces. -/
theorem exists_of_pieces?_eq_error {p : Text} {c : Char} (h : pieces? p = .error c) :
    ∃ front rest, p = front ++ c :: rest ∧ ¬ EndsInEscape front ∧ Unsupported c ∧
      ∃ ps, pieces? front = .ok ps := by
  have hmap : ∀ {piece : Piece} {rest : Except Char (List Piece)},
      rest.map (piece :: ·) = .error c → rest = .error c := by
    intro piece rest hr
    cases rest with
    | error d => exact hr
    | ok ps => cases hr
  induction p using escaped_induction with
  | nil => cases h
  | stray => cases h
  | escaped d t ih =>
    obtain ⟨front, rest, rfl, hfront, hc, ps, hps⟩ := ih (hmap h)
    have hpieces : pieces? ('\\' :: d :: front) = .ok (.inr d :: ps) := by
      rw [pieces?_pair, hps]
      rfl
    exact ⟨_, rest, rfl, (endsInEscape_pair d front).not.2 hfront, hc, _, hpieces⟩
  | plain d t hd ih =>
    by_cases hu : Unsupported d
    · rw [pieces?_of_unsupported hu] at h
      cases h
      exact ⟨[], t, rfl, by decide, hu, [], rfl⟩
    · rw [pieces?_of_supported hd hu] at h
      obtain ⟨front, rest, rfl, hfront, hc, ps, hps⟩ := ih (hmap h)
      have hpieces : pieces? (d :: front) = .ok (pieceOf d :: ps) := by
        rw [pieces?_of_supported hd hu, hps]
        rfl
      exact ⟨_, rest, rfl, (endsInEscape_cons hd front).not.2 hfront, hc, _, hpieces⟩

private theorem exists_pieces?_eq_error_iff {p : Text} :
    (∃ c, pieces? p = .error c) ↔ ∃ c, Offends c p := by
  constructor
  · rintro ⟨c, h⟩
    obtain ⟨front, rest, hp, hfront, hc, -⟩ := exists_of_pieces?_eq_error h
    exact ⟨c, front, rest, hp, hfront, hc⟩
  · rintro ⟨c, front, rest, rfl, hfront, hc⟩
    rw [pieces?_append hfront, pieces?_of_unsupported hc]
    cases pieces? front with
    | error d => exact ⟨d, rfl⟩
    | ok ps => exact ⟨c, rfl⟩

/-- The refusal names the first letter that is neither supported nor escaped. -/
private theorem pieces?_eq_error_iff {p : Text} {c : Char} :
    pieces? p = .error c ↔ OffendsFirst c p := by
  constructor
  · intro h
    obtain ⟨front, rest, hp, hfront, hc, ps, hps⟩ := exists_of_pieces?_eq_error h
    refine ⟨front, rest, hp, hfront, hc, fun d hd => ?_⟩
    obtain ⟨e, he⟩ := exists_pieces?_eq_error_iff.2 ⟨d, hd⟩
    cases hps.symm.trans he
  · rintro ⟨front, rest, rfl, hfront, hc, hnone⟩
    rw [pieces?_append hfront, pieces?_of_unsupported hc]
    cases hp : pieces? front with
    | error d =>
      obtain ⟨e, he⟩ := exists_pieces?_eq_error_iff.1 ⟨d, hp⟩
      exact absurd he (hnone e)
    | ok ps => rfl

/-! ### Formats -/

section
variable {p q : Text} {c : Char} {f g : DateFormat}

private theorem ofPattern_eq_error_iff (h : '%' ∉ p) :
    ofPattern p = .error c ↔ pieces? p = .error c := by
  rw [ofPattern_of_notMem h]
  cases pieces? p <;> simp [Except.map]

/-- A rule refuses the pattern as its argument for the same letter. -/
theorem parse_of_refused (h : ofPattern p = .error c) :
    Checker.dateFormat.parse (some p) = .error (.unfit (.dateFormat c) p) := by
  cases p with
  | nil => cases h
  | cons d t =>
    have hparse : Checker.dateFormat.parse (some (d :: t)) = Checker.parseDateFormat (d :: t) := rfl
    rw [hparse, Checker.parseDateFormat, h]

private theorem notMem_append (hp : '%' ∉ p) (hq : '%' ∉ q) : '%' ∉ p ++ q := by simp [hp, hq]

variable (hp : '%' ∉ p) (hq : '%' ∉ q) (h : ¬ EndsInEscape p)
include hp hq h

private theorem append_of_first_refused (hf : ofPattern p = .error c) :
    ofPattern (p ++ q) = .error c := by
  rw [ofPattern_eq_error_iff (notMem_append hp hq), pieces?_append h,
    (ofPattern_eq_error_iff hp).1 hf]
  rfl

private theorem append_of_second_refused (hf : ofPattern p = .ok f) (hg : ofPattern q = .error c) :
    ofPattern (p ++ q) = .error c := by
  obtain ⟨ps, hps, -⟩ := (ofPattern_eq_ok_iff hp).1 hf
  rw [ofPattern_eq_error_iff (notMem_append hp hq), pieces?_append h, hps,
    (ofPattern_eq_error_iff hq).1 hg]
  rfl

/-- Patterns accepted apart are accepted joined, and write what they write apart. -/
private theorem append_of_accepted (hf : ofPattern p = .ok f) (hg : ofPattern q = .ok g) :
    ∃ both, ofPattern (p ++ q) = .ok both ∧ both.directives = f.directives ++ g.directives ∧
      ∀ t, both.render t = f.render t ++ g.render t := by
  obtain ⟨ps, hps, rfl⟩ := (ofPattern_eq_ok_iff hp).1 hf
  obtain ⟨qs, hqs, rfl⟩ := (ofPattern_eq_ok_iff hq).1 hg
  have hboth : pieces? (p ++ q) = .ok (ps ++ qs) := by
    rw [pieces?_append h, hps, hqs]
    rfl
  refine ⟨.lettered (p ++ q) (ps ++ qs), ?_, List.flatMap_append, fun t => List.flatMap_append⟩
  exact (ofPattern_eq_ok_iff (notMem_append hp hq)).2 ⟨_, hboth, rfl⟩

private theorem composes : Composes p q := by
  cases hf : ofPattern p with
  | error c =>
    have hboth := append_of_first_refused hp hq h hf
    exact ⟨by simp [hf, hboth], by simp [refusal?, hf, hboth], fun f g h' => by cases hf.symm.trans h'⟩
  | ok f =>
    cases hg : ofPattern q with
    | error c =>
      have hboth := append_of_second_refused hp hq h hf hg
      exact ⟨by simp [hf, hg, hboth], by simp [refusal?, hf, hg, hboth],
        fun f g _ h' => by cases hg.symm.trans h'⟩
    | ok g =>
      obtain ⟨both, hboth, hparts⟩ := append_of_accepted hp hq h hf hg
      refine ⟨by simp [hf, hg, hboth], by simp [refusal?, hf, hg, hboth], fun f' g' hf' hg' => ?_⟩
      cases hf.symm.trans hf'
      cases hg.symm.trans hg'
      exact ⟨both, hboth, hparts⟩

end

/-- A pattern that does not end inside of an escape is translated apart from what is written behind
it: of the two the first that is refused refuses the whole, with what is said of it alone, and if both
are accepted, the whole is read by the directives of both and writes what both write. A pattern is
refused if and only if it has an unescaped ASCII letter without a meaning; the first such letter is
the one that it is refused for, by a rule that is given the pattern as well. -/
theorem patterns_translate_apart :
    (∀ p q, '%' ∉ p → '%' ∉ q → ¬ EndsInEscape p → Composes p q) ∧
    ∀ p, '%' ∉ p → ((∃ c, ofPattern p = .error c) ↔ ∃ c, Offends c p) ∧
      ∀ c, (ofPattern p = .error c ↔ OffendsFirst c p) ∧
        (ofPattern p = .error c →
          Checker.dateFormat.parse (some p) = .error (.unfit (.dateFormat c) p)) := by
  refine ⟨fun p q => composes, fun p hp => ⟨?_, fun c => ⟨?_, parse_of_refused⟩⟩⟩
  · simp only [ofPattern_eq_error_iff hp]
    exact exists_pieces?_eq_error_iff
  · rw [ofPattern_eq_error_iff hp]
    exact pieces?_eq_error_iff

/-- A day and an escaped backslash: the run of backslashes at the end is even. -/
def dayAndBackslash : Text := "d\\\\".toList

/-- An hour and an escaped letter, behind which an unescaped one may be written. -/
def hourAndLetter : Text := "H\\T".toList

/-- The backslash at the end of the first pattern is itself escaped, so it takes nothing from what follows;
a letter without a meaning is refused there as anywhere. -/
theorem backslashes_translate_apart :
    ('%' ∉ dayAndBackslash ∧ '%' ∉ hourAndLetter ∧ ¬ EndsInEscape dayAndBackslash) ∧
    (∃ both, ofPattern (dayAndBackslash ++ hourAndLetter) = .ok both ∧
      both.directives = "%d\\%HT".toList) ∧
    Offends 'T' (dayAndBackslash ++ ['T']) ∧ ∃ c, ofPattern (dayAndBackslash ++ ['T']) = .error c := by
  have hday : '%' ∉ dayAndBackslash := by decide
  have hhour : '%' ∉ hourAndLetter := by decide
  have hends : ¬ EndsInEscape dayAndBackslash := by decide
  have hletter : '%' ∉ dayAndBackslash ++ ['T'] := by decide
  have hunsupported : Unsupported 'T' := ⟨by decide, fun x => by cases x <;> decide⟩
  have hoffends : Offends 'T' (dayAndBackslash ++ ['T']) := ⟨_, [], rfl, hends, hunsupported⟩
  obtain ⟨hcomposes, hrefused⟩ := patterns_translate_apart
  obtain ⟨both, hboth, hdirectives, -⟩ := (hcomposes _ _ hday hhour hends).accepted _ _ rfl rfl
  exact ⟨⟨hday, hhour, hends⟩, ⟨both, hboth, hdirectives⟩, hoffends,
    (hrefused _ hletter).1.2 ⟨'T', hoffends⟩⟩

end FieldRules.DateFormat
