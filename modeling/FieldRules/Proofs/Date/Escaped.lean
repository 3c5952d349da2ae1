import FieldRules.Proofs.Date.RoundTrip

/-! Formats in which no character has a meaning. Such a format is read by a pattern that takes other
cases of its letters and other runs of blanks as well, but it writes one text only, so that no other
text has it. -/
namespace FieldRules.DateFormat

def escaped (s : Text) : Text := s.flatMap fun c => ['\\', c]

private theorem pieces?_escaped (s : Text) : pieces? (escaped s) = .ok (s.map .inr) := by
  induction s with
  | nil => rfl
  | cons c s ih =>
    change (pieces? (escaped s)).map (.inr c :: ·) = _
    rw [ih]
    rfl

private theorem mem_escaped_iff {c : Char} (hc : c ≠ '\\') {s : Text} : c ∈ escaped s ↔ c ∈ s := by
  simp [escaped, hc]

private theorem ofPattern_escaped {s : Text} (h : '%' ∉ s) :
    ofPattern (escaped s) = .ok (.lettered (escaped s) (s.map .inr)) := by
  have hpercent : '%' ∉ escaped s := fun hm => h ((mem_escaped_iff (by decide)).1 hm)
  exact (ofPattern_eq_ok_iff hpercent).2 ⟨_, pieces?_escaped s, rfl⟩

private theorem letters_inr (s : Text) : letters (s.map .inr) = [] := by
  simp [letters]

private theorem isChain_inr (s : Text) : (s.map Sum.inr).IsChain MayFollow :=
  (List.pairwise_map.2 (List.pairwise_of_forall fun _ _ => trivial)).isChain

/-- Without letters a format writes the same for every date. -/
theorem render_inr (pattern s : Text) (t : DateTime) :
    render (.lettered pattern (s.map .inr)) t = s := by
  simp [render, renderPiece, List.flatMap_map]

private theorem redefinition?_inr (s : Text) : Pattern.redefinition? (itemsOf (s.map .inr)) = none := by
  rw [Pattern.redefinition?_eq_none_iff, directives_of_itemsOf, letters_inr]
  exact List.nodup_nil

section
variable {pattern s : Text} (h : ofPattern pattern = .ok (.lettered pattern (s.map .inr)))
include h

/-- The text fits, and a date can be made of which no part is captured. -/
theorem read_inr : ∃ t, read (.lettered pattern (s.map .inr)) s = .ok t := by
  obtain ⟨t, ht⟩ : ∃ t, (Found.ofCaptures []).dateTime? = some t := ⟨_, rfl⟩
  refine ⟨t, ?_⟩
  have hitems := items?_directives (percent_notMem_of_ofPattern h)
  have hfit := fit?_itemsOf (t := t) (isChain_inr s) (by simp [letters_inr]) [] (by simp) (by simp)
  have hwritten := render_inr pattern s t
  rw [render] at hwritten
  rw [hwritten, List.nil_append, captures, letters_inr] at hfit
  rw [read, directives, Pattern.read, hitems]
  simp only [redefinition?_inr, hfit, List.map_nil, ht]

private theorem read_inr_ne_repeated (text : Text) (again : Redefinition) :
    read (.lettered pattern (s.map .inr)) text ≠ .error (.repeated again) := by
  rw [read, directives, Pattern.read, items?_directives (percent_notMem_of_ofPattern h)]
  simp only [redefinition?_inr]
  split
  · split <;> simp
  · simp

/-- A pattern without letters is matched by its own text and nothing else. -/
private theorem roundTrips_inr (text : Text) :
    roundTrips (.lettered pattern (s.map .inr)) text = .ok (decide (text = s)) := by
  rw [roundTrips]
  cases hread : read (.lettered pattern (s.map .inr)) text with
  | ok t =>
    rw [Except.ok.injEq, Bool.eq_iff_iff, beq_iff_eq, decide_eq_true_iff, render_inr]
    exact eq_comm
  | error problem =>
    cases problem with
    | mismatch =>
      have hother : text ≠ s := by
        rintro rfl
        obtain ⟨t, ht⟩ := read_inr h
        rw [hread] at ht
        cases ht
      simp [hother]
    | «repeated» again => exact absurd hread (read_inr_ne_repeated h text again)

end

/-- Text in which every character is escaped is a format, whatever the characters are. The format
writes this text for every date, and no other text has it. -/
theorem escaped_matches_only_itself {s : Text} (h : '%' ∉ s) :
    ∃ f, ofPattern (escaped s) = .ok f ∧ (∀ t, f.render t = s) ∧
      ∀ text, f.roundTrips text = .ok (decide (text = s)) :=
  ⟨_, ofPattern_escaped h, render_inr _ s, roundTrips_inr (ofPattern_escaped h)⟩

/-- Letters with a meaning, a backslash, two kinds of blanks in a row, and parentheses. -/
def label : Text := "Day\\ \t(d)".toList

/-- With other cases and one blank the text can be read, but it is not what the format writes. -/
theorem label_matches_only_itself :
    '%' ∉ label ∧ ∃ f, ofPattern (escaped label) = .ok f ∧ f.roundTrips label = .ok true ∧
      (∃ t, f.read "dAY\\ (D)".toList = .ok t) ∧
      f.roundTrips "dAY\\ (D)".toList = .ok false := by
  have h : '%' ∉ label := by decide
  obtain ⟨f, hf, -, htrips⟩ := escaped_matches_only_itself h
  have hread : ∃ t, f.read "dAY\\ (D)".toList = .ok t := by
    cases (ofPattern_escaped h).symm.trans hf
    exact ⟨_, rfl⟩
  refine ⟨h, f, hf, ?_, hread, ?_⟩
  · rw [htrips, decide_eq_true rfl]
  · rw [htrips, decide_eq_false (by decide)]

end FieldRules.DateFormat
