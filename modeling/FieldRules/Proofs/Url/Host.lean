import FieldRules.Proofs.Decimal
import FieldRules.Proofs.Text
import FieldRules.Proofs.Unicode.Case
import FieldRules.Url

/-! Hosts and ports of URLs: a host name is read label by label, in either case, and a port as a
number. -/
namespace FieldRules.Url

structure Label (t : Text) : Prop where
  characters : ∀ c ∈ t, c.isAlphanum ∨ c = '-'
  first : t.head?.any Char.isAlphanum
  last : t.getLast?.any Char.isAlphanum

def Dotted (P : Text → Prop) (t : Text) : Prop :=
  ∃ labels, labels ≠ [] ∧ (∀ l ∈ labels, P l) ∧
    (t = Text.join ['.'] labels ∨ t = Text.join ['.'] labels ++ ['.'])

def HostName (t : Text) : Prop := Dotted Label t

/-- What follows the colon after a host, if there is one: nothing, or a number up to 65535 of at
most 4300 digits. -/
inductive Port : Option Text → Prop where
  | absent : Port none
  | empty : Port (some [])
  | number {t : Text} (digits : ∀ c ∈ t, c.isDigit) (length : t.length ≤ 4300)
      (value : Nat.ofDigitChars 10 t 0 ≤ 65535) : Port (some t)

/-! ### Labels with dots between them -/

section
variable {P : Text → Prop} {t : Text}

private theorem dotted_iff_split (hP : ∀ l, P l → '.' ∉ l) :
    Dotted P t ↔ (∀ l ∈ t.split '.', P l) ∨
      ∃ labels, labels ≠ [] ∧ t.split '.' = labels ++ [[]] ∧ ∀ l ∈ labels, P l := by
  constructor
  · rintro ⟨labels, hne, h, rfl | rfl⟩
    · rw [Text.split_join (fun l hl => hP l (h l hl)) hne]
      exact .inl h
    · refine .inr ⟨labels, hne, ?_, h⟩
      -- the last dot stands before an empty piece
      rw [← List.append_nil (_ ++ ['.']), ← Text.join_concat hne, Text.split_join _ (by simp)]
      intro l hl
      rcases List.mem_append.1 hl with hl | hl
      · exact hP l (h l hl)
      · rw [List.mem_singleton.1 hl]
        exact List.not_mem_nil
  · rintro (h | ⟨labels, hne, hs, h⟩)
    · exact ⟨_, List.cons_ne_nil _ _, h, .inl (Text.join_split '.' t).symm⟩
    · refine ⟨labels, hne, h, .inr ?_⟩
      rw [← Text.join_split '.' t, hs, Text.join_concat hne, List.append_nil]

private theorem dotted_map {f : Char → Char} (hf : ∀ c, f c = '.' ↔ c = '.') (hP : ∀ l, P l → '.' ∉ l) :
    Dotted P (t.map f) ↔ Dotted (fun l => P (l.map f)) t := by
  have hPf (l : Text) (hl : P (l.map f)) : '.' ∉ l := fun hm =>
    hP _ hl (List.mem_map.2 ⟨'.', hm, (hf '.').2 rfl⟩)
  rw [dotted_iff_split hP, dotted_iff_split hPf, Text.split_map fun c _ => hf c]
  refine or_congr (by simp) ?_
  constructor
  · rintro ⟨labels, hne, hs, h⟩
    obtain ⟨labels, last, hs, rfl, hlast⟩ := List.map_eq_append_iff.1 hs
    obtain ⟨piece, rfl, hpiece⟩ := List.map_eq_singleton_iff.1 hlast
    rw [List.map_eq_nil_iff.1 hpiece] at hs
    exact ⟨labels, by simpa using hne, hs, by simpa using h⟩
  · rintro ⟨labels, hne, hs, h⟩
    exact ⟨labels.map (List.map f), by simpa using hne, by simp [hs], by simpa using h⟩

theorem Dotted.notMem (hP : ∀ l, P l → '.' ∉ l) (h : Dotted P t) {c : Char}
    (hc : ∀ l, P l → c ∉ l) (hd : c ≠ '.') : c ∉ t := by
  intro hm
  obtain ⟨piece, hpiece, hm⟩ := Text.mem_split.2 ⟨hm, hd⟩
  rcases (dotted_iff_split hP).1 h with h | ⟨labels, -, hs, h⟩
  · exact hc piece (h piece hpiece) hm
  · rw [hs, List.mem_append, List.mem_singleton] at hpiece
    rcases hpiece with hpiece | rfl
    · exact hc piece (h piece hpiece) hm
    · contradiction

end

theorem Label.notMem {t : Text} (h : Label t) {c : Char} (hc : c = '.' ∨ c = '%') : c ∉ t := by
  intro hm
  have := h.characters c hm
  rcases hc with rfl | rfl <;> simp at this

theorem HostName.percent_notMem {t : Text} (h : HostName t) : '%' ∉ t :=
  Dotted.notMem (fun _ h => h.notMem (.inl rfl)) h (fun _ h => h.notMem (.inr rfl)) (by decide)

namespace Authority

/-! ### Ports -/

private theorem isPort_iff (t : Text) :
    isPort t ↔ (∀ c ∈ t, c.isDigit) ∧ t.length ≤ 4300 ∧ Nat.ofDigitChars 10 t 0 ≤ 65535 := by
  have hvalue (h : ∀ c ∈ t, c.isDigit) :
      Decimal.value (t.filterMap Unicode.digit?) = Nat.ofDigitChars 10 t 0 := Found.numberOf_eq h
  simp only [isPort, Bool.and_eq_true, List.all_eq_true, decide_eq_true_eq, and_assoc]
  refine and_congr_right fun h => ?_
  rw [hvalue h, Decimal.digitLimit]

/-- No port, an empty one and digits up to the greatest port all pass. -/
theorem port_iff (port : Option Text) : Port port ↔ isPort (port.getD []) := by
  rw [isPort_iff]
  constructor
  · intro h
    cases h with
    | absent | empty => simp
    | number digits length value => exact ⟨digits, length, value⟩
  · rintro ⟨digits, length, value⟩
    cases port with
    | none => exact .absent
    | some t => exact .number digits length value

/-! ### Host names -/

private theorem isLabelCharacter_toLower (c : Char) : isLabelCharacter c.toLower = c.isAlphanum := by
  change (c.toLower.isLower || c.toLower.isDigit) = (c.isUpper || c.isLower || c.isDigit)
  rcases Unicode.toLower_cases c with ⟨hc, hl⟩ | ⟨hc, h⟩
  · rw [hc, hl]
    rfl
  · rw [h, Bool.eq_false_iff.2 hc]
    rfl

theorem character_of_isLabel {t : Text} (h : isLabel t) {c : Char} (hc : c ∈ t) :
    isLabelCharacter c ∨ c = '-' := by
  simp only [isLabel, Bool.and_eq_true, List.all_eq_true, Bool.or_eq_true, decide_eq_true_eq] at h
  exact h.1.1 c hc

theorem notMem_of_isLabel {t : Text} (h : isLabel t) {c : Char} (hc : c = '.' ∨ c = '%') :
    c ∉ t := by
  intro hm
  have := character_of_isLabel h hm
  rcases hc with rfl | rfl <;> contradiction

private theorem isLabel_map_toLower (t : Text) : isLabel (t.map Char.toLower) ↔ Label t := by
  have hhyphen (c : Char) : c.toLower = '-' ↔ c = '-' := Unicode.toLower_eq_iff (by decide)
  have hany (o : Option Char) :
      (o.map Char.toLower).any isLabelCharacter = o.any Char.isAlphanum := by
    cases o with
    | none => rfl
    | some c => exact isLabelCharacter_toLower c
  rw [isLabel, List.head?_map, List.getLast?_map, hany, hany]
  simp only [Bool.and_eq_true, List.all_map, List.all_eq_true, Function.comp_apply, Bool.or_eq_true,
    decide_eq_true_eq, isLabelCharacter_toLower, hhyphen]
  exact ⟨fun ⟨⟨hc, hf⟩, hl⟩ => ⟨hc, hf, hl⟩, fun ⟨hc, hf, hl⟩ => ⟨⟨hc, hf⟩, hl⟩⟩

/-- A host name is labels between dots, with at most one dot at its end. -/
theorem isHostName_iff_dotted (t : Text) : isHostName t ↔ Dotted (isLabel ·) t := by
  rw [dotted_iff_split fun l h => notMem_of_isLabel h (.inl rfl), isHostName]
  rcases List.eq_nil_or_concat (t.split '.') with h | ⟨labels, last, h⟩
  · rw [h]
    simp
  · rw [h]
    simp [and_assoc, or_imp, forall_and, List.length_pos_iff]

theorem percent_notMem_of_isHostName {t : Text} (h : isHostName t) : '%' ∉ t :=
  Dotted.notMem (fun _ h => notMem_of_isLabel h (.inl rfl)) ((isHostName_iff_dotted t).1 h)
    (fun _ h => notMem_of_isLabel h (.inr rfl)) (by decide)

/-- A lower-cased text is a host name exactly when the text is one in any case. -/
theorem isHostName_map_toLower (t : Text) : isHostName (t.map Char.toLower) ↔ HostName t := by
  rw [isHostName_iff_dotted, dotted_map (fun c => Unicode.toLower_eq_iff (by decide))
    fun l h => notMem_of_isLabel h (.inl rfl)]
  simp only [isLabel_map_toLower]
  rfl

end Authority
end FieldRules.Url
