import FieldRules.Date.Letter
import FieldRules.Proofs.Decimal
import Mathlib.Data.List.Basic

/-! What a part takes first from a text that starts with the part as a letter writes it: just that,
if no digit comes after it. -/
namespace FieldRules

def Halts (rest : Text) : Prop := ∀ c tail, rest = c :: tail → ¬ Unicode.isDigit c

theorem halts_nil : Halts [] := by
  intro c tail h
  cases h

theorem halts_cons {c : Char} (h : ¬ Unicode.isDigit c) (tail : Text) : Halts (c :: tail) := by
  rintro d rest heq
  cases heq
  exact h

namespace Directive

def Slot.isNumeric : Slot → Bool
  | .digit low high => '0' ≤ low && high ≤ '9'
  | .anyDigit => true
  | .mark _ => false

private theorem Slot.isDigit_of_accepts {s : Slot} {c : Char} (hs : s.isNumeric) (h : s.accepts c) :
    Unicode.isDigit c := by
  cases s with
  | digit low high =>
    simp only [isNumeric, accepts, Bool.and_eq_true, decide_eq_true_eq] at hs h
    apply Unicode.isDigit_of_isDigit
    simp only [Char.isDigit, Bool.and_eq_true, decide_eq_true_eq]
    exact ⟨Char.le_trans hs.1 h.1, Char.le_trans h.2 hs.2⟩
  | anyDigit => exact h
  | mark m => cases hs

/-- A form does not reach past a word if it could only go on with digits. -/
theorem Form.take?_append {form : Form} {word rest : Text}
    (h : ∀ s ∈ form.drop word.length, Slot.isNumeric s) (hr : Halts rest) :
    take? form (word ++ rest) = (take? form word).map fun p => (p.1, p.2 ++ rest) := by
  induction form generalizing word with
  | nil => simp [take?]
  | cons s form ih =>
    rcases word with _ | ⟨c, word⟩
    · rcases rest with _ | ⟨c, rest⟩
      · rfl
      · have hc : ¬ s.accepts c := fun ha =>
          hr c rest rfl (Slot.isDigit_of_accepts (h s (by simp)) ha)
        simp [take?, hc]
    · have htail : take? form (word ++ rest) = (take? form word).map fun p => (p.1, p.2 ++ rest) :=
        ih fun s' hs' => h s' (by simpa using hs')
      by_cases hc : s.accepts c
      · simp only [List.cons_append, take?, hc, if_true, htail, Option.map_map]
        rfl
      · simp [take?, hc]

theorem Form.take?_replicate {s : Slot} {word : Text} (h : ∀ c ∈ word, s.accepts c) (rest : Text) :
    take? (List.replicate word.length s) (word ++ rest) = some (word, rest) := by
  induction word with
  | nil => rfl
  | cons c word ih =>
    have hc := h c List.mem_cons_self
    simp [List.replicate_succ, take?, hc, ih fun d hd => h d (List.mem_cons_of_mem _ hd)]

theorem Form.length_le_of_take? {form : Form} {t : Text} {p : Text × Text} (h : take? form t = some p) :
    form.length ≤ t.length := by
  induction form generalizing t p with
  | nil => simp
  | cons s form ih =>
    rcases t with _ | ⟨c, t⟩
    · cases h
    · simp only [take?] at h
      split at h
      · obtain ⟨q, hq, -⟩ := Option.map_eq_some_iff.1 h
        simpa using ih hq
      · cases h

def Takes (d : Directive) (word rest : Text) : Prop :=
  ∃ others, d.candidates (word ++ rest) = (word, rest) :: others

/-- Whether a part in digits takes the whole of a word first, and could only go on with digits. -/
def takesAlone (d : Directive) (word : Text) : Bool :=
  d.names.isEmpty && d.forms.all (fun form => (form.drop word.length).all Slot.isNumeric) &&
    (d.forms.filterMap (·.take? word)).head? == some (word, [])

/-- A part that is taken alone is taken before anything that does not prolong it. -/
theorem takes_of_takesAlone {d : Directive} {word rest : Text} (h : d.takesAlone word)
    (hr : Halts rest) :
    d.Takes word rest := by
  simp only [takesAlone, Bool.and_eq_true, List.isEmpty_iff, List.all_eq_true, beq_iff_eq] at h
  obtain ⟨⟨hn, hd⟩, hw⟩ := h
  obtain ⟨others, ho⟩ := List.head?_eq_some_iff.1 hw
  have hforms : d.forms.filterMap (·.take? (word ++ rest)) =
      (d.forms.filterMap (·.take? word)).map fun p => (p.1, p.2 ++ rest) := by
    rw [List.map_filterMap]
    exact List.filterMap_congr fun form hf => Form.take?_append (hd form hf) hr
  refine ⟨others.map fun p => (p.1, p.2 ++ rest), ?_⟩
  rw [candidates, hn, hforms, ho]
  simp

private theorem takeName?_eq_some_iff {name t : Text} {p : Text × Text} :
    takeName? name t = some p ↔ t = p.1 ++ p.2 ∧ p.1.map Char.toLower = name := by
  unfold takeName?
  constructor
  · intro h
    split at h
    · rename_i hl
      cases h
      exact ⟨(List.take_append_drop _ _).symm, hl⟩
    · cases h
  · rintro ⟨rfl, rfl⟩
    simp

def PrefixFree (names : List Text) : Prop := ∀ n ∈ names, ∀ n' ∈ names, n.isPrefixOf n' → n = n'

instance (names : List Text) : Decidable (PrefixFree names) := by
  unfold PrefixFree
  infer_instance

/-- Names of which none begins another are taken whole, in any case. -/
theorem takes_name {d : Directive} {word : Text} (hf : d.forms = []) (hd : PrefixFree d.names)
    (hw : word.map Char.toLower ∈ d.names) (rest : Text) : d.Takes word rest := by
  have honly : ∀ n ∈ d.names, ∀ p, takeName? n (word ++ rest) = some p → p = (word, rest) := by
    rintro n hn ⟨first, last⟩ hp
    obtain ⟨heq, hlow⟩ := takeName?_eq_some_iff.1 hp
    have hprefix : first <+: word ++ rest := ⟨last, heq.symm⟩
    have hsame : first.map Char.toLower = word.map Char.toLower := by
      rcases List.prefix_or_prefix_of_prefix hprefix (List.prefix_append word rest) with hpw | hpw
      · exact hd _ (hlow ▸ hn) _ hw (List.isPrefixOf_iff_prefix.2 (hpw.map _))
      · exact (hd _ hw _ (hlow ▸ hn) (List.isPrefixOf_iff_prefix.2 (hpw.map _))).symm
    have hlen : word.length = first.length := by simpa using (congrArg List.length hsame).symm
    obtain ⟨rfl, rfl⟩ := List.append_inj heq hlen
    rfl
  have hself : takeName? (word.map Char.toLower) (word ++ rest) = some (word, rest) :=
    takeName?_eq_some_iff.2 ⟨rfl, rfl⟩
  have hmem : (word, rest) ∈ d.names.filterMap (takeName? · (word ++ rest)) :=
    List.mem_filterMap.2 ⟨_, hw, hself⟩
  unfold Takes
  rw [candidates, hf, List.filterMap_nil, List.nil_append]
  rcases hc : d.names.filterMap (takeName? · (word ++ rest)) with _ | ⟨p, others⟩
  · simp [hc] at hmem
  · obtain ⟨n, hn, hp⟩ := List.mem_filterMap.1 (hc ▸ List.mem_cons_self : p ∈ d.names.filterMap _)
    rw [honly n hn p hp]
    exact ⟨others, rfl⟩

end Directive
end FieldRules
