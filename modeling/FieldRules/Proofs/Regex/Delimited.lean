import FieldRules.Network
import FieldRules.Proofs.Regex.Reading
import Mathlib.Data.List.TakeWhile

/-! Delimited patterns: which texts are one, and which body and which flags they stand for. A text has
one body at most, since a closing delimiter is no letter of a flag. -/
namespace FieldRules.Regex

@[ext] structure Delimited where
  opening : Char
  body : Text
  letters : Text
  notWord : ¬ Unicode.isAlphanumeric opening
  notBlank : ¬ Unicode.isBlank opening
  notEscape : opening ≠ '\\'
  known : ∀ c ∈ letters, c ∈ "imsxu".toList

def Delimited.text (d : Delimited) : Text :=
  d.opening :: (d.body ++ closing d.opening :: d.letters)

namespace Flags

def named (letters : Text) : Flags where
  ignoreCase := 'i' ∈ letters
  multiline := 'm' ∈ letters
  dotAll := 's' ∈ letters
  verbose := 'x' ∈ letters
  unicode := 'u' ∈ letters

private theorem named_cons (c : Char) (t : Text) : named (c :: t) = (named [c]).union (named t) := by
  simp [named, union]

private theorem named_congr {t t' : Text} (h : ∀ c, c ∈ t' ↔ c ∈ t) : named t' = named t := by
  simp only [named, h]

private theorem named_of_unicode {t t' : Text} (h : ∀ c, c ∈ t' ↔ c = 'u' ∨ c ∈ t) :
    named t' = (named t).union { unicode := true } := by
  simp [named, union, h]

end Flags

private theorem modifiers?_cons (c : Char) (t : Text) :
    modifiers? (c :: t) =
      if c ∈ "imsxu".toList then (modifiers? t).map fun g => (Flags.named [c]).union g else none := by
  by_cases hc : c ∈ "imsxu".toList
  · rw [if_pos hc]
    have hletter : ¬ (c = 'a' ∨ c = 't') ∧ Flags.ofLetter? c = some (.named [c]) := by
      have hcases : c = 'i' ∨ c = 'm' ∨ c = 's' ∨ c = 'x' ∨ c = 'u' := by simpa using hc
      rcases hcases with rfl | rfl | rfl | rfl | rfl <;> decide
    rw [modifiers?, if_neg hletter.1, hletter.2]
    cases modifiers? t <;> rfl
  · rw [if_neg hc, modifiers?]
    split
    · rfl
    · rename_i hplain
      have hnone : Flags.ofLetter? c = none := by
        unfold Flags.ofLetter?
        split <;> simp_all
      rw [hnone]

/-- Letters of flags stand for the flags that they name, in any order and however often. -/
theorem modifiers?_eq_some_iff {t : Text} {f : Flags} :
    modifiers? t = some f ↔ (∀ c ∈ t, c ∈ "imsxu".toList) ∧ Flags.named t = f := by
  induction t generalizing f with
  | nil => simp [modifiers?, Flags.named]
  | cons c t ih =>
    rw [modifiers?_cons, Flags.named_cons c t, List.forall_mem_cons]
    by_cases hc : c ∈ "imsxu".toList
    · rw [if_pos hc, Option.map_eq_some_iff]
      constructor
      · rintro ⟨g, hg, rfl⟩
        obtain ⟨ht, rfl⟩ := ih.1 hg
        exact ⟨⟨hc, ht⟩, rfl⟩
      · rintro ⟨⟨-, ht⟩, rfl⟩
        exact ⟨_, ih.2 ⟨ht, rfl⟩, rfl⟩
    · rw [if_neg hc]
      exact ⟨nofun, fun h => absurd h.1.1 hc⟩

private theorem cutLast_append {c : Char} {before after : Text} (h : c ∉ after) :
    cutLast c (before ++ c :: after) = some (before, after) := by
  have hplain : ∀ a ∈ after.reverse, decide (a ≠ c) = true := by
    intro a ha
    have hne : a ≠ c := fun hac => h (hac ▸ List.mem_reverse.1 ha)
    simp [hne]
  have htake : ((before ++ c :: after).reverse.takeWhile (· ≠ c)).reverse = after := by
    rw [List.reverse_append, List.reverse_cons, List.append_assoc,
      List.takeWhile_append_of_pos hplain]
    simp
  have hlength : (before ++ c :: after).length - after.length - 1 = before.length := by
    simp only [List.length_append, List.length_cons]
    omega
  have hcontains : (before ++ c :: after).contains c := by simp
  simp only [cutLast, hcontains, if_true, htake, hlength, List.take_left']

/-- A text is cut at the last place where the character stands. -/
theorem cutLast_eq_some_iff {c : Char} {t before after : Text} :
    cutLast c t = some (before, after) ↔ t = before ++ c :: after ∧ c ∉ after := by
  constructor
  · intro h
    have hc : c ∈ t.reverse := by
      rw [List.mem_reverse]
      by_contra hc
      simp [cutLast, hc] at h
    obtain ⟨as, bs, ht, has⟩ := List.eq_append_cons_of_mem hc
    have hsplit : t = bs.reverse ++ c :: as.reverse := by
      simpa using congrArg List.reverse ht
    have hlast : c ∉ as.reverse := fun hm => has (List.mem_reverse.1 hm)
    rw [hsplit, cutLast_append hlast] at h
    cases h
    exact ⟨hsplit, hlast⟩
  · rintro ⟨rfl, hc⟩
    exact cutLast_append hc

/-- Letters and digits of all scripts, blanks and the backslash delimit nothing. -/
theorem isDelimiter_iff {c : Char} :
    isDelimiter c ↔ ¬ Unicode.isAlphanumeric c ∧ ¬ Unicode.isBlank c ∧ c ≠ '\\' := by
  simp [isDelimiter, and_assoc]

namespace Delimited
variable (d : Delimited)

private theorem closing_notMem : closing d.opening ∉ d.letters := by
  intro hm
  have hword : "imsxu".toList.all Unicode.isAlphanumeric := by decide +kernel
  have hclosing := d.known _ hm
  have hself : closing d.opening = d.opening := by
    revert hclosing
    unfold closing
    split <;> simp
  exact d.notWord (List.all_eq_true.1 hword _ (hself ▸ hclosing))

private theorem cutLast_text : cutLast (closing d.opening) (d.body ++ closing d.opening :: d.letters) =
    some (d.body, d.letters) :=
  cutLast_append d.closing_notMem

private theorem parts?_text : parts? d.text = some (d.body, Flags.named d.letters) := by
  have hdelimiter := isDelimiter_iff.2 ⟨d.notWord, d.notBlank, d.notEscape⟩
  have hletters : modifiers? d.letters = some (Flags.named d.letters) :=
    modifiers?_eq_some_iff.2 ⟨d.known, rfl⟩
  rw [text, parts?, if_pos hdelimiter, d.cutLast_text, Option.bind_some]
  simp only [hletters, Option.map_some]

/-- A text has one delimited form at most. -/
theorem text_injective : Function.Injective text := by
  intro d d' h
  obtain ⟨hopening, htail⟩ := List.cons.inj h
  have hcut := d.cutLast_text
  rw [htail, hopening, d'.cutLast_text] at hcut
  obtain ⟨hbody, hletters⟩ := Prod.mk.inj (Option.some.inj hcut)
  exact Delimited.ext hopening hbody.symm hletters.symm

/-- A text with parts is a delimited pattern. -/
theorem exists_of_parts? {t body : Text} {f : Flags} (h : parts? t = some (body, f)) :
    ∃ d : Delimited, d.text = t ∧ d.body = body ∧ Flags.named d.letters = f := by
  rcases t with _ | ⟨opening, t⟩
  · cases h
  rw [parts?] at h
  split at h
  · rename_i hdelimiter
    obtain ⟨⟨before, after⟩, hcut, hmodifiers⟩ := Option.bind_eq_some_iff.1 h
    obtain ⟨g, hg, hpair⟩ := Option.map_eq_some_iff.1 hmodifiers
    obtain ⟨rfl, rfl⟩ := Prod.mk.inj hpair
    obtain ⟨hknown, rfl⟩ := modifiers?_eq_some_iff.1 hg
    obtain ⟨rfl, -⟩ := cutLast_eq_some_iff.1 hcut
    obtain ⟨hword, hblank, hescape⟩ := isDelimiter_iff.1 hdelimiter
    exact ⟨⟨opening, before, after, hword, hblank, hescape, hknown⟩, rfl, rfl, rfl⟩
  · cases h

/-- What a delimited pattern stands for is its body under the flags of its letters. -/
theorem ofDelimited_text :
    ofDelimited d.text =
      match ofBody (Flags.named d.letters) d.body with
      | .ok regex => .ok (some regex)
      | .error .malformed => .ok none
      | .error (.broken fault) => .error fault := by
  cases hread : ofBody (Flags.named d.letters) d.body with
  | ok regex => simp only [ofDelimited, d.parts?_text, hread]
  | error problem => cases problem <;> simp only [ofDelimited, d.parts?_text, hread]

private theorem ofDelimited_eq_none_iff :
    ofDelimited d.text = .ok none ↔ ofBody (Flags.named d.letters) d.body = .error .malformed := by
  rw [d.ofDelimited_text]
  split <;> simp [*]

/-- Reading a delimited text compiles its body under the flags its letters name. -/
theorem ofDelimited_eq_some_iff {r : Regex} :
    ofDelimited d.text = .ok (some r) ↔ ofBody (Flags.named d.letters) d.body = .ok r := by
  rw [d.ofDelimited_text]
  split <;> simp [*]

end Delimited

/-- A text that stands for a pattern has a delimited form. -/
theorem exists_of_ofDelimited {t : Text} {r : Regex} (h : ofDelimited t = .ok (some r)) :
    ∃ d : Delimited, d.text = t := by
  unfold ofDelimited at h
  split at h
  · cases h
  · rename_i hparts
    obtain ⟨d, hd, -⟩ := Delimited.exists_of_parts? hparts
    exact ⟨d, hd⟩

/-- A delimited pattern stands for no pattern if its body is malformed under the flags that its letters
name, and for what the body is read as under these flags if it is read. The order of the letters and
their number do not matter, and a letter `u` more makes no difference unless the body itself asks for
letters of ASCII; nothing is read if it does. A text that stands for a pattern has one delimited form
and no other. -/
theorem ofDelimited_splits :
    (∀ d : Delimited,
      (ofDelimited d.text = .ok none ↔
        ofBody (Flags.named d.letters) d.body = .error .malformed) ∧
      ∀ r, ofDelimited d.text = .ok (some r) ↔ ofBody (Flags.named d.letters) d.body = .ok r) ∧
    (∀ d d' : Delimited, d'.opening = d.opening → d'.body = d.body →
      ((∀ c, c ∈ d'.letters ↔ c ∈ d.letters) → ofDelimited d'.text = ofDelimited d.text) ∧
      ((∀ c, c ∈ d'.letters ↔ c = 'u' ∨ c ∈ d.letters) →
        (¬ AsksForAscii (Flags.named d.letters) d.body → ofDelimited d'.text = ofDelimited d.text) ∧
        (AsksForAscii (Flags.named d.letters) d.body → ∀ r, ofDelimited d'.text ≠ .ok (some r)))) ∧
    ∀ t r, ofDelimited t = .ok (some r) →
      ∃ d : Delimited, d.text = t ∧ ofBody (Flags.named d.letters) d.body = .ok r ∧
        ∀ d' : Delimited, d'.text = t → d' = d := by
  refine ⟨fun d => ⟨d.ofDelimited_eq_none_iff, fun r => d.ofDelimited_eq_some_iff⟩, ?_, ?_⟩
  · intro d d' hopening hbody
    refine ⟨fun hletters => ?_, fun hletters => ⟨fun hplain => ?_, fun hascii r => ?_⟩⟩
    · rw [d'.ofDelimited_text, d.ofDelimited_text, hbody, Flags.named_congr hletters]
    · rw [d'.ofDelimited_text, d.ofDelimited_text, hbody, Flags.named_of_unicode hletters,
        ofBody_union_unicode hplain]
    · rw [Ne, d'.ofDelimited_eq_some_iff, hbody, Flags.named_of_unicode hletters]
      exact ofBody_union_unicode_of_ascii hascii r
  · intro t r h
    obtain ⟨d, rfl⟩ := exists_of_ofDelimited h
    exact ⟨d, rfl, d.ofDelimited_eq_some_iff.1 h, fun d' hd' => Delimited.text_injective hd'⟩

/-- A delimited pattern is read if there is room for its body. -/
theorem Delimited.regex_text (d : Delimited) (s : Surroundings) :
    s.regex d.text = match s.stack.patternProblem? (Flags.named d.letters) d.body with
      | some problem => .error (@Fault.nestingTooDeep problem)
      | none => ofDelimited d.text := by
  rw [Surroundings.regex, d.parts?_text]
  rfl

/-- A body that opens no group is never too deep, however little room the stack has. -/
theorem Delimited.regex_text_of_flat (d : Delimited) (s : Surroundings) (flat : '(' ∉ d.body) :
    s.regex d.text = ofDelimited d.text := by
  rw [d.regex_text, s.stack.patternProblem?_of_flat flat]

/-- Letters of ASCII inside the body and letters of all scripts behind it do not go together. -/
theorem ofDelimited_unicode_of_ascii : (∃ r, ofDelimited "/(?a)x/".toList = .ok (some r)) ∧
    ofDelimited "/(?a)x/u".toList = .error .lettersOfTwoKinds :=
  ⟨⟨_, rfl⟩, rfl⟩

end FieldRules.Regex
