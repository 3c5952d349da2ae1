import FieldRules.Proofs.Json.Reader
import FieldRules.Proofs.Trial

/-! The rule `json` accepts strict JSON texts and nothing else: no names for numbers, no mark in front,
nothing behind the value. -/
namespace FieldRules.Json

/-! ### Outside of strings -/

/-- Where a place in a text stands to the strings of the text. -/
inductive Quotation where
  | outside
  | inside
  /-- Inside, behind a backslash. -/
  | escaped
  deriving DecidableEq, Repr

namespace Quotation

def next : Quotation → Char → Quotation
  | .outside, c => if c = '"' then .inside else .outside
  | .inside, c => if c = '"' then .outside else if c = '\\' then .escaped else .inside
  | .escaped, _ => .inside

def after (q : Quotation) (t : Text) : Quotation := t.foldl next q

/-- The characters of a text that stand outside of its strings. -/
def bare (q : Quotation) : Text → Text
  | [] => []
  | c :: t => (if q = .outside then [c] else []) ++ (q.next c).bare t

@[simp] private theorem after_cons (q : Quotation) (c : Char) (t : Text) :
    q.after (c :: t) = (q.next c).after t := rfl

private theorem after_append (q : Quotation) (a b : Text) : q.after (a ++ b) = (q.after a).after b :=
  List.foldl_append

private theorem bare_append (q : Quotation) (a b : Text) :
    q.bare (a ++ b) = q.bare a ++ (q.after a).bare b := by
  induction a generalizing q with
  | nil => rfl
  | cons c a ih => simp [bare, ih]

end Quotation

/-- A character that has a place outside of strings. -/
def isBare (c : Char) : Bool :=
  isBlank c || c.isDigit || "[]\x7b\x7d:,\"+-.Eaeflnrstu".toList.contains c

/-- A text from one quotation to another that has outside of its strings only what has a place there. -/
structure Spans (q r : Quotation) (t : Text) : Prop where
  after : q.after t = r
  bare : ∀ c ∈ q.bare t, isBare c

section
variable {q r s : Quotation}

private theorem spans_nil : Spans q q [] where
  after := rfl
  bare := by simp [Quotation.bare]

private theorem Spans.append {a b : Text} (ha : Spans q r a) (hb : Spans r s b) :
    Spans q s (a ++ b) where
  after := by rw [Quotation.after_append, ha.after, hb.after]
  bare := by
    rw [Quotation.bare_append, ha.after]
    exact List.forall_mem_append.2 ⟨ha.bare, hb.bare⟩

private theorem Spans.cons {c : Char} {t : Text} (hc : q = .outside → isBare c)
    (ht : Spans (q.next c) r t) :
    Spans q r (c :: t) where
  after := ht.after
  bare := by
    rw [Quotation.bare]
    refine List.forall_mem_append.2 ⟨?_, ht.bare⟩
    split <;> simp_all

private theorem spans_of_forall {t : Text} (h : ∀ c ∈ t, isBare c ∧ c ≠ '"') :
    Spans .outside .outside t := by
  induction t with
  | nil => exact spans_nil
  | cons c t ih =>
    obtain ⟨⟨hc, hq⟩, ht⟩ := List.forall_mem_cons.1 h
    refine .cons (fun _ => hc) ?_
    simpa [Quotation.next, hq] using ih ht

private theorem Blanks.spans {t : Text} (h : Blanks t) : Spans .outside .outside t := by
  refine spans_of_forall fun c hc => ?_
  rcases h c hc with rfl | rfl | rfl | rfl <;> decide

private theorem Digits.spans {t : Text} (h : Digits t) : Spans .outside .outside t := by
  refine spans_of_forall fun c hc => ⟨?_, ne_of_isDigit (h c hc) (by decide)⟩
  simp [isBare, h c hc]

private theorem Whole.spans {t : Text} (h : Whole t) : Spans .outside .outside t := by
  cases h with
  | zero => exact Digits.spans (by simp [Digits])
  | digits first _ others => exact Digits.spans (digits_cons.2 ⟨first, others⟩)

private theorem Fraction.spans {t : Text} (h : Fraction t) : Spans .outside .outside t := by
  cases h with
  | absent => exact spans_nil
  | digits first others => exact .cons (by decide) (Digits.spans (digits_cons.2 ⟨first, others⟩))

private theorem Sign.spans {t : Text} (h : Sign t) : Spans .outside .outside t := by
  cases h with
  | absent => exact spans_nil
  | plus | minus => exact .cons (by decide) spans_nil

private theorem Exponent.spans {t : Text} (h : Exponent t) : Spans .outside .outside t := by
  cases h with
  | absent => exact spans_nil
  | digits mark sign first others =>
    have hrest := sign.spans.append (Digits.spans (digits_cons.2 ⟨first, others⟩))
    rcases mark with rfl | rfl
    · exact .cons (by decide) hrest
    · exact .cons (by decide) hrest

private theorem Unsigned.spans {digits : Nat} {t : Text} (h : Unsigned digits t) :
    Spans .outside .outside t := by
  obtain ⟨w, f, e, rfl, hw, hf, he, -⟩ := h
  exact hw.spans.append (hf.spans.append he.spans)

private theorem Number.spans {digits : Nat} {t : Text} (h : Number digits t) :
    Spans .outside .outside t := by
  cases h with
  | positive unsigned => exact unsigned.spans
  | negative unsigned => exact .cons (by decide) unsigned.spans

private theorem Characters.spans {t : Text} (h : Characters t) : Spans .inside .inside t := by
  induction h with
  | nil => exact spans_nil
  | plain quote backslash _ _ ih =>
    refine .cons (by simp) ?_
    simpa [Quotation.next, quote, backslash] using ih
  | short letter _ ih => exact .cons (by simp) (.cons (by simp [Quotation.next]) ih)
  | @code x t _ hexadecimal _ ih =>
    have hx : Spans .inside .inside x := by
      clear * - hexadecimal
      induction x with
      | nil => exact spans_nil
      | cons c x ih =>
        obtain ⟨hc, hx⟩ := List.forall_mem_cons.1 hexadecimal
        have hquote : c ≠ '"' := by rintro rfl; contradiction
        have hbackslash : c ≠ '\\' := by rintro rfl; contradiction
        refine .cons (by simp) ?_
        simpa [Quotation.next, hquote, hbackslash] using ih hx
    exact .cons (by simp) (.cons (by simp [Quotation.next]) (hx.append ih))

private theorem Quoted.spans {t : Text} (h : Quoted t) : Spans .outside .outside t := by
  obtain ⟨body, rfl, hbody⟩ := h
  exact .cons (by decide) (hbody.spans.append (.cons (by simp) spans_nil))

private theorem Container.opener_spans (k : Container) : Spans .outside .outside [k.opener] := by
  cases k <;> exact .cons (by decide) spans_nil

private theorem Container.closer_spans (k : Container) : Spans .outside .outside [k.closer] := by
  cases k <;> exact .cons (by decide) spans_nil

private theorem Derives.spans {digits depth : Nat} {p : Production} {t : Text}
    (h : Derives digits p depth t) : Spans .outside .outside t := by
  induction h with
  | name known =>
    have hnames : ["true".toList, "false".toList, "null".toList].all fun t =>
        t.all fun c => isBare c && c ≠ '"' := by decide
    refine spans_of_forall fun c hc => ?_
    simpa using List.all_eq_true.1 (List.all_eq_true.1 hnames _ known) c hc
  | number number => exact number.spans
  | string quoted => exact quoted.spans
  | empty k blanks => exact k.opener_spans.append (blanks.spans.append k.closer_spans)
  | filled k before _ after ih =>
    exact k.opener_spans.append (before.spans.append (ih.append (after.spans.append k.closer_spans)))
  | member key before after _ ih =>
    exact key.spans.append (before.spans.append (.cons (by decide) (after.spans.append ih)))
  | last _ ih => exact ih
  | more _ before after _ ih ihs =>
    exact ih.append (before.spans.append (.cons (by decide) (after.spans.append ihs)))

private theorem Document.spans {digits depth : Nat} {t : Text} (h : Document digits depth t) :
    Spans .outside .outside t := by
  obtain ⟨w, v, w', rfl, hw, hv, hw'⟩ := h
  exact hw.spans.append (hv.spans.append hw'.spans)

/-- What begins outside of the strings of a document has a place there. -/
theorem Document.isBare {digits depth : Nat} {before rest : Text} {c : Char}
    (h : Document digits depth (before ++ c :: rest))
    (outside : Quotation.outside.after before = .outside) : isBare c := by
  refine h.spans.bare c ?_
  rw [Quotation.bare_append, outside, Quotation.bare]
  simp

end

/-! ### Behind the value -/

def Place.isNumeric : Place → Bool
  | .zero | .whole _ | .fraction | .exponentDigits => true
  | _ => false

private theorem run_append {depth : Nat} {s : State} {a b : Text} :
    run depth s (a ++ b) = match run depth s a with
      | .ok s' => run depth s' b
      | .error e => .error e := by
  induction a generalizing s with
  | nil => rfl
  | cons c a ih =>
    cases h : step depth s c with
    | ok s' => simp [run, h, ih]
    | error e => simp [run, h]

section
variable {depth : Nat} {inside : List Container} {c : Char} {s s' : State}

private theorem isNumeric_following (h : following inside c = .ok s) : s.place.isNumeric = false := by
  unfold following malformed at h
  grind [Place.isNumeric]

private theorem isNumeric_afterWhole (h : afterWhole inside c = .ok s) : s.place.isNumeric = false := by
  unfold afterWhole at h
  grind [Place.isNumeric, isNumeric_following]

private theorem isNumeric_opening (hc : ¬ c.isDigit) (h : opening depth inside c = .ok s) :
    s.place.isNumeric = false := by
  have hz : c ≠ '0' := by rintro rfl; exact hc (by decide)
  unfold opening enter malformed at h
  grind [Place.isNumeric]

/-- Only a digit leads to a place at which a number may end. -/
theorem isNumeric_step (hc : ¬ c.isDigit) (h : step depth s c = .ok s') :
    s'.place.isNumeric = false := by
  have hz : c ≠ '0' := by rintro rfl; exact hc (by decide)
  obtain ⟨place, inside⟩ := s
  cases place <;> simp only [step, malformed] at h <;>
    grind [Place.isNumeric, isNumeric_following, isNumeric_afterWhole, isNumeric_opening]

/-- After a whole document only blanks may follow, or what makes its number longer. -/
theorem continues_of_isFinal (hs : s.isFinal) (hc : ¬ isBlank c) (h : step depth s c = .ok s') :
    s.place.isNumeric ∧ (c.isDigit ∨ c = '.' ∨ c = 'e' ∨ c = 'E') := by
  obtain ⟨place, inside⟩ := s
  obtain ⟨hinside, hplace⟩ := Bool.and_eq_true_iff.1 hs
  obtain rfl : inside = [] := List.isEmpty_iff.1 hinside
  have hfollowing (r : State) : following [] c ≠ .ok r := by simp [following, hc, malformed]
  cases place <;> simp only [step, afterWhole] at h hplace <;>
    grind [Place.isNumeric]

private theorem isDigit_getLast_of_run {t : Text} (h : run depth start t = .ok s)
    (hs : s.place.isNumeric) :
    ∃ c, t.getLast? = some c ∧ c.isDigit := by
  rcases List.eq_nil_or_concat t with rfl | ⟨u, c, rfl⟩
  · cases h
    contradiction
  · refine ⟨c, by simp, ?_⟩
    by_contra hc
    rw [List.concat_eq_append, run_append] at h
    cases hu : run depth start u with
    | error e => simp [hu] at h
    | ok s₁ =>
      cases hstep : step depth s₁ c with
      | error e => simp [hu, run, hstep] at h
      | ok s₂ =>
        obtain rfl : s₂ = s := by simpa [hu, run, hstep] using h
        rw [isNumeric_step hc hstep] at hs
        contradiction

end

/-- Two documents, one longer than the other by more than blanks, are numbers. -/
theorem continues_of_isDocument {depth : Nat} {t u : Text} {c : Char}
    (ht : isDocument depth t = .ok true) (hc : ¬ isBlank c)
    (hu : isDocument depth (t ++ c :: u) = .ok true) :
    (∃ d, t.getLast? = some d ∧ d.isDigit) ∧ (c.isDigit ∨ c = '.' ∨ c = 'e' ∨ c = 'E') := by
  obtain ⟨s, hrun, hs⟩ := isDocument_eq_true_iff.1 ht
  obtain ⟨s', hrun', -⟩ := isDocument_eq_true_iff.1 hu
  rw [run_append, hrun] at hrun'
  cases hstep : step depth s c with
  | error e => simp [run, hstep] at hrun'
  | ok s₁ =>
    obtain ⟨hnumeric, hcontinues⟩ := continues_of_isFinal hs hc hstep
    exact ⟨isDigit_getLast_of_run hrun hnumeric, hcontinues⟩

end FieldRules.Json

namespace FieldRules

open Json

private theorem Checker.check_json_eq_passed_iff {field t : Text} {data : FieldMap Value}
    {s : Surroundings}
    {a : Option Text} :
    (Checker.json.check field (.text t) data s a).verdict = .returned [] ↔
      isDocument s.stack.documentDepth t = .ok true := Verdict.ofResult_eq_nil_iff

/-- The rule `json` passes a text whose arrays and objects nest at most 300 deep, and whose whole
numbers have at most 4300 digits, if and only if it is a JSON text. In particular no name for an
infinite or undefined number passes anywhere outside of a string, no text with a byte order mark in
front, and nothing with more than blanks behind its value: only a number can be made longer. -/
theorem check_json_iff_document (field : Text) (data : FieldMap Value) (s : Surroundings)
    (a : Option Text) :
    let passes (t : Text) := (Checker.json.check field (.text t) data s a).verdict = .returned []
    (∀ t, (∀ digits depth, Document digits depth t → Document 4300 300 t) →
      (passes t ↔ ∃ digits depth, Document digits depth t)) ∧
    (∀ before name rest, Quotation.outside.after before = .outside →
      name ∈ ["NaN".toList, "Infinity".toList, "-Infinity".toList] →
      ¬ passes (before ++ (name ++ rest))) ∧
    (∀ t, ¬ passes ('\ufeff' :: t)) ∧
    ∀ t c u, passes t → ¬ isBlank c → passes (t ++ c :: u) →
      (∃ d, t.getLast? = some d ∧ d.isDigit) ∧ (c.isDigit ∨ c = '.' ∨ c = 'e' ∨ c = 'E') := by
  intro passes
  have hpasses (t : Text) : passes t ↔ isDocument s.stack.documentDepth t = .ok true :=
    Checker.check_json_eq_passed_iff
  refine ⟨fun t hbound => ?_, fun before name rest outside hname h => ?_, fun t h => ?_,
    fun t c u ht hc hu => ?_⟩
  · rw [hpasses, isDocument_iff]
    constructor
    · intro h
      exact ⟨_, _, h⟩
    · rintro ⟨digits, depth, h⟩
      exact (hbound digits depth h).mono s.stack.documentDepth_ge
  · have hdocument := isDocument_iff.1 ((hpasses _).1 h)
    simp only [List.mem_cons, List.not_mem_nil, or_false] at hname
    rcases hname with rfl | rfl | rfl
    · exact absurd (hdocument.isBare outside) (by decide)
    · exact absurd (hdocument.isBare outside) (by decide)
    · -- the minus sign has a place outside of strings, the letter after it has none
      have hdash : Quotation.outside.after (before ++ ['-']) = .outside := by
        rw [Quotation.after_append, outside]
        rfl
      have hsplit : before ++ ("-Infinity".toList ++ rest) =
          before ++ ['-'] ++ 'I' :: ("nfinity".toList ++ rest) := by simp
      rw [hsplit] at hdocument
      exact absurd (hdocument.isBare hdash) (by decide)
  · rw [hpasses] at h
    simp [isDocument, run, step, start, isBlank, opening, malformed] at h
  · exact continues_of_isDocument ((hpasses t).1 ht) hc ((hpasses _).1 hu)

/-- An array with an object in it, and the same with a name for a number in the place of the number. -/
theorem nested_document :
    let text := "[ \x7b\"k\": -1.5e3\x7d]".toList
    let s : Surroundings :=
      { settings := .error [], respond := fun _ => .broken [], addresses := .never }
    let passes (t : Text) :=
      (Checker.json.check [] (.text t) .empty s none).verdict = .returned []
    passes text ∧ ¬ passes "[ \x7b\"k\": NaN\x7d]".toList ∧ ¬ passes ('\ufeff' :: text) ∧
      ¬ passes (text ++ [',']) := by
  intro text s passes
  have hspace : Blanks [' '] := by simp [Blanks]
  have hkey : Quoted "\"k\"".toList :=
    ⟨['k'], rfl, .plain (by decide) (by decide) (by decide) .nil⟩
  have hnumber : Derives 4300 .value 298 "-1.5e3".toList :=
    .number (.negative ⟨['1'], ['.', '5'], ['e', '3'], rfl, .digits (by decide) (by decide) digits_nil,
      .digits (by decide) digits_nil, .digits (.inl rfl) .absent (by decide) digits_nil, by simp⟩)
  have hobject : Derives 4300 .value 299 _ :=
    .filled .object blanks_nil (.last (.member hkey blanks_nil hspace hnumber)) blanks_nil
  have harray : Derives 4300 .value 300 _ :=
    .filled .array hspace (.last hobject) blanks_nil
  have hdocument : Document 4300 300 text := ⟨[], _, [], rfl, blanks_nil, harray, blanks_nil⟩
  obtain ⟨hiff, hname, hmark, hbehind⟩ :=
    check_json_iff_document [] .empty s none
  have hpasses : passes text := (hiff text fun _ _ _ => hdocument).2 ⟨_, _, hdocument⟩
  refine ⟨hpasses, ?_, hmark text, fun h => ?_⟩
  · exact hname "[ \x7b\"k\": ".toList "NaN".toList "\x7d]".toList (by decide) (by decide)
  · obtain ⟨⟨d, hd, hdigit⟩, -⟩ := hbehind text ',' [] hpasses (by decide) h
    obtain rfl : d = ']' := by simpa [text] using hd.symm
    contradiction

end FieldRules
