import FieldRules.Proofs.Run.Offence
import FieldRules.Proofs.Text

/-! Rules are read back as they are written: one token each in a sequence, or with bars between
them where no bar is inside. -/
namespace FieldRules.Rule

/-- As rules come out of definitions: the name is trimmed and holds no colon, and there is a name or
an argument. -/
structure WellFormed (r : Rule) : Prop where
  trimmed : r.name.trim = r.name
  noColon : ':' ∉ r.name
  present : r.name ≠ [] ∨ r.argument ≠ none

private theorem text_of_none (name : Text) : text ⟨name, none⟩ = name := rfl

private theorem text_of_some (name argument : Text) :
    text ⟨name, some argument⟩ = name ++ ':' :: argument := rfl

/-! ### One token -/

private theorem ofToken_of_notMem {token : Text} (h : ':' ∉ token) :
    ofToken token = ⟨token.trim, none⟩ := by
  simp [ofToken, Text.cut_of_notMem h]

private theorem ofToken_append {before : Text} (h : ':' ∉ before) (argument : Text) :
    ofToken (before ++ ':' :: argument) = ⟨before.trim, some argument⟩ := by
  simp [ofToken, Text.cut_append h]

private theorem ofToken?_of_blank {token : Text} (h : ∀ c ∈ token, Unicode.isBlank c) :
    ofToken? token = none := by
  rw [ofToken?, if_pos (List.all_eq_true.2 h)]

private theorem ofToken?_of_not_blank {token : Text} (h : ¬ ∀ c ∈ token, Unicode.isBlank c) :
    ofToken? token = some (ofToken token) := by
  rw [ofToken?, if_neg (mt List.all_eq_true.1 h)]

private theorem not_blank_of_colon {token : Text} (h : ':' ∈ token) : ¬ ∀ c ∈ token, Unicode.isBlank c :=
  fun hall => absurd (hall ':' h) (by decide)

/-- Writing a rule out and reading it again gives the rule. -/
private theorem ofToken?_text {r : Rule} (h : r.WellFormed) : ofToken? r.text = some r := by
  obtain ⟨name, _ | argument⟩ := r
  · have hname : name.trim = name := h.trimmed
    have hne : name ≠ [] := h.present.resolve_right fun hn => hn rfl
    have hblank : ¬ ∀ c ∈ name, Unicode.isBlank c := by
      rw [← Text.strip_eq_nil_iff]
      exact fun hnil => hne (hname.symm.trans hnil)
    rw [text_of_none, ofToken?_of_not_blank hblank, ofToken_of_notMem h.noColon, hname]
  · have hname : name.trim = name := h.trimmed
    have hcolon : ':' ∈ name ++ ':' :: argument := by simp
    rw [text_of_some, ofToken?_of_not_blank (not_blank_of_colon hcolon), ofToken_append h.noColon,
      hname]

/-- A token that is a rule has a colon with the argument after it, or it is a trimmed name. -/
theorem ofToken?_cases {token : Text} {r : Rule} (h : ofToken? token = some r) :
    (∃ before argument, token = before ++ ':' :: argument ∧ ':' ∉ before ∧
      r = ⟨before.trim, some argument⟩) ∨
    ':' ∉ token ∧ (¬ ∀ c ∈ token, Unicode.isBlank c) ∧ r = ⟨token.trim, none⟩ := by
  by_cases hb : ∀ c ∈ token, Unicode.isBlank c
  · rw [ofToken?_of_blank hb] at h
    cases h
  rw [ofToken?_of_not_blank hb] at h
  obtain rfl := Option.some.inj h
  by_cases hc : ':' ∈ token
  · obtain ⟨before, argument, rfl, hbefore⟩ := List.eq_append_cons_of_mem hc
    exact .inl ⟨before, argument, rfl, hbefore, ofToken_append hbefore argument⟩
  · exact .inr ⟨hc, hb, ofToken_of_notMem hc⟩

/-- Only rules that can be written out are ever read. -/
private theorem wellFormed_of_ofToken? {token : Text} {r : Rule} (h : ofToken? token = some r) :
    r.WellFormed := by
  rcases ofToken?_cases h with ⟨before, argument, rfl, hbefore, rfl⟩ | ⟨hc, hb, rfl⟩
  · exact ⟨Text.trim_trim before, fun hm => hbefore (Text.mem_of_mem_strip hm), .inr (by simp)⟩
  · refine ⟨Text.trim_trim token, fun hm => hc (Text.mem_of_mem_strip hm), .inl fun hnil => hb ?_⟩
    exact Text.strip_eq_nil_iff.1 hnil

private theorem mem_of_mem_text {token : Text} {r : Rule} (h : ofToken? token = some r) {c : Char}
    (hc : c ∈ r.text) : c ∈ token := by
  rcases ofToken?_cases h with ⟨before, argument, rfl, -, rfl⟩ | ⟨-, -, rfl⟩
  · rw [text_of_some, List.mem_append] at hc
    exact List.mem_append.2 (hc.imp_left Text.mem_of_mem_strip)
  · exact Text.mem_of_mem_strip hc

/-- A character other than the colon stands in the text of a rule where it stands in a part of it. -/
theorem mem_text_iff {r : Rule} {c : Char} (hc : c ≠ ':') :
    c ∈ r.text ↔ c ∈ r.name ∨ ∃ argument, r.argument = some argument ∧ c ∈ argument := by
  obtain ⟨name, _ | argument⟩ := r
  · simp [text_of_none]
  · simp [text_of_some, hc]

/-! ### A whole definition -/

def sequenceOf (rs : List Rule) : Value := .list (rs.map fun r => .text r.text)

def lineOf (rs : List Rule) : Value := .text (Text.join ['|'] (rs.map text))

private theorem ofTokens_map_text {rs : List Rule} (h : ∀ r ∈ rs, r.WellFormed) :
    ofTokens (rs.map text) = rs := by
  induction rs with
  | nil => rfl
  | cons r rest ih =>
    rw [List.map_cons, ofTokens, List.filterMap_cons_some (ofToken?_text (h r List.mem_cons_self))]
    rw [← ofTokens, ih fun q hq => h q (List.mem_cons_of_mem _ hq)]

private theorem ofDefinition_texts (ts : List Text) :
    ofDefinition (.list (ts.map .text)) = .ok (ofTokens ts) := by
  have htokens : tokensOf (ts.map .text) = .ok ts := by
    induction ts with
    | nil => rfl
    | cons t rest ih => rw [List.map_cons, tokensOf_cons_text, ih]; rfl
  simp [ofDefinition, tokens, htokens, Except.map]

private theorem ofDefinition_text (t : Text) :
    ofDefinition (.text t) = .ok (ofTokens (t.split '|')) := rfl

/-- A line of rules and the sequence of its pieces read alike. -/
theorem ofDefinition_pieces (t : Text) :
    ofDefinition (.list ((t.split '|').map .text)) = ofDefinition (.text t) :=
  ofDefinition_texts (t.split '|')

/-- A bar between two texts leaves the rules of both. -/
theorem ofDefinition_bar (t u : Text) :
    ofDefinition (.text (t ++ '|' :: u)) = .ok (listOf (.text t) ++ listOf (.text u)) := by
  rw [listOf_eq (ofDefinition_text t), listOf_eq (ofDefinition_text u), ofDefinition_text,
    Text.split_append, ofTokens, List.filterMap_append, ← ofTokens, ← ofTokens]

private theorem ofDefinition_join {ts : List Text} (h : ∀ t ∈ ts, '|' ∉ t) :
    ofDefinition (.text (Text.join ['|'] ts)) = .ok (ofTokens ts) := by
  cases ts with
  | nil => rfl
  | cons t rest => rw [ofDefinition_text, Text.split_join h (List.cons_ne_nil t rest)]

theorem ofDefinition_sequenceOf {rs : List Rule} (h : ∀ r ∈ rs, r.WellFormed) :
    ofDefinition (sequenceOf rs) = .ok rs := by
  have hmap : sequenceOf rs = .list ((rs.map text).map .text) := by
    rw [sequenceOf, List.map_map]
    rfl
  rw [hmap, ofDefinition_texts, ofTokens_map_text h]

theorem ofDefinition_lineOf {rs : List Rule} (h : ∀ r ∈ rs, r.WellFormed)
    (hbar : ∀ r ∈ rs, '|' ∉ r.text) : ofDefinition (lineOf rs) = .ok rs := by
  rw [lineOf, ofDefinition_join (by simpa using hbar), ofTokens_map_text h]

/-- The rules of a definition are those of its tokens. -/
theorem exists_token_of_ofDefinition {d : Value} {rs : List Rule} (h : ofDefinition d = .ok rs)
    {r : Rule} (hr : r ∈ rs) :
    ∃ ts token, tokens d = .ok ts ∧ token ∈ ts ∧ ofToken? token = some r := by
  cases ht : tokens d with
  | error e => simp [ofDefinition, ht, Except.map] at h
  | ok ts =>
    obtain rfl : ofTokens ts = rs := by simpa [ofDefinition, ht, Except.map] using h
    obtain ⟨token, hm, htoken⟩ := List.mem_filterMap.1 hr
    exact ⟨ts, token, rfl, hm, htoken⟩

private theorem wellFormed_of_ofDefinition {d : Value} {rs : List Rule} (h : ofDefinition d = .ok rs) :
    ∀ r ∈ rs, r.WellFormed := by
  intro r hr
  obtain ⟨_, _, -, -, htoken⟩ := exists_token_of_ofDefinition h hr
  exact wellFormed_of_ofToken? htoken

private theorem bar_notMem_of_line {t : Text} {rs : List Rule} (h : ofDefinition (.text t) = .ok rs) :
    ∀ r ∈ rs, '|' ∉ r.text := by
  intro r hr hbar
  obtain ⟨ts, token, hts, hm, htoken⟩ := exists_token_of_ofDefinition h hr
  cases hts
  exact Text.notMem_of_mem_split hm (mem_of_mem_text htoken hbar)

/-- The rules of a definition are read back from their texts: from the sequence of them, and from
one text with bars if the definition was such a text. So are all other lists of well-formed rules,
with bars between them if there are none inside. -/
theorem definitions_round_trip :
    (∀ d : Value, d.IsDefinition → ∃ rs, ofDefinition d = .ok rs ∧
      ofDefinition (sequenceOf rs) = .ok rs ∧
      (d.IsText → ofDefinition (lineOf rs) = .ok rs)) ∧
    ∀ rs : List Rule, (∀ r ∈ rs, r.name.trim = r.name ∧ ':' ∉ r.name ∧
        ¬ (r.name = [] ∧ r.argument = none)) →
      ofDefinition (sequenceOf rs) = .ok rs ∧
      ((∀ r ∈ rs, '|' ∉ r.name ∧ ∀ argument, r.argument = some argument → '|' ∉ argument) →
        ofDefinition (lineOf rs) = .ok rs) := by
  constructor
  · intro d hd
    cases hr : ofDefinition d with
    | error e => exact absurd hd (not_isDefinition_iff.2 ⟨e, hr⟩)
    | ok rs =>
      have hw := wellFormed_of_ofDefinition hr
      refine ⟨rs, rfl, ofDefinition_sequenceOf hw, ?_⟩
      rintro ⟨t, rfl⟩
      exact ofDefinition_lineOf hw (bar_notMem_of_line hr)
  · intro rs h
    have hw : ∀ r ∈ rs, r.WellFormed := by
      intro r hr
      obtain ⟨htrim, hcolon, hpresent⟩ := h r hr
      exact ⟨htrim, hcolon, not_and_or.1 hpresent⟩
    refine ⟨ofDefinition_sequenceOf hw, fun hbar => ofDefinition_lineOf hw ?_⟩
    intro r hr hm
    rcases (mem_text_iff (by decide)).1 hm with hm | ⟨argument, ha, hm⟩
    · exact (hbar r hr).1 hm
    · exact (hbar r hr).2 argument ha hm

/-- A blank argument, an empty one, and one with the bar and the colon in it. -/
def oddRules : List Rule :=
  [⟨[], some " ".toList⟩, ⟨"in".toList, some []⟩, ⟨"regex".toList, some "/^a:b|c$/".toList⟩]

/-- The line takes only the first two rules, since the third has a bar in its argument. -/
theorem oddRules_round_trip :
    ofDefinition (sequenceOf oddRules) = .ok oddRules ∧
    ofDefinition (lineOf (oddRules.take 2)) = .ok (oddRules.take 2) := by
  obtain ⟨-, hread⟩ := definitions_round_trip
  have hodd : ∀ r ∈ oddRules, r.name.trim = r.name ∧ ':' ∉ r.name ∧
      ¬ (r.name = [] ∧ r.argument = none) := by decide
  refine ⟨(hread oddRules hodd).1, (hread (oddRules.take 2) ?_).2 ?_⟩
  · exact fun r hr => hodd r (List.mem_of_mem_take hr)
  · decide
end FieldRules.Rule
