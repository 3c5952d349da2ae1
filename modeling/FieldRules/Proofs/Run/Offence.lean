import FieldRules.Proofs.Run.Planned

/-! Which errors a rule set has, told without the loop: what is wrong with the shape of a
definition, with a rule, with a field, and the first of it in a rule set. -/
namespace FieldRules

namespace Value

def IsText (v : Value) : Prop := ∃ t, v = .text t

def sequence? : Value → Option (List Value)
  | .list items | .tuple items => some items
  | .bytes bs => some (bs.map fun b => .int b.toNat)
  | _ => none

def IsDefinition (v : Value) : Prop :=
  v.IsText ∨ ∃ items, v.sequence? = some items ∧ ∀ x ∈ items, x.IsText

end Value

/-! ### Shapes -/

inductive ShapeOffence : Value → ConfigurationError → Prop where
  | definition {v : Value} (text : ¬ v.IsText) (sequence : v.sequence? = none) :
      ShapeOffence v (.definitionKind v.kind)
  | token {v x : Value} {before after : List Value} (sequence : v.sequence? = some (before ++ x :: after))
      (texts : ∀ y ∈ before, y.IsText) (other : ¬ x.IsText) : ShapeOffence v (.tokenKind x.kind)

namespace Rule

theorem tokensOf_cons_text (t : Text) (rest : List Value) :
    tokensOf (.text t :: rest) = (tokensOf rest).map (t :: ·) := rfl

private theorem tokensOf_cons_other {v : Value} (h : ¬ v.IsText) (rest : List Value) :
    tokensOf (v :: rest) = .error (.tokenKind v.kind) := by
  cases v with
  | text t => exact absurd ⟨t, rfl⟩ h
  | _ => rfl

/-- The first item that is no text is the one the refusal names. -/
private theorem tokensOf_eq_error_iff {items : List Value} {e : ConfigurationError} :
    tokensOf items = .error e ↔
      ∃ before x after, items = before ++ x :: after ∧ (∀ y ∈ before, y.IsText) ∧ ¬ x.IsText ∧
        e = .tokenKind x.kind := by
  induction items with
  | nil => simp [tokensOf]
  | cons v rest ih =>
    by_cases hv : v.IsText
    · obtain ⟨t, rfl⟩ := hv
      have hmap : tokensOf (.text t :: rest) = .error e ↔ tokensOf rest = .error e := by
        rw [tokensOf_cons_text]
        cases tokensOf rest <;> simp [Except.map]
      rw [hmap, ih]
      constructor
      · rintro ⟨before, x, after, rfl, hb, hx⟩
        exact ⟨.text t :: before, x, after, rfl, by simpa [Value.IsText] using hb, hx⟩
      · rintro ⟨before, x, after, heq, hb, hx, he⟩
        rcases before with _ | ⟨w, before⟩
        · obtain ⟨rfl, rfl⟩ : Value.text t = x ∧ rest = after := by simpa using heq
          exact absurd ⟨t, rfl⟩ hx
        · obtain ⟨rfl, rfl⟩ : Value.text t = w ∧ rest = before ++ x :: after := by simpa using heq
          exact ⟨before, x, after, rfl, fun y hy => hb y (List.mem_cons_of_mem _ hy), hx, he⟩
    · rw [tokensOf_cons_other hv]
      constructor
      · intro h
        cases h
        exact ⟨[], v, rest, rfl, by simp, hv, rfl⟩
      · rintro ⟨before, x, after, heq, hb, -, rfl⟩
        rcases before with _ | ⟨w, before⟩
        · obtain ⟨rfl, rfl⟩ : v = x ∧ rest = after := by simpa using heq
          rfl
        · obtain ⟨rfl, -⟩ : v = w ∧ rest = before ++ x :: after := by simpa using heq
          exact absurd (hb v List.mem_cons_self) hv

private theorem tokens_eq_tokensOf {v : Value} {items : List Value} (h : v.sequence? = some items) :
    tokens v = tokensOf items := by
  cases v with
  | list xs | tuple xs | bytes bs => cases h; rfl
  | _ => simp [Value.sequence?] at h

private theorem tokens_eq_error_of_sequence? {v : Value} (ht : ¬ v.IsText) (hs : v.sequence? = none) :
    tokens v = .error (.definitionKind v.kind) := by
  cases v with
  | text t => exact absurd ⟨t, rfl⟩ ht
  | list xs | tuple xs | bytes bs => simp [Value.sequence?] at hs
  | _ => rfl

/-- A definition is refused exactly for its shape. -/
theorem ofDefinition_eq_error_iff {v : Value} {e : ConfigurationError} :
    ofDefinition v = .error e ↔ ShapeOffence v e := by
  have hmap : ofDefinition v = .error e ↔ tokens v = .error e := by
    unfold ofDefinition
    cases tokens v <;> simp [Except.map]
  rw [hmap]
  constructor
  · intro h
    cases hs : v.sequence? with
    | none =>
      have ht : ¬ v.IsText := by
        rintro ⟨t, rfl⟩
        simp [tokens] at h
      rw [tokens_eq_error_of_sequence? ht hs] at h
      cases h
      exact .definition ht hs
    | some items =>
      rw [tokens_eq_tokensOf hs] at h
      obtain ⟨before, x, after, rfl, hb, hx, rfl⟩ := tokensOf_eq_error_iff.1 h
      exact .token hs hb hx
  · intro h
    cases h with
    | definition ht hs => exact tokens_eq_error_of_sequence? ht hs
    | token hs hb hx =>
      rw [tokens_eq_tokensOf hs]
      exact tokensOf_eq_error_iff.2 ⟨_, _, _, rfl, hb, hx, rfl⟩

private theorem isText_of_tokensOf {items : List Value} {ts : List Text} (h : tokensOf items = .ok ts) :
    ∀ x ∈ items, x.IsText := by
  induction items generalizing ts with
  | nil => simp
  | cons v rest ih =>
    by_cases hv : v.IsText
    · obtain ⟨t, rfl⟩ := hv
      cases hr : tokensOf rest with
      | error e => simp [tokensOf_cons_text, hr, Except.map] at h
      | ok us =>
        intro x hx
        rcases List.mem_cons.1 hx with rfl | hx
        · exact ⟨t, rfl⟩
        · exact ih hr x hx
    · rw [tokensOf_cons_other hv] at h
      cases h

private theorem isDefinition_of_ofDefinition {v : Value} {rules : List Rule}
    (h : ofDefinition v = .ok rules) :
    v.IsDefinition := by
  by_cases ht : v.IsText
  · exact .inl ht
  have htokens : ∃ ts, tokens v = .ok ts := by
    cases hv : tokens v with
    | error e => simp [ofDefinition, hv, Except.map] at h
    | ok ts => exact ⟨ts, rfl⟩
  obtain ⟨ts, hts⟩ := htokens
  cases hs : v.sequence? with
  | none => rw [tokens_eq_error_of_sequence? ht hs] at hts; cases hts
  | some items =>
    rw [tokens_eq_tokensOf hs] at hts
    exact .inr ⟨items, hs, isText_of_tokensOf hts⟩

/-- What is no definition is refused, whatever the registry. -/
theorem not_isDefinition_iff {v : Value} : ¬ v.IsDefinition ↔ ∃ e, ofDefinition v = .error e := by
  constructor
  · intro hv
    cases h : ofDefinition v with
    | error e => exact ⟨e, rfl⟩
    | ok rules => exact absurd (isDefinition_of_ofDefinition h) hv
  · rintro ⟨e, he⟩ hv
    cases ofDefinition_eq_error_iff.1 he with
    | definition ht hs =>
      rcases hv with hv | ⟨items, hi, -⟩
      · exact ht hv
      · simp [hs] at hi
    | token hs hb hx =>
      rcases hv with ⟨t, rfl⟩ | ⟨items, hi, hall⟩
      · simp [Value.sequence?] at hs
      · rw [hs] at hi
        cases hi
        exact hx (hall _ (by simp))

end Rule

/-! ### Rules, fields and rule sets -/

/-- A rule with an unknown name, or with an argument that the checker of its name refuses. -/
inductive RuleOffence (registry : Registry) (field : Text) (r : Rule) : ConfigurationError → Prop where
  | unknown (name : r.name ∉ registry.names) : RuleOffence registry field r (.unknownRule r.name (some field))
  | argument {checker : Checker} {problem : ArgumentProblem} (checker_mem : checker ∈ registry.checkers)
      (name : checker.name = r.name) (refused : checker.parse r.argument = .error problem) :
      RuleOffence registry field r (.argument r.name problem (some field))

def Sound (registry : Registry) (x : Text × Value) : Prop :=
  ∃ rules, Rule.ofDefinition x.2 = .ok rules ∧ ∀ r ∈ rules, r.Applicable registry

/-- What is wrong with an entry: the shape of its definition, or else its first rule that cannot be
applied. -/
inductive FieldOffence (registry : Registry) (x : Text × Value) : ConfigurationError → Prop where
  | shape {e : ConfigurationError} (shape : ShapeOffence x.2 e) : FieldOffence registry x e
  | rule {before after : List Rule} {r : Rule} {e : ConfigurationError}
      (rules : Rule.ofDefinition x.2 = .ok (before ++ r :: after))
      (applicable : ∀ q ∈ before, q.Applicable registry) (offence : RuleOffence registry x.1 r e) :
      FieldOffence registry x e

def FirstOffence (registry : Registry) (entries : List (Text × Value)) (e : ConfigurationError) : Prop :=
  ∃ before x after, entries = before ++ x :: after ∧ (∀ y ∈ before, Sound registry y) ∧
    FieldOffence registry x e

namespace RuleOffence
variable {registry : Registry} {field : Text} {r : Rule} {e : ConfigurationError}

theorem iff_occurrence :
    RuleOffence registry field r e ↔ Plan.occurrence registry field r = .error e := by
  rw [Plan.occurrence_eq_error_iff]
  constructor
  · intro h
    cases h with
    | unknown hn => exact .inl ⟨Registry.find?_eq_none_iff.2 hn, rfl⟩
    | argument hm hn hp =>
      exact .inr ⟨_, _, Registry.find?_eq_some_iff.2 ⟨hm, hn⟩, hp, by rw [hn]⟩
  · rintro (⟨hn, rfl⟩ | ⟨checker, problem, hf, hp, rfl⟩)
    · exact .unknown (Registry.find?_eq_none_iff.1 hn)
    · obtain ⟨hm, hn⟩ := Registry.find?_eq_some_iff.1 hf
      rw [hn]
      exact .argument hm hn hp

end RuleOffence

theorem sound_iff {registry : Registry} {x : Text × Value} :
    Sound registry x ↔ (Plan.ofField registry x.1 x.2).2 = none := by
  rw [Plan.ofField_offence_eq_none_iff]
  simp only [Sound, Plan.exists_occurrence_iff]

/-- The offence of a field as it is described is the one its plan carries. -/
private theorem fieldOffence_iff {registry : Registry} {x : Text × Value} {e : ConfigurationError} :
    FieldOffence registry x e ↔ (Plan.ofField registry x.1 x.2).2 = some e := by
  cases hr : Rule.ofDefinition x.2 with
  | error e' =>
    have hoffence : (Plan.ofField registry x.1 x.2).2 = some e' := by simp [Plan.ofField, hr]
    rw [hoffence, Option.some_inj]
    constructor
    · intro h
      cases h with
      | shape hs => simpa [hr] using Rule.ofDefinition_eq_error_iff.2 hs
      | rule hrules => simp [hr] at hrules
    · rintro rfl
      exact .shape (Rule.ofDefinition_eq_error_iff.1 hr)
  | ok rules =>
    rw [Plan.ofField_eq_of_ok hr, untilError_offence, List.findSome?_eq_some_iff]
    simp only [error?_eq_some_iff, error?_eq_none_iff, Plan.exists_occurrence_iff,
      ← RuleOffence.iff_occurrence]
    constructor
    · intro h
      cases h with
      | shape hs => simp [Rule.ofDefinition_eq_error_iff.2 hs] at hr
      | rule hrules happlicable hoffence =>
        rw [hr] at hrules
        cases hrules
        exact ⟨_, _, _, rfl, hoffence, happlicable⟩
    · rintro ⟨before, r, after, rfl, hoffence, happlicable⟩
      exact .rule hr happlicable hoffence

/-- A plan stops at the first offence of its rule set. -/
theorem firstOffence_iff {registry : Registry} {entries : List (Text × Value)} {e : ConfigurationError} :
    FirstOffence registry entries e ↔ (Plan.ofEntries registry entries).offence = some e := by
  rw [Plan.ofEntries_offence, List.findSome?_eq_some_iff]
  simp only [FirstOffence, sound_iff, fieldOffence_iff]
  constructor
  · rintro ⟨before, x, after, rfl, hb, hx⟩
    exact ⟨before, x, after, rfl, hx, hb⟩
  · rintro ⟨before, x, after, rfl, hx, hb⟩
    exact ⟨before, x, after, rfl, hb, hx⟩

end FieldRules
