import FieldRules.Proofs.Run.Course

/-! Runs and the registry they are given. A run that keeps to a registry finds every rule that it
comes to in it, and applies no other checkers than those of the registry. -/
namespace FieldRules

/-- A run comes to a rule of a field if the entries in front of the field are sound and the rules in
front of the rule can be applied. -/
inductive Reaches (registry : Registry) (entries : List (Text × Value)) : Text → Rule → Prop where
  | intro {before after : List (Text × Value)} {x : Text × Value} {front rest : List Rule} {r : Rule}
      (entries_eq : entries = before ++ x :: after) (sound : ∀ y ∈ before, Sound registry y)
      (rules : Rule.ofDefinition x.2 = .ok (front ++ r :: rest))
      (applicable : ∀ q ∈ front, q.Applicable registry) : Reaches registry entries x.1 r

/-- A run that keeps to a registry ends at the first rule whose name is not in it; if it returns, each
of its rules names a checker of the registry that reads its argument; and what the checks of any other
checker would come to changes nothing about it. -/
structure KeepsTo (registry : Registry) (rules data : FieldMap Value) (s : Surroundings) : Prop where
  unknown : ∀ field r, Reaches registry rules.entries field r → r.name ∉ registry.names →
    (validate registry rules data s).outcome = .error (.unknownRule r.name (some field))
  returned : ∀ report, (validate registry rules data s).outcome = .ok report →
    ∀ x ∈ rules.entries, Sound registry x
  own : ∀ trial : Nat → Occurrence → Trial,
    (∀ place o, o.checker ∈ registry.checkers → trial place o = o.trial data s) →
    Run.ofRules registry.inUse trial rules = validate registry rules data s

/-- The checkers of a course are those that the registry has under the names of the rules. -/
theorem Course.checker_mem {registry : Registry} {entries : List (Text × Value)}
    {fields : List FieldPlan} {offence : Option ConfigurationError}
    (h : Course registry entries fields offence) :
    ∀ f ∈ fields, ∀ o ∈ f.occurrences, o.checker ∈ registry.checkers ∧ o.checker.name = o.rule.name := by
  have hfound : ∀ {field : Text} {rs : List Rule} {occurrences : List Occurrence},
      List.Forall₂ (fun r o => Plan.occurrence registry field r = .ok o) rs occurrences →
      ∀ o ∈ occurrences, o.checker ∈ registry.checkers ∧ o.checker.name = o.rule.name := by
    intro field rs occurrences hall o ho
    obtain ⟨r, -, hr⟩ := exists_of_mem_forall hall ho
    obtain ⟨checker, argument, hf, -, rfl⟩ := Plan.occurrence_eq_ok_iff.1 hr
    exact Registry.find?_eq_some_iff.1 hf
  induction h with
  | finished | misshapen => simp
  | refused definition rules applied offence =>
    intro f hf
    rw [List.mem_singleton.1 hf]
    exact hfound applied
  | applied definition covers others ih =>
    intro f hf
    rcases List.mem_cons.1 hf with rfl | hf
    · exact hfound covers.occurrences
    · exact ih f hf

/-- Only the occurrences of a plan matter to what is done in turn. -/
private theorem Attempt.inTurn_congr {trial trial' : Nat → Occurrence → Trial} {os : List Occurrence}
    (h : ∀ o ∈ os, ∀ place, trial' place o = trial place o) (place : Nat) :
    inTurn trial' place os = inTurn trial place os := by
  induction os generalizing place with
  | nil => rfl
  | cons o os ih =>
    rw [inTurn, inTurn, h o List.mem_cons_self, ih fun o' ho' => h o' (List.mem_cons_of_mem _ ho')]

/-- A run sees no more of the trials than those of the rules that it applies. -/
theorem Run.ofRules_congr {registry : Registry} {trial trial' : Nat → Occurrence → Trial}
    {rules : FieldMap Value} (h : ∀ f ∈ (Plan.ofRules registry rules).fields, ∀ o ∈ f.occurrences,
      ∀ place, trial' place o = trial place o) :
    ofRules registry trial' rules = ofRules registry trial rules := by
  have hfields : Progress.applyFields registry trial' rules.entries .start =
      Progress.applyFields registry trial rules.entries .start := by
    rw [Progress.applyFields_eq, Progress.applyFields_eq]
    refine congrArg (·, _) (List.foldl_ext _ _ _ fun p f hf => ?_)
    rw [Progress.carryOut, Progress.carryOut, Attempt.inTurn_congr (h f hf)]
  unfold ofRules
  split <;> rename_i h' <;> rw [hfields] at h' <;> split <;> rename_i h'' <;>
    rw [h', Prod.mk.injEq] at h'' <;> obtain ⟨rfl, hstop⟩ := h'' <;> cases hstop <;> rfl

/-- The runs of a registry with checkers keep to it. -/
theorem keepsTo_of_ne_nil {registry : Registry} (h : registry.checkers ≠ [])
    (rules data : FieldMap Value) (s : Surroundings) : KeepsTo registry rules data s := by
  have hinUse := Registry.inUse_of_ne_nil h
  constructor
  · rintro field r ⟨hentries, hsound, hrules, happlicable⟩ hname
    rw [validate, hinUse, Run.outcome_eq_error_iff, Plan.ofRules, ← firstOffence_iff]
    exact ⟨_, _, _, hentries, hsound, .rule hrules happlicable (.unknown hname)⟩
  · intro report hreport x hx
    have happlicable := applicable_of_validate hreport x hx
    rwa [hinUse] at happlicable
  · intro trial htrial
    rw [validate, hinUse]
    refine Run.ofRules_congr fun f hf o ho place => htrial place o ?_
    exact ((Plan.course_ofEntries registry rules.entries).checker_mem f hf o ho).1

def requiredRules : FieldMap Value := ⟨[("a".toList, .text "required".toList)], by decide⟩

/-- In a rule set of one field a run comes to the rules behind those that can be applied. -/
theorem Reaches.alone {registry : Registry} {field : Text} {definition : Value} {r : Rule}
    (front rest : List Rule) (rules : Rule.ofDefinition definition = .ok (front ++ r :: rest))
    (applicable : ∀ q ∈ front, q.Applicable registry) :
    Reaches registry [(field, definition)] field r :=
  .intro (show _ = [] ++ (field, definition) :: [] from rfl) (by simp) rules applicable

private theorem reaches_requiredRules (registry : Registry) :
    Reaches registry requiredRules.entries "a".toList ⟨"required".toList, none⟩ :=
  .alone [] [] rfl (by simp)

/-- Distinct checkers make a registry of just these checkers, and all its runs keep to it if and only
if there is one at all: in the place of a registry without checkers runs use the standard one. -/
theorem validate_keepsTo_iff {checkers : List Checker}
    (distinct : (checkers.map Checker.name).Nodup) :
    ∃ registry, Registry.ofCheckers checkers = .ok registry ∧ registry.checkers = checkers ∧
      ((∀ rules data s, KeepsTo registry rules data s) ↔ checkers ≠ []) ∧
      (checkers = [] → ∀ rules data s,
        validate registry rules data s = validate .standard rules data s) := by
  obtain ⟨registry, hregistry, rfl⟩ := Registry.exists_ofCheckers distinct
  refine ⟨registry, hregistry, rfl, ⟨?_, keepsTo_of_ne_nil⟩, ?_⟩
  · intro hkeeps hnil
    have hunknown := (hkeeps requiredRules .empty .offline).unknown _ _
      (reaches_requiredRules registry) (by simp [Registry.names, hnil])
    rw [validate, Registry.inUse_of_eq_nil hnil, Run.outcome_eq_error_iff] at hunknown
    have hsound : (Plan.ofRules .standard requiredRules).offence = none := rfl
    rw [hsound] at hunknown
    cases hunknown
  · intro hnil rules data s
    rw [validate, validate, Registry.inUse_of_eq_nil hnil]
    rfl

def limitedRules : FieldMap Value := ⟨[("a".toList, .text "required|max:3".toList)], by decide⟩

/-- A registry of two checkers knows no third. -/
theorem keepsTo_pair : ∃ registry, Registry.ofCheckers [.required, .min] = .ok registry ∧
    (validate registry limitedRules .empty .offline).outcome =
      .error (.unknownRule "max".toList (some "a".toList)) := by
  have hdistinct : ([Checker.required, Checker.min].map Checker.name).Nodup := by decide
  obtain ⟨registry, hregistry, hcheckers, hkeeps, -⟩ := validate_keepsTo_iff hdistinct
  have hrequired : Rule.Applicable registry ⟨"required".toList, none⟩ :=
    ⟨.required, by simp [hcheckers], rfl, none, rfl⟩
  have hreaches : Reaches registry limitedRules.entries "a".toList
      ⟨"max".toList, some "3".toList⟩ :=
    .alone [⟨"required".toList, none⟩] [] rfl (by simpa using hrequired)
  have hmax : "max".toList ∉ registry.names := by
    rw [Registry.names, hcheckers]
    decide
  exact ⟨registry, hregistry,
    (hkeeps.2 (by decide) limitedRules .empty .offline).unknown _ _ hreaches hmax⟩

/-- A registry without checkers does not know `required`, and its run applies it all the same. -/
theorem empty_registry_not_kept : ∃ registry report, Registry.ofCheckers [] = .ok registry ∧
    Reaches registry requiredRules.entries "a".toList ⟨"required".toList, none⟩ ∧
    "required".toList ∉ registry.names ∧
    (validate registry requiredRules .empty .offline).outcome = .ok report ∧
    report.errors.entries = [("a".toList, ["This field is required.".toList])] := by
  have hsound : (Plan.ofRules (Registry.inUse ⟨[], by simp⟩) requiredRules).offence = none := rfl
  obtain ⟨report, hreport⟩ := exists_report_of_validate hsound .empty .offline
  exact ⟨_, report, rfl, reaches_requiredRules _, by decide, hreport,
    (entries_of_validate hreport).trans (by decide +kernel)⟩

end FieldRules
