import FieldRules.Proofs.Run.Independence
import FieldRules.Proofs.Run.Offence

/-! The course of a run: the fields whose rules it comes to, and for each of them the rules that it
applies, up to the first offence in the rule set. What a run tells and asks is told and asked on
this way, by one rule after the other. -/
namespace FieldRules

/-- The fields of a run over the entries with the rules that it applies to each, and the error that
ends it, if one does. A definition of the wrong shape leaves nothing of its field; a rule that cannot
be applied leaves the rules in front of it. -/
inductive Course (registry : Registry) :
    List (Text × Value) → List FieldPlan → Option ConfigurationError → Prop where
  | finished : Course registry [] [] none
  | misshapen {x : Text × Value} {rest : List (Text × Value)} {e : ConfigurationError}
      (shape : ShapeOffence x.2 e) : Course registry (x :: rest) [] (some e)
  | refused {x : Text × Value} {rest : List (Text × Value)} {before after : List Rule} {r : Rule}
      {shown : Text} {occurrences : List Occurrence} {e : ConfigurationError}
      (definition : x.2.print = .ok shown)
      (rules : Rule.ofDefinition x.2 = .ok (before ++ r :: after))
      (applied : List.Forall₂ (fun r o => Plan.occurrence registry x.1 r = .ok o) before occurrences)
      (offence : RuleOffence registry x.1 r e) :
      Course registry (x :: rest) [⟨x.1, shown, before ++ r :: after, occurrences⟩] (some e)
  | applied {x : Text × Value} {rest : List (Text × Value)} {f : FieldPlan} {fields : List FieldPlan}
      {e : Option ConfigurationError} (definition : x.2.print = .ok f.definition)
      (covers : Plan.Covers registry x f) (others : Course registry rest fields e) :
      Course registry (x :: rest) (f :: fields) e

/-- Up to the first error every result is there, in order. -/
theorem exists_of_untilError {α β ε : Type} {f : α → Except ε β} {l : List α} {e : ε}
    (h : (untilError f l).2 = some e) :
    ∃ before a after, l = before ++ a :: after ∧
      List.Forall₂ (fun a b => f a = .ok b) before (untilError f l).1 ∧ f a = .error e := by
  induction l with
  | nil => simp [untilError] at h
  | cons a rest ih =>
    cases ha : f a with
    | error e' =>
      simp only [untilError, ha, Option.some_inj] at h ⊢
      exact ⟨[], a, rest, rfl, .nil, h ▸ ha⟩
    | ok b =>
      simp only [untilError, ha] at h ⊢
      obtain ⟨before, c, after, rfl, hbefore, hc⟩ := ih h
      exact ⟨a :: before, c, after, rfl, .cons ha hbefore, hc⟩

/-- A plan is the course that a run takes. -/
theorem Plan.course_ofEntries (registry : Registry) (entries : List (Text × Value)) :
    Course registry entries (ofEntries registry entries).fields (ofEntries registry entries).offence := by
  induction entries with
  | nil => exact .finished
  | cons x rest ih =>
    obtain ⟨name, value⟩ := x
    cases hr : Rule.ofDefinition value with
    | error e =>
      simp only [ofEntries, ofField, hr]
      exact .misshapen (Rule.ofDefinition_eq_error_iff.1 hr)
    | ok rules =>
      have hprint := print_of_ofDefinition hr
      simp only [ofEntries, ofField_eq_of_ok hr]
      cases ho : (untilError (occurrence registry name) rules).2 with
      | none => exact .applied hprint ⟨rfl, hr, forall_untilError ho⟩ ih
      | some e =>
        obtain ⟨before, r, after, rfl, happlied, hoffence⟩ := exists_of_untilError ho
        exact .refused hprint hr happlied (RuleOffence.iff_occurrence.2 hoffence)

/-! ### What is told and asked on the way -/

theorem Occurrence.trial_activeUrl (data : FieldMap Value) (s : Surroundings) (field : Text) (r : Rule)
    (argument : Option Text) : trial data s ⟨field, r, .activeUrl, argument⟩ =
      Trial.isActive (.ok (Checker.activeUrl.failureMessage argument)) field (data.held field) s :=
  rfl

namespace FieldPlan

def told (trial : Nat → Occurrence → Trial) (place : Nat) (f : FieldPlan) : List Event :=
  .rulesParsed f.definition (f.rules.map Rule.text) ::
    (Attempt.inTurn trial place f.occurrences).flatMap Attempt.told

def requests (trial : Nat → Occurrence → Trial) (place : Nat) (f : FieldPlan) : List Request :=
  (Attempt.inTurn trial place f.occurrences).flatMap (·.trial.requests)

end FieldPlan

namespace Progress

private theorem foldl_absorb_told (attempts : List Attempt) (p : Progress) :
    (attempts.foldl absorb p).events = p.events ++ attempts.flatMap Attempt.told ∧
      (attempts.foldl absorb p).requests = p.requests ++ attempts.flatMap (·.trial.requests) ∧
      (attempts.foldl absorb p).rulesChecked = p.rulesChecked + attempts.length := by
  induction attempts generalizing p with
  | nil => simp
  | cons a rest ih =>
    obtain ⟨he, hr, hc⟩ := ih (p.absorb a)
    rw [List.foldl_cons, he, hr, hc]
    simp [absorb, record, Nat.add_assoc, Nat.add_comm 1]

private theorem carryOut_told (trial : Nat → Occurrence → Trial) (p : Progress) (f : FieldPlan) :
    (carryOut trial p f).events = p.events ++ f.told trial p.rulesChecked ∧
      (carryOut trial p f).requests = p.requests ++ f.requests trial p.rulesChecked ∧
      (carryOut trial p f).rulesChecked = p.rulesChecked + f.occurrences.length := by
  obtain ⟨he, hr, hc⟩ := foldl_absorb_told (Attempt.inTurn trial p.rulesChecked f.occurrences)
    (p.tell (.rulesParsed f.definition (f.rules.map Rule.text)))
  rw [carryOut, he, hr, hc]
  simp [tell, FieldPlan.told, FieldPlan.requests, Attempt.length_inTurn]

/-- The step over the fields: each begins where the rules before it ended. -/
private theorem foldl_carryOut_told (trial : Nat → Occurrence → Trial) (fields : List FieldPlan)
    (p : Progress) :
    (fields.foldl (carryOut trial) p).events =
        p.events ++ (Plan.placed p.rulesChecked fields).flatMap (fun x => x.2.told trial x.1) ∧
      (fields.foldl (carryOut trial) p).requests =
        p.requests ++ (Plan.placed p.rulesChecked fields).flatMap (fun x => x.2.requests trial x.1) := by
  induction fields generalizing p with
  | nil => simp [Plan.placed]
  | cons f rest ih =>
    obtain ⟨he, hr⟩ := ih (carryOut trial p f)
    obtain ⟨hef, hrf, hcf⟩ := carryOut_told trial p f
    rw [List.foldl_cons, he, hr, hef, hrf, hcf]
    simp [Plan.placed]

end Progress

namespace Run
variable {registry : Registry} {rules : FieldMap Value}

def closing : Except ConfigurationError Report → List Event
  | .ok r => [.complete r.passed r.fieldsChecked r.rulesChecked r.count r.errors.names]
  | .error _ => []

/-- A run tells and asks what its plan does, each field from the place where it starts. -/
theorem told_and_asked {trial : Nat → Occurrence → Trial} :
    (ofRules registry trial rules).events =
        (Plan.placed 0 (Plan.ofRules registry rules).fields).flatMap (fun x => x.2.told trial x.1) ++
          closing (ofRules registry trial rules).outcome ∧
      (ofRules registry trial rules).requests =
        (Plan.placed 0 (Plan.ofRules registry rules).fields).flatMap (fun x => x.2.requests trial x.1) := by
  obtain ⟨he, hr⟩ := Progress.foldl_carryOut_told trial (Plan.ofRules registry rules).fields
    .start
  unfold ofRules
  split <;> rename_i h <;> rw [Progress.applyFields_eq, Prod.mk.injEq] at h <;> obtain ⟨rfl, hs⟩ := h
  · exact ⟨he.trans (by simp [closing, Progress.start]), hr⟩
  · obtain ⟨e, -, he'⟩ := Option.map_eq_some_iff.1 hs
    cases he'
  · exact ⟨congrArg (· ++ _) he, hr⟩

/-- Where the surroundings stay as they are, what is told of a rule depends on the rule alone. -/
theorem told_steady (trial : Occurrence → Trial) :
    (ofRules registry (fun _ => trial) rules).events =
      ((Plan.ofRules registry rules).fields.flatMap fun f =>
        .rulesParsed f.definition (f.rules.map Rule.text) ::
          f.occurrences.flatMap fun o => Attempt.told ⟨o, trial o⟩) ++
        closing (ofRules registry (fun _ => trial) rules).outcome := by
  have hfield (place : Nat) (f : FieldPlan) : f.told (fun _ => trial) place =
      .rulesParsed f.definition (f.rules.map Rule.text) ::
        f.occurrences.flatMap fun o => Attempt.told ⟨o, trial o⟩ := by
    rw [FieldPlan.told, Attempt.inTurn_steady, List.flatMap_map]
  simp only [told_and_asked.1, hfield]
  conv_rhs => rw [← Plan.map_snd_placed 0 (Plan.ofRules registry rules).fields, List.flatMap_map]

end Run

end FieldRules
