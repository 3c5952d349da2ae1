import FieldRules.Run
import FieldRules.Proofs.Registry
import Mathlib.Data.List.Forall2

/-! A run carries out its plan: the loop over fields and rules applies what the plan lists, in that
order, and stops at the plan's offence. What the trials come to changes neither. -/
namespace FieldRules

def error? {α ε : Type} : Except ε α → Option ε
  | .ok _ => none
  | .error e => some e

@[simp] theorem error?_eq_some_iff {α ε : Type} {x : Except ε α} {e : ε} :
    error? x = some e ↔ x = .error e := by
  cases x <;> simp [error?]

theorem error?_eq_none_iff {α ε : Type} {x : Except ε α} : error? x = none ↔ ∃ a, x = .ok a := by
  cases x <;> simp [error?]

theorem map_eq_map_of_forall {α β γ : Type} {R : α → β → Prop} {g : α → γ} {h : β → γ} {l : List α}
    {l' : List β} (hr : List.Forall₂ R l l') (hg : ∀ a b, R a b → g a = h b) :
    l.map g = l'.map h := by
  induction hr with
  | nil => rfl
  | cons hab _ ih => rw [List.map_cons, List.map_cons, hg _ _ hab, ih]

theorem exists_of_mem_forall {α β : Type} {R : α → β → Prop} {l : List α} {l' : List β} {b : β}
    (hr : List.Forall₂ R l l') (hb : b ∈ l') : ∃ a ∈ l, R a b := by
  induction hr with
  | nil => simp at hb
  | cons hab _ ih =>
    rcases List.mem_cons.mp hb with rfl | hb
    · exact ⟨_, List.mem_cons_self, hab⟩
    · obtain ⟨a, ha, hr⟩ := ih hb
      exact ⟨a, List.mem_cons_of_mem _ ha, hr⟩

section UntilError
variable {α β ε : Type} {f : α → Except ε β} {l : List α}

/-- The list is cut where the first step fails. -/
theorem untilError_offence : (untilError f l).2 = l.findSome? fun a => error? (f a) := by
  induction l with
  | nil => rfl
  | cons a rest ih => cases h : f a <;> simp [untilError, error?, h, ih]

/-- Without an error every result is there, in order. -/
theorem forall_untilError (h : (untilError f l).2 = none) :
    List.Forall₂ (fun a b => f a = .ok b) l (untilError f l).1 := by
  induction l with
  | nil => exact .nil
  | cons a rest ih =>
    cases ha : f a with
    | error e => simp [untilError, ha] at h
    | ok b =>
      simp only [untilError, ha] at h ⊢
      exact .cons ha (ih h)

end UntilError

namespace Plan
variable {registry : Registry} {field : Text} {definition : Value} {entries : List (Text × Value)}

/-- The first error in a rule set is that of the first field that has one. -/
theorem ofEntries_offence :
    (ofEntries registry entries).offence =
      entries.findSome? fun x => (ofField registry x.1 x.2).2 := by
  induction entries with
  | nil => rfl
  | cons entry rest ih =>
    obtain ⟨name, value⟩ := entry
    rcases h : ofField registry name value with ⟨plan, _ | e⟩ <;> simp [ofEntries, h, ih]

theorem ofField_eq_of_ok {rules : List Rule} (h : Rule.ofDefinition definition = .ok rules) :
    ofField registry field definition =
      (some ⟨field, shown definition, rules, (untilError (occurrence registry field) rules).1⟩,
        (untilError (occurrence registry field) rules).2) := by
  simp [ofField, h]

/-- A field is planned in full when each of its rules is. -/
theorem ofField_offence_eq_none_iff :
    (ofField registry field definition).2 = none ↔
      ∃ rules, Rule.ofDefinition definition = .ok rules ∧
        ∀ r ∈ rules, ∃ o, occurrence registry field r = .ok o := by
  cases h : Rule.ofDefinition definition with
  | error e => simp [ofField, h]
  | ok rules => simp [ofField_eq_of_ok h, untilError_offence, error?_eq_none_iff]

structure Covers (registry : Registry) (x : Text × Value) (f : FieldPlan) : Prop where
  field : f.field = x.1
  rules : Rule.ofDefinition x.2 = .ok f.rules
  occurrences : List.Forall₂ (fun r o => occurrence registry x.1 r = .ok o) f.rules f.occurrences

/-- A rule set without an offence has a whole plan for each of its fields. -/
theorem forall_covers (h : (ofEntries registry entries).offence = none) :
    List.Forall₂ (Covers registry) entries (ofEntries registry entries).fields := by
  induction entries with
  | nil => exact .nil
  | cons entry rest ih =>
    obtain ⟨name, value⟩ := entry
    cases hr : Rule.ofDefinition value with
    | error e => simp [ofEntries, ofField, hr] at h
    | ok rules =>
      simp only [ofEntries, ofField_eq_of_ok hr] at h ⊢
      cases ho : (untilError (occurrence registry name) rules).2 with
      | some e => simp [ho] at h
      | none =>
        simp only [ho] at h ⊢
        exact .cons ⟨rfl, hr, forall_untilError ho⟩ (ih h)

end Plan

/-- Fields, each with the number of rules in front of its own. -/
def Plan.placed : Nat → List FieldPlan → List (Nat × FieldPlan)
  | _, [] => []
  | place, f :: fields => (place, f) :: placed (place + f.occurrences.length) fields

theorem Plan.map_snd_placed (place : Nat) (fields : List FieldPlan) :
    (placed place fields).map (·.2) = fields := by
  induction fields generalizing place with
  | nil => rfl
  | cons f fields ih => rw [placed, List.map_cons, ih]

/-! ### The loop -/

def Attempt.inTurn (trial : Nat → Occurrence → Trial) : Nat → List Occurrence → List Attempt
  | _, [] => []
  | place, o :: os => ⟨o, trial place o⟩ :: inTurn trial (place + 1) os

/-- Where the surroundings stay as they are, the place of a rule does not count. -/
theorem Attempt.inTurn_steady (trial : Occurrence → Trial) (place : Nat) (os : List Occurrence) :
    inTurn (fun _ => trial) place os = os.map fun o => ⟨o, trial o⟩ := by
  induction os generalizing place with
  | nil => rfl
  | cons o os ih => rw [inTurn, ih, List.map_cons]

theorem Attempt.length_inTurn (trial : Nat → Occurrence → Trial) (place : Nat) (os : List Occurrence) :
    (inTurn trial place os).length = os.length := by
  induction os generalizing place with
  | nil => rfl
  | cons o os ih => rw [inTurn, List.length_cons, ih, List.length_cons]

theorem Attempt.occurrence_mem_of_mem_inTurn {trial : Nat → Occurrence → Trial} {place : Nat}
    {os : List Occurrence} {a : Attempt} (h : a ∈ inTurn trial place os) : a.occurrence ∈ os := by
  induction os generalizing place with
  | nil => cases h
  | cons o os ih =>
    rcases List.mem_cons.1 h with rfl | h
    · exact List.mem_cons_self
    · exact List.mem_cons_of_mem _ (ih h)

namespace Progress
variable {registry : Registry} {trial : Nat → Occurrence → Trial} {field : Text}

def absorb (p : Progress) (a : Attempt) : Progress := p.record a a.contribution

/-- Tells of the field's rules, then applies those of them that can be applied. -/
def carryOut (trial : Nat → Occurrence → Trial) (p : Progress) (f : FieldPlan) : Progress :=
  (Attempt.inTurn trial p.rulesChecked f.occurrences).foldl absorb
    (p.tell (.rulesParsed f.definition (f.rules.map Rule.text)))

/-- The loop over rules is its plan carried out: what comes before the first offence, in turn. -/
private theorem applyRules_eq (rules : List Rule) (p : Progress) :
    applyRules registry trial field rules p =
      ((Attempt.inTurn trial p.rulesChecked
          (untilError (Plan.occurrence registry field) rules).1).foldl absorb p,
        (untilError (Plan.occurrence registry field) rules).2.map .offence) := by
  induction rules generalizing p with
  | nil => rfl
  | cons r rest ih =>
    cases h : Plan.occurrence registry field r with
    | error e => simp [applyRules, untilError, h, Attempt.inTurn]
    | ok o =>
      simp only [applyRules, untilError, h, Attempt.written_eq h, ih]
      rfl

/-- The loop over the fields carries out the plan of each, and stops only at an offence. -/
theorem applyFields_eq (entries : List (Text × Value)) (p : Progress) :
    applyFields registry trial entries p =
      ((Plan.ofEntries registry entries).fields.foldl (carryOut trial) p,
        (Plan.ofEntries registry entries).offence.map .offence) := by
  induction entries generalizing p with
  | nil => rfl
  | cons entry rest ih =>
    obtain ⟨name, value⟩ := entry
    cases h : Rule.ofDefinition value with
    | error e => simp [applyFields, Plan.ofEntries, Plan.ofField, h]
    | ok rules =>
      have hf : Plan.ofField registry name value = _ := Plan.ofField_eq_of_ok h
      simp only [applyFields, h, Plan.print_of_ofDefinition h, applyRules_eq, Plan.ofEntries, hf]
      cases (untilError (Plan.occurrence registry name) rules).2 with
      | some e => simp [carryOut, tell]
      | none => simp [ih, carryOut, tell]

end Progress

namespace Run
variable {registry : Registry} {trial : Nat → Occurrence → Trial} {rules : FieldMap Value}

def done (registry : Registry) (trial : Nat → Occurrence → Trial) (rules : FieldMap Value) : Progress :=
  (Plan.ofRules registry rules).fields.foldl (Progress.carryOut trial) .start

/-- A run ends with an error exactly if its plan has that offence. -/
theorem outcome_eq_error_iff {e : ConfigurationError} :
    (ofRules registry trial rules).outcome = .error e ↔
      (Plan.ofRules registry rules).offence = some e := by
  unfold ofRules Plan.ofRules
  split <;> rename_i h <;> rw [Progress.applyFields_eq, Prod.mk.injEq] at h
  · obtain ⟨e', he, hs⟩ := Option.map_eq_some_iff.1 h.2
    cases hs
    simp [he]
  · obtain ⟨e', he, hs⟩ := Option.map_eq_some_iff.1 h.2
    cases hs
  · simp [Option.map_eq_none_iff.1 h.2]

/-- A run returns when its plan has no offence, and then what was done of it. -/
theorem outcome_eq_ok_iff {report : Report} :
    (ofRules registry trial rules).outcome = .ok report ↔
      (Plan.ofRules registry rules).offence = none ∧
        Report.build (done registry trial rules).errors rules.size
          (done registry trial rules).rulesChecked = report := by
  unfold ofRules done Plan.ofRules
  split <;> rename_i h <;> rw [Progress.applyFields_eq, Prod.mk.injEq] at h
  · obtain ⟨e', he, -⟩ := Option.map_eq_some_iff.1 h.2
    simp [he]
  · obtain ⟨e', he, hs⟩ := Option.map_eq_some_iff.1 h.2
    cases hs
  · simp [Option.map_eq_none_iff.1 h.2, h.1]

end Run

/-- Without an offence in its rule set a run returns. -/
theorem exists_report_of_validate {registry : Registry} {rules : FieldMap Value}
    (h : (Plan.ofRules registry.inUse rules).offence = none) (data : FieldMap Value) (s : Surroundings) :
    ∃ report, (validate registry rules data s).outcome = .ok report :=
  ⟨_, Run.outcome_eq_ok_iff.2 ⟨h, rfl⟩⟩
end FieldRules
