import FieldRules.Proofs.Run.Independence
import FieldRules.Validator
import Mathlib.Data.List.Induction

/-! A validator tells of the last run that returned. Its report is tied to the rules and the data as
they were at that point of its history, whatever was changed or went wrong since. -/
namespace FieldRules.Validator

inductive Step.Runs : Step → Prop where
  | validate : Runs .validate
  | passes : Runs .passes
  | fails : Runs .fails

def Step.change (i : Input) : Step → Input
  | .setData field v => { i with data := i.data.put field v }
  | .deleteData field => { i with data := i.data.erase field }
  | .setRule field definition => { i with rules := i.rules.put field definition }
  | .deleteRule field => { i with rules := i.rules.erase field }
  | .validate | .passes | .fails | .errors | .report => i

def inputAfter (i : Input) (past : List Turn) : Input := past.foldl (fun i x => x.2.change i) i

section
variable (registry : Registry) (i : Input)

def outcomeAfter (past : List Turn) (s : Surroundings) : Except ConfigurationError Report :=
  (FieldRules.validate registry (inputAfter i past).rules (inputAfter i past).data s).outcome

def Returns (past : List Turn) (x : Turn) (r : Report) : Prop :=
  x.2.Runs ∧ outcomeAfter registry i past x.1 = .ok r

def NoneReturned (h : List Turn) : Prop :=
  ∀ past x r, past ++ [x] <+: h → ¬ Returns registry i past x r

def LastReturned (h : List Turn) (r : Report) : Prop :=
  ∃ past x, past ++ [x] <+: h ∧ Returns registry i past x r ∧
    ∀ past' x' r', past' ++ [x'] <+: h → past.length < past'.length →
      ¬ Returns registry i past' x' r'

inductive Answers (past : List Turn) : Turn → Answer → Prop where
  | holds {s : Surroundings} {x : Step} {r : Report} (returns : Returns registry i past (s, x) r)
      (asked : x = .validate ∨ x = .passes) : Answers past (s, x) (.verdict (.ok r.passed))
  | fails {s : Surroundings} {r : Report} (returns : Returns registry i past (s, .fails) r) :
      Answers past (s, .fails) (.verdict (.ok !r.passed))
  | refused {s : Surroundings} {x : Step} {e : ConfigurationError} (runs : x.Runs)
      (error : outcomeAfter registry i past s = .error e) :
      Answers past (s, x) (.verdict (.error e))
  | noErrors {s : Surroundings} (never : NoneReturned registry i past) :
      Answers past (s, .errors) (.errors [])
  | errors {s : Surroundings} {r : Report} (last : LastReturned registry i past r) :
      Answers past (s, .errors) (.errors r.errors.entries)
  | noReport {s : Surroundings} (never : NoneReturned registry i past) :
      Answers past (s, .report) (.report none)
  | report {s : Surroundings} {r : Report} (last : LastReturned registry i past r) :
      Answers past (s, .report) (.report (some r))
  | changed {s : Surroundings} {x : Step} (runs : ¬ x.Runs) (errors : x ≠ .errors)
      (report : x ≠ .report) : Answers past (s, x) .nothing

end

section
variable {registry : Registry} {i : Input} {h : List Turn} {x : Turn}

private theorem inputAfter_concat (h : List Turn) (x : Turn) :
    inputAfter i (h ++ [x]) = x.2.change (inputAfter i h) := by
  simp [inputAfter]

private theorem concat_prefix_concat_iff {past : List Turn} {y : Turn} :
    past ++ [y] <+: h ++ [x] ↔ (past = h ∧ y = x) ∨ past ++ [y] <+: h := by
  rw [List.prefix_concat_iff]
  refine or_congr_left ⟨fun he => ?_, fun he => by rw [he.1, he.2]⟩
  obtain ⟨hpast, hy⟩ := List.append_inj' he rfl
  exact ⟨hpast, List.singleton_inj.1 hy⟩

private theorem length_lt_of_earlier {past : List Turn} {y : Turn}
    (hp : past ++ [y] <+: h) : past.length < h.length := by
  have := hp.length_le
  simp at this
  omega

private theorem noneReturned_nil : NoneReturned registry i [] := by
  intro past x r hp
  simp at hp

private theorem noneReturned_concat :
    NoneReturned registry i (h ++ [x]) ↔
      NoneReturned registry i h ∧ ∀ r, ¬ Returns registry i h x r := by
  constructor
  · intro hn
    exact ⟨fun past y r hp => hn past y r (hp.trans (List.prefix_append h [x])),
      fun r => hn h x r (List.prefix_refl _)⟩
  · rintro ⟨hn, hx⟩ past y r hp
    rcases concat_prefix_concat_iff.1 hp with ⟨rfl, rfl⟩ | hp
    · exact hx r
    · exact hn past y r hp

private theorem lastReturned_concat_of_returns {r : Report} (hr : Returns registry i h x r)
    (r' : Report) :
    LastReturned registry i (h ++ [x]) r' ↔ r' = r := by
  constructor
  · rintro ⟨past, y, hp, hy, hlast⟩
    rcases concat_prefix_concat_iff.1 hp with ⟨rfl, rfl⟩ | hp
    · have := hy.2.symm.trans hr.2
      cases this
      rfl
    · exact absurd hr (hlast h x r (List.prefix_refl _) (length_lt_of_earlier hp))
  · rintro rfl
    refine ⟨h, x, List.prefix_refl _, hr, fun past y _ hp hlen => ?_⟩
    have := length_lt_of_earlier hp
    simp at this
    omega

/-- A refused run leaves the last report in force. -/
private theorem lastReturned_concat_of_not_returns (hx : ∀ r, ¬ Returns registry i h x r) (r : Report) :
    LastReturned registry i (h ++ [x]) r ↔ LastReturned registry i h r := by
  constructor
  · rintro ⟨past, y, hp, hy, hlast⟩
    rcases concat_prefix_concat_iff.1 hp with ⟨rfl, rfl⟩ | hp
    · exact absurd hy (hx r)
    · exact ⟨past, y, hp, hy, fun past' y' r' hp' =>
        hlast past' y' r' (hp'.trans (List.prefix_append h [x]))⟩
  · rintro ⟨past, y, hp, hy, hlast⟩
    refine ⟨past, y, hp.trans (List.prefix_append h [x]), hy, fun past' y' r' hp' hlen => ?_⟩
    rcases concat_prefix_concat_iff.1 hp' with ⟨rfl, rfl⟩ | hp'
    · exact hx r'
    · exact hlast past' y' r' hp' hlen

end

/-! ### One step -/

section
variable {v : Validator} {s : Surroundings} {x : Step}

/-- A run leaves rules and data as they are, and no step touches the registry. -/
theorem step_input (v : Validator) (s : Surroundings) (x : Step) :
    (v.step s x).1.registry = v.registry ∧
      Input.mk (v.step s x).1.rules (v.step s x).1.data = x.change ⟨v.rules, v.data⟩ := by
  cases x with
  | validate | passes | fails =>
    simp only [step, validate]
    split <;> exact ⟨rfl, rfl⟩
  | _ => exact ⟨rfl, rfl⟩

private theorem validate_of_ok {r : Report}
    (ho : (FieldRules.validate v.registry v.rules v.data s).outcome = .ok r) :
    v.validate s = ({ v with report := some r }, .ok r.passed) := by
  simp [validate, ho]

private theorem validate_of_error {e : ConfigurationError}
    (ho : (FieldRules.validate v.registry v.rules v.data s).outcome = .error e) :
    v.validate s = (v, .error e) := by
  simp [validate, ho]

private theorem step_report_of_ok {r : Report} (hx : x.Runs)
    (ho : (FieldRules.validate v.registry v.rules v.data s).outcome = .ok r) :
    (v.step s x).1.report = some r := by
  cases hx <;> simp [step, validate_of_ok ho]

private theorem step_of_error {e : ConfigurationError} (hx : x.Runs)
    (ho : (FieldRules.validate v.registry v.rules v.data s).outcome = .error e) :
    v.step s x = (v, .verdict (.error e)) := by
  cases hx <;> simp [step, validate_of_error ho, Except.map]

private theorem step_report_of_not_runs (hx : ¬ x.Runs) : (v.step s x).1.report = v.report := by
  cases x with
  | validate => exact absurd .validate hx
  | passes => exact absurd .passes hx
  | fails => exact absurd .fails hx
  | _ => rfl

end

/-- The state of a validator that has been through `past`. -/
structure Follows (registry : Registry) (i : Input) (past : List Turn) (v : Validator) : Prop where
  sameRegistry : v.registry = registry
  input : Input.mk v.rules v.data = inputAfter i past
  never : v.report = none ↔ NoneReturned registry i past
  last : ∀ r, v.report = some r ↔ LastReturned registry i past r

namespace Follows
variable {registry : Registry} {i : Input} {past : List Turn} {v : Validator} {s : Surroundings}
  {x : Step}

private theorem start : Follows registry i [] (new registry i.rules i.data) where
  sameRegistry := rfl
  input := rfl
  never := by simp [new, noneReturned_nil]
  last r := by
    constructor
    · intro h
      cases h
    · rintro ⟨_, _, hp, -⟩
      simp at hp

private theorem outcome (hf : Follows registry i past v) (s : Surroundings) :
    (FieldRules.validate v.registry v.rules v.data s).outcome = outcomeAfter registry i past s := by
  rw [outcomeAfter, ← hf.input, hf.sameRegistry]

/-- A step without a run that returns keeps the report. -/
theorem report_of_not_returns (hf : Follows registry i past v)
    (hx : ∀ r, ¬ Returns registry i past (s, x) r) : (v.step s x).1.report = v.report := by
  by_cases hr : x.Runs
  · cases ho : outcomeAfter registry i past s with
    | ok r => exact absurd ⟨hr, ho⟩ (hx r)
    | error e => rw [step_of_error hr ((hf.outcome s).trans ho)]
  · exact step_report_of_not_runs hr

/-- One turn keeps the invariant, whatever is asked and however the surroundings answer. -/
private theorem step (hf : Follows registry i past v) (s : Surroundings) (x : Step) :
    Follows registry i (past ++ [(s, x)]) (v.step s x).1 := by
  obtain ⟨hregistry, hinput⟩ := step_input v s x
  have hi :
      Input.mk (v.step s x).1.rules (v.step s x).1.data = inputAfter i (past ++ [(s, x)]) := by
    rw [hinput, hf.input, inputAfter_concat]
  by_cases hx : ∃ r, Returns registry i past (s, x) r
  · obtain ⟨r, hr⟩ := hx
    have hreport := step_report_of_ok hr.1 ((hf.outcome s).trans hr.2)
    refine ⟨hregistry.trans hf.sameRegistry, hi, ?_, fun r' => ?_⟩
    · rw [hreport, noneReturned_concat]
      exact ⟨fun h => absurd h (by simp), fun h => absurd hr (h.2 r)⟩
    · rw [hreport, lastReturned_concat_of_returns hr, Option.some_inj, eq_comm]
  · rw [not_exists] at hx
    have hreport := hf.report_of_not_returns hx
    refine ⟨hregistry.trans hf.sameRegistry, hi, ?_, fun r => ?_⟩
    · rw [hreport, noneReturned_concat, hf.never]
      exact ⟨fun h => ⟨h, hx⟩, fun h => h.1⟩
    · rw [hreport, lastReturned_concat_of_not_returns hx, hf.last]

/-- Each step is answered as the history before it asks for. -/
theorem answers (hf : Follows registry i past v) (s : Surroundings) (x : Step) :
    Answers registry i past (s, x) (v.step s x).2 := by
  by_cases hx : x.Runs
  · cases ho : outcomeAfter registry i past s with
    | ok r =>
      have hv := validate_of_ok ((hf.outcome s).trans ho)
      cases hx with
      | validate =>
        simp only [Validator.step, hv]
        exact .holds ⟨.validate, ho⟩ (.inl rfl)
      | passes =>
        simp only [Validator.step, hv]
        exact .holds ⟨.passes, ho⟩ (.inr rfl)
      | fails =>
        simp only [Validator.step, hv]
        exact .fails ⟨.fails, ho⟩
    | error e =>
      rw [step_of_error hx ((hf.outcome s).trans ho)]
      exact .refused hx ho
  · cases x with
    | validate => exact absurd .validate hx
    | passes => exact absurd .passes hx
    | fails => exact absurd .fails hx
    | errors =>
      simp only [Validator.step, Validator.errors]
      cases hr : v.report with
      | none => exact .noErrors (hf.never.1 hr)
      | some r => exact .errors ((hf.last r).1 hr)
    | report =>
      simp only [Validator.step]
      cases hr : v.report with
      | none => exact .noReport (hf.never.1 hr)
      | some r => exact .report ((hf.last r).1 hr)
    | _ => exact .changed hx (by simp) (by simp)

private theorem errors_of_last (hf : Follows registry i past v) {r : Report}
    (hr : LastReturned registry i past r) : v.errors = r.errors.entries := by
  simp [errors, (hf.last r).2 hr]

private theorem errors_of_never (hf : Follows registry i past v) (hn : NoneReturned registry i past) :
    v.errors = [] := by
  simp [errors, hf.never.2 hn]

end Follows

/-! ### A whole history -/

private theorem steps_append (v : Validator) (h h' : List Turn) :
    v.steps (h ++ h') =
      (((v.steps h).1.steps h').1, (v.steps h).2 ++ ((v.steps h).1.steps h').2) := by
  induction h generalizing v with
  | nil => rfl
  | cons x rest ih => simp [steps, ih]

private theorem length_steps (v : Validator) (h : List Turn) : (v.steps h).2.length = h.length := by
  induction h generalizing v with
  | nil => rfl
  | cons x rest ih => simp [steps, ih]

private theorem steps_concat (v : Validator) (h : List Turn) (x : Turn) :
    v.steps (h ++ [x]) =
      (((v.steps h).1.step x.1 x.2).1, (v.steps h).2 ++ [((v.steps h).1.step x.1 x.2).2]) :=
  steps_append v h [x]

/-- The invariant holds after every sequence of turns, from any registry and input. -/
private theorem follows_steps (registry : Registry) (i : Input) (h : List Turn) :
    Follows registry i h ((new registry i.rules i.data).steps h).1 := by
  induction h using List.reverseRecOn with
  | nil => exact .start
  | append_singleton past x ih =>
    rw [steps_concat]
    exact ih.step x.1 x.2

/-- An answer depends on the turns before it, never on later ones. -/
private theorem answer_of_earlier (registry : Registry) (i : Input) {h past : List Turn}
    {x : Turn} (hp : past ++ [x] <+: h) :
    ∃ answer, ((new registry i.rules i.data).steps h).2[past.length]? = some answer ∧
      Answers registry i past x answer := by
  obtain ⟨later, rfl⟩ := hp
  refine ⟨_, ?_, (follows_steps registry i past).answers x.1 x.2⟩
  rw [steps_append, steps_concat, ← length_steps (new registry i.rules i.data) past]
  simp

/-- A validator holds the report of the last run that returned, which is that of the rules and the
data at that point of its history, and nothing before the first such run. Steps without a run that
returns, changes and refused runs among them, leave report and errors as they were, and each step is
answered from the history before it. -/
theorem steps_tell_last_returned_run (registry : Registry) (i : Input) (h : List Turn) :
    let start := new registry i.rules i.data
    let now := (start.steps h).1
    Input.mk now.rules now.data = inputAfter i h ∧
    (now.report = none ↔ NoneReturned registry i h) ∧
    (∀ r, now.report = some r ↔ LastReturned registry i h r) ∧
    (NoneReturned registry i h → now.errors = []) ∧
    (∀ r, LastReturned registry i h r → now.errors = r.errors.entries) ∧
    (∀ x, (∀ r, ¬ Returns registry i h x r) →
      (start.steps (h ++ [x])).1.report = now.report ∧
        (start.steps (h ++ [x])).1.errors = now.errors) ∧
    (start.steps h).2.length = h.length ∧
    ∀ past x, past ++ [x] <+: h → ∃ answer, (start.steps h).2[past.length]? = some answer ∧
      Answers registry i past x answer := by
  intro start now
  have hf : Follows registry i h now := follows_steps registry i h
  refine ⟨hf.input, hf.never, hf.last, hf.errors_of_never, fun r => hf.errors_of_last, ?_,
    length_steps start h, fun past x => answer_of_earlier registry i⟩
  intro x hx
  have hreport : (start.steps (h ++ [x])).1.report = now.report := by
    rw [steps_concat]
    exact hf.report_of_not_returns hx
  exact ⟨hreport, by rw [errors, errors, hreport]⟩

def misspelt : List Turn :=
  [(.offline, .fails), (.offline, .setRule "name".toList (.text "requird".toList))]

def again : Turn := (.offline, .passes)

/-- A run that is refused after a run that returned: the earlier report is still there. -/
theorem misspelt_keeps_report :
    ((new signUpRegistry signUp.rules signUp.data).steps misspelt).1.report ≠ none ∧
    ((new signUpRegistry signUp.rules signUp.data).steps (misspelt ++ [again])).1.report =
      ((new signUpRegistry signUp.rules signUp.data).steps misspelt).1.report ∧
    ((new signUpRegistry signUp.rules signUp.data).steps (misspelt ++ [again])).1.errors =
      ((new signUpRegistry signUp.rules signUp.data).steps misspelt).1.errors := by
  obtain ⟨-, hnever, -, -, -, hkept, -⟩ :=
    steps_tell_last_returned_run signUpRegistry signUp misspelt
  have hsound : (Plan.ofRules signUpRegistry.inUse signUp.rules).offence = none := rfl
  have hrefused : outcomeAfter signUpRegistry signUp misspelt .offline =
      .error (.unknownRule "requird".toList (some "name".toList)) := by
    rw [outcomeAfter, FieldRules.validate, Run.outcome_eq_error_iff]
    rfl
  refine ⟨fun h => ?_, hkept again fun r hr => ?_⟩
  · obtain ⟨r, hr⟩ := exists_report_of_validate hsound signUp.data .offline
    exact hnever.1 h [] (.offline, .fails) r ⟨_, rfl⟩ ⟨.fails, hr⟩
  · have := hrefused.symm.trans hr.2
    cases this
end FieldRules.Validator
