import FieldRules.Run

/-!
Validators: a rule set and data that may change, and the report of the last run that returned.
-/

namespace FieldRules

structure Validator where
  registry : Registry
  rules : FieldMap Value
  data : FieldMap Value
  report : Option Report

namespace Validator

inductive Step where
  | validate
  | passes
  | fails
  | errors
  | report
  | setData (field : Text) (v : Value)
  | deleteData (field : Text)
  | setRule (field : Text) (definition : Value)
  | deleteRule (field : Text)

inductive Answer where
  | nothing
  | verdict (v : Except ConfigurationError Bool)
  | errors (errors : List (Text × List Text))
  | report (r : Option Report)

def new (registry : Registry) (rules data : FieldMap Value) : Validator :=
  ⟨registry, rules, data, none⟩

/-- Runs the rules on the data. A run that ends in an error leaves the report as it was. -/
def validate (v : Validator) (s : Surroundings) : Validator × Except ConfigurationError Bool :=
  match (FieldRules.validate v.registry v.rules v.data s).outcome with
  | .ok report => ({ v with report := some report }, .ok report.passed)
  | .error e => (v, .error e)

def errors (v : Validator) : List (Text × List Text) :=
  match v.report with
  | some r => r.errors.entries
  | none => []

def step (s : Surroundings) (v : Validator) : Step → Validator × Answer
  | .validate | .passes => let (v, verdict) := v.validate s; (v, .verdict verdict)
  | .fails => let (v, verdict) := v.validate s; (v, .verdict (verdict.map not))
  | .errors => (v, .errors v.errors)
  | .report => (v, .report v.report)
  | .setData field value => ({ v with data := v.data.put field value }, .nothing)
  | .deleteData field => ({ v with data := v.data.erase field }, .nothing)
  | .setRule field definition => ({ v with rules := v.rules.put field definition }, .nothing)
  | .deleteRule field => ({ v with rules := v.rules.erase field }, .nothing)

abbrev Turn := Surroundings × Step

def steps : Validator → List Turn → Validator × List Answer
  | v, [] => (v, [])
  | v, (s, x) :: later =>
    let (v, answer) := v.step s x
    let (v, answers) := steps v later
    (v, answer :: answers)

end Validator

end FieldRules
