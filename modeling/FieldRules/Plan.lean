import FieldRules.FieldMap
import FieldRules.Registry
import FieldRules.Rule
import FieldRules.Value.Display

/-!
Plans: what a rule set asks for, in order, up to the first error in it. A plan does not depend on
the data.
-/

namespace FieldRules

structure Occurrence where
  field : Text
  rule : Rule
  checker : Checker
  argument : checker.Argument

/-- The results of `f` up to the first error, and that error. -/
def untilError {α β ε : Type} (f : α → Except ε β) : List α → List β × Option ε
  | [] => ([], none)
  | a :: rest =>
    match f a with
    | .ok b => let (bs, e) := untilError f rest; (b :: bs, e)
    | .error e => ([], some e)

/-- A field whose definition parsed: its rules, and those of them that can be applied. -/
structure FieldPlan where
  field : Text
  definition : Text
  rules : List Rule
  occurrences : List Occurrence

structure Plan where
  fields : List FieldPlan
  offence : Option ConfigurationError

namespace Plan

def occurrence (registry : Registry) (field : Text) (rule : Rule) :
    Except ConfigurationError Occurrence :=
  match registry.resolve rule.name (some field) with
  | .error e => .error e
  | .ok checker =>
    match checker.parse rule.argument with
    | .ok argument => .ok ⟨field, rule, checker, argument⟩
    | .error problem => .error (.argument checker.name problem (some field))

def shown (definition : Value) : Text :=
  match definition.print with
  | .ok t => t
  | .error _ => []

/-- A definition that reads as tokens can be shown in the event that opens its field. -/
private theorem displayEach_of_tokensOf {items : List Value} {ts : List Text}
    (h : Rule.tokensOf items = .ok ts) : ∃ shown, Value.displayEach items = .ok shown := by
  fun_induction Rule.tokensOf items generalizing ts with
  | case1 => exact ⟨[], rfl⟩
  | case2 t rest ih =>
    cases hr : Rule.tokensOf rest with
    | error e => simp [hr, Except.map] at h
    | ok us =>
      obtain ⟨shown, hs⟩ := ih hr
      exact ⟨t.quoted :: shown, by simp [Value.displayEach, Value.display, hs, Except.map]⟩
  | case3 => simp at h

/-- A definition that can be read can be shown. -/
theorem print_of_ofDefinition {definition : Value} {rules : List Rule}
    (h : Rule.ofDefinition definition = .ok rules) : definition.print = .ok (shown definition) := by
  have hprint : ∃ t, definition.print = .ok t := by
    cases definition with
    | text t => exact ⟨t, rfl⟩
    | bytes bs => exact ⟨_, rfl⟩
    | list items | tuple items =>
      cases ht : Rule.tokensOf items with
      | error e => simp [Rule.ofDefinition, Rule.tokens, ht, Except.map] at h
      | ok ts =>
        obtain ⟨shown, hs⟩ := displayEach_of_tokensOf ht
        simp [Value.print, Value.display, hs, Except.map]
    | _ => simp [Rule.ofDefinition, Rule.tokens, Except.map] at h
  obtain ⟨t, ht⟩ := hprint
  simp [shown, ht]

/-- The plan of one field, and the first error in it. Without a plan the definition is at fault. -/
def ofField (registry : Registry) (field : Text) (definition : Value) :
    Option FieldPlan × Option ConfigurationError :=
  match Rule.ofDefinition definition with
  | .error e => (none, some e)
  | .ok rules =>
    let (occurrences, offence) := untilError (occurrence registry field) rules
    (some ⟨field, shown definition, rules, occurrences⟩, offence)

def ofEntries (registry : Registry) : List (Text × Value) → Plan
  | [] => ⟨[], none⟩
  | (field, definition) :: rest =>
    match ofField registry field definition with
    | (plan, some e) => ⟨plan.toList, some e⟩
    | (plan, none) =>
      let others := ofEntries registry rest
      ⟨plan.toList ++ others.fields, others.offence⟩

def ofRules (registry : Registry) (rules : FieldMap Value) : Plan :=
  ofEntries registry rules.entries

end Plan

end FieldRules
