import FieldRules.Checker.Trial
import FieldRules.Plan

/-!
Runs: the rules of all fields applied to data, one after the other. No failure keeps another rule
from being applied, and a checker that breaks off counts as a failure of its rule.
-/

namespace FieldRules

structure Attempt where
  occurrence : Occurrence
  trial : Trial

namespace Occurrence

def message (o : Occurrence) : Text := o.checker.failureMessage o.argument

/-- Applies the rule to the value of its field; an absent field holds nothing. -/
def trial (data : FieldMap Value) (s : Surroundings) (o : Occurrence) : Trial :=
  o.checker.check o.field ((data.get? o.field).getD .null) data s o.argument

private theorem writeMessage_eq {registry : Registry} {field : Text} {r : Rule} {o : Occurrence}
    (h : Plan.occurrence registry field r = .ok o) :
    o.checker.writeMessage o.argument = .ok o.message := by
  unfold Plan.occurrence at h
  split at h
  · simp at h
  · split at h
    · rename_i hp
      cases h
      exact Checker.writeMessage_of_parse hp
    · simp at h

end Occurrence

namespace Attempt

/-- The messages that an attempt adds to its field: those of the check, or that of its checker if the
check broke off. -/
def contribution (a : Attempt) : List Text :=
  match a.trial.verdict with
  | .returned messages => messages
  | .broken _ => [a.occurrence.message]

def written (a : Attempt) : Except Fault (List Text) :=
  match a.trial.verdict with
  | .returned messages => .ok messages
  | .broken _ =>
    (a.occurrence.checker.writeMessage a.occurrence.argument).map fun message => [message]

/-- A planned message is the one that the run writes, so no message is refused while it is written. -/
theorem written_eq {registry : Registry} {field : Text} {r : Rule} {o : Occurrence}
    (h : Plan.occurrence registry field r = .ok o) (t : Trial) :
    written ⟨o, t⟩ = .ok (contribution ⟨o, t⟩) := by
  unfold written contribution
  rw [Occurrence.writeMessage_eq h]
  cases t.verdict <;> rfl

def told (a : Attempt) : List Event :=
  a.trial.events ++ match a.trial.verdict with
    | .broken fault => [.checkerFailed a.occurrence.field a.occurrence.rule.name fault.message]
    | .returned _ => []

end Attempt

/-- What ends a run before its report: an error in the rule set, or a fault outside of every check. -/
inductive Stop where
  | offence (e : ConfigurationError)
  | fault (fault : Fault)

/-- How far a run has come: what it has told and asked, the messages of the fields so far, and the
number of rules that were applied. -/
structure Progress where
  events : List Event
  requests : List Request
  errors : FieldMap (List Text)
  rulesChecked : Nat

namespace Progress

def start : Progress := ⟨[], [], .empty, 0⟩

def tell (p : Progress) (e : Event) : Progress := { p with events := p.events ++ [e] }

def gather (errors : FieldMap (List Text)) (field : Text) (messages : List Text) :
    FieldMap (List Text) :=
  if messages.isEmpty then errors
  else errors.alter field fun earlier => earlier.getD [] ++ messages

def record (p : Progress) (a : Attempt) (messages : List Text) : Progress where
  events := p.events ++ a.told
  requests := p.requests ++ a.trial.requests
  errors := gather p.errors a.occurrence.field messages
  rulesChecked := p.rulesChecked + 1

/-- Applies the rules of a field in order, up to the first that cannot be applied. What comes of a rule
may depend on the number of rules that were applied before it. -/
def applyRules (registry : Registry) (trial : Nat → Occurrence → Trial) (field : Text) :
    List Rule → Progress → Progress × Option Stop
  | [], p => (p, none)
  | r :: rest, p =>
    match Plan.occurrence registry field r with
    | .error e => (p, some (.offence e))
    | .ok o =>
      let attempt : Attempt := ⟨o, trial p.rulesChecked o⟩
      match attempt.written with
      | .error fault => (p, some (.fault fault))
      | .ok messages => applyRules registry trial field rest (p.record attempt messages)

def applyFields (registry : Registry) (trial : Nat → Occurrence → Trial) :
    List (Text × Value) → Progress → Progress × Option Stop
  | [], p => (p, none)
  | (field, definition) :: rest, p =>
    match Rule.ofDefinition definition with
    | .error e => (p, some (.offence e))
    | .ok rules =>
      match definition.print with
      | .error fault => (p, some (.fault fault))
      | .ok shown =>
        let parsed := p.tell (.rulesParsed shown (rules.map Rule.text))
        match applyRules registry trial field rules parsed with
        | (p, some stop) => (p, some stop)
        | (p, none) => applyFields registry trial rest p

/-- Writing a message could end a run in a fault; by `written_eq` it never does. -/
private theorem applyRules_ne_fault (registry : Registry) (trial : Nat → Occurrence → Trial)
    (field : Text)
    (rules : List Rule) (p : Progress) (f : Fault) :
    (applyRules registry trial field rules p).2 ≠ some (.fault f) := by
  induction rules generalizing p with
  | nil => simp [applyRules]
  | cons r rest ih =>
    cases h : Plan.occurrence registry field r with
    | error e => simp [applyRules, h]
    | ok o =>
      simp only [applyRules, h, Attempt.written_eq h]
      exact ih _

/-- Nothing outside of the checks breaks off. -/
theorem applyFields_ne_fault (registry : Registry) (trial : Nat → Occurrence → Trial)
    (entries : List (Text × Value)) (p : Progress) (f : Fault) :
    (applyFields registry trial entries p).2 ≠ some (.fault f) := by
  induction entries generalizing p with
  | nil => simp [applyFields]
  | cons entry rest ih =>
    obtain ⟨field, definition⟩ := entry
    cases h : Rule.ofDefinition definition with
    | error e => simp [applyFields, h]
    | ok rules =>
      simp only [applyFields, h, Plan.print_of_ofDefinition h]
      split
      · rename_i stop hs
        rw [← hs]
        exact applyRules_ne_fault registry trial field rules _ f
      · exact ih _

end Progress

structure Run where
  events : List Event
  requests : List Request
  outcome : Except ConfigurationError Report

namespace Run

def ofRules (registry : Registry) (trial : Nat → Occurrence → Trial) (rules : FieldMap Value) : Run :=
  match h : Progress.applyFields registry trial rules.entries .start with
  | (p, some (.offence e)) => ⟨p.events, p.requests, .error e⟩
  | (_, some (.fault f)) =>
    absurd (congrArg Prod.snd h) (Progress.applyFields_ne_fault registry trial _ _ f)
  | (p, none) =>
    let report := .build p.errors rules.size p.rulesChecked
    ⟨p.events ++ [.ofReport report], p.requests, .ok report⟩

end Run

/-- Applies a rule set to data with the checkers of a registry, each rule in the surroundings of its
place in the run. -/
def validateAmid (registry : Registry) (rules data : FieldMap Value) (s : Nat → Surroundings) : Run :=
  .ofRules registry.inUse (fun place => Occurrence.trial data (s place)) rules

/-- Applies a rule set to data in surroundings that stay as they are. -/
def validate (registry : Registry) (rules data : FieldMap Value) (s : Surroundings) : Run :=
  .ofRules registry.inUse (fun _ => Occurrence.trial data s) rules

end FieldRules
