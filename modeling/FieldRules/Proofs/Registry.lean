import FieldRules.Plan
import Mathlib.Data.List.Nodup

/-! Looking up checkers: the names of a registry are distinct, so a name stands for one checker, and
a rule can be applied if that checker accepts its argument. -/
namespace FieldRules

namespace Registry
variable {registry : Registry} {name : Text} {checker : Checker}

theorem find?_eq_none_iff : registry.find? name = none ↔ name ∉ registry.names := by
  simp [find?, names]

theorem find?_eq_some_iff :
    registry.find? name = some checker ↔ checker ∈ registry.checkers ∧ checker.name = name := by
  constructor
  · intro h
    exact ⟨List.mem_of_find?_eq_some h, by simpa using List.find?_some h⟩
  · rintro ⟨hm, rfl⟩
    cases h : registry.find? checker.name with
    | none => exact absurd (List.mem_map.2 ⟨checker, hm, rfl⟩) (find?_eq_none_iff.1 h)
    | some other =>
      have hother : other.name = checker.name := by simpa using List.find?_some h
      rw [List.inj_on_of_nodup_map registry.distinct (List.mem_of_find?_eq_some h) hm hother]

private theorem firstRepeat?_eq_none {seen names : List Text} (h : (seen ++ names).Nodup) :
    firstRepeat? seen names = none := by
  induction names generalizing seen with
  | nil => rfl
  | cons n rest ih =>
    have hn : n ∉ seen := fun hm => (List.nodup_append.1 h).2.2 n hm n List.mem_cons_self rfl
    rw [firstRepeat?, if_neg hn]
    exact ih (by simpa using h)

/-- Checkers with distinct names make a registry of just these checkers. -/
theorem exists_ofCheckers {checkers : List Checker} (h : (checkers.map Checker.name).Nodup) :
    ∃ registry, ofCheckers checkers = .ok registry ∧ registry.checkers = checkers := by
  unfold ofCheckers
  split
  · rename_i name hrepeat
    rw [firstRepeat?_eq_none (by simpa using h)] at hrepeat
    cases hrepeat
  · exact ⟨_, rfl, rfl⟩

/-- Runs use a registry as it is if it has any checker at all. -/
theorem inUse_of_ne_nil (h : registry.checkers ≠ []) : registry.inUse = registry := by
  simp [inUse, h]

/-- An empty registry counts as none given, and the standard one is used. -/
theorem inUse_of_eq_nil (h : registry.checkers = []) : registry.inUse = standard := by
  simp [inUse, h]

end Registry

namespace Rule

def listOf (definition : Value) : List Rule :=
  match ofDefinition definition with
  | .ok rules => rules
  | .error _ => []

theorem listOf_eq {definition : Value} {rules : List Rule} (h : ofDefinition definition = .ok rules) :
    listOf definition = rules := by
  simp [listOf, h]

def Applicable (registry : Registry) (r : Rule) : Prop :=
  ∃ checker ∈ registry.checkers, checker.name = r.name ∧
    ∃ argument, checker.parse r.argument = .ok argument

end Rule

namespace Plan
variable {registry : Registry} {field : Text} {r : Rule}

/-- A rule is planned when its checker is registered and reads its argument. -/
theorem occurrence_eq_ok_iff {o : Occurrence} :
    occurrence registry field r = .ok o ↔
      ∃ checker argument, registry.find? r.name = some checker ∧
        checker.parse r.argument = .ok argument ∧ o = ⟨field, r, checker, argument⟩ := by
  unfold occurrence Registry.resolve
  cases registry.find? r.name with
  | none => simp
  | some checker => cases h : checker.parse r.argument <;> simp [h, eq_comm]

/-- A rule is refused for its name before its argument is looked at. -/
theorem occurrence_eq_error_iff {e : ConfigurationError} :
    occurrence registry field r = .error e ↔
      (registry.find? r.name = none ∧ e = .unknownRule r.name (some field)) ∨
        ∃ checker problem, registry.find? r.name = some checker ∧
          checker.parse r.argument = .error problem ∧
          e = .argument checker.name problem (some field) := by
  unfold occurrence Registry.resolve
  cases registry.find? r.name with
  | none => simp [eq_comm]
  | some checker => cases h : checker.parse r.argument <;> simp [h, eq_comm]

/-- Being planned depends on the rule and the registry, not on the field that carries it. -/
theorem exists_occurrence_iff :
    (∃ o, occurrence registry field r = .ok o) ↔ r.Applicable registry := by
  simp only [occurrence_eq_ok_iff, Registry.find?_eq_some_iff, Rule.Applicable]
  constructor
  · rintro ⟨_, checker, argument, ⟨hm, hn⟩, hp, -⟩
    exact ⟨checker, hm, hn, argument, hp⟩
  · rintro ⟨checker, hm, hn, argument, hp⟩
    exact ⟨_, checker, argument, ⟨hm, hn⟩, hp, rfl⟩

end Plan
end FieldRules
