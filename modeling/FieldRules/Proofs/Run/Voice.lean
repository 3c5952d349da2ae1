import FieldRules.Proofs.Run.Independence
import Mathlib.Algebra.Order.BigOperators.Group.List
import Mathlib.Algebra.Order.Group.Nat

/-! Rules speak with one voice. A check returns nothing or the failure message of its checker, and a
check that breaks off is answered with that same message. -/
namespace FieldRules

/-- Of a check that has one message: it returned nothing or that message, or it broke off. -/
inductive Verdict.OneVoice (message : Text) : Verdict → Prop where
  | silent : OneVoice message (.returned [])
  | spoken : OneVoice message (.returned [message])
  | broken (fault : Fault) : OneVoice message (.broken fault)

private theorem Verdict.oneVoice_ofResult (message : Text) (result : Except Fault Bool) :
    (ofResult (.ok message) result).OneVoice message := by
  rcases result with fault | _ | _
  · exact .broken fault
  · exact .spoken
  · exact .silent

namespace Trial

/-- A value that is no text, one that does not match and a pattern that does not compile get one
message. -/
private theorem oneVoice_matchesPattern (message field pattern : Text) (v : Value) (s : Surroundings) :
    (matchesPattern (.ok message) field pattern v s).verdict.OneVoice message := by
  unfold matchesPattern
  split
  · exact Verdict.oneVoice_ofResult message _
  · exact .spoken
  · exact .broken _

private theorem oneVoice_reach (message field url : Text) (s : Surroundings) :
    (reach (.ok message) field url s).verdict.OneVoice message := by
  unfold reach
  split
  · exact .broken _
  · split
    · split
      · exact .silent
      · exact .spoken
    · exact .spoken
    · exact .broken _

private theorem oneVoice_isActive (message field : Text) (v : Value) (s : Surroundings) :
    (isActive (.ok message) field v s).verdict.OneVoice message := by
  unfold isActive
  split
  · exact .broken _
  · split
    · exact oneVoice_reach message field _ s
    · exact .spoken

end Trial

/-- With an argument that it reads itself, a checker has no message but its failure message. -/
theorem Checker.oneVoice_check {c : Checker} {raw : Option Text} {argument : c.Argument}
    (hp : c.parse raw = .ok argument) (field : Text) (v : Value) (data : FieldMap Value)
    (s : Surroundings) :
    (c.check field v data s argument).verdict.OneVoice (c.failureMessage argument) := by
  have hw := writeMessage_of_parse hp
  cases c with
  | required => exact Verdict.oneVoice_ofResult requiredMessage _
  | nullable => exact .silent
  | faulty => exact .broken _
  | regex =>
    simp only [check, hw]
    exact Trial.oneVoice_matchesPattern _ field argument v s
  | activeUrl =>
    simp only [check, hw]
    exact Trial.oneVoice_isActive _ field v s
  | _ =>
    simp only [check, onText, hw]
    exact Verdict.oneVoice_ofResult _ _

/-- The registry that runs use offers nothing else than the given one or the standard one. -/
theorem Registry.builtIn_of_inUse {registry : Registry}
    (hb : ∀ c ∈ registry.checkers, c ∈ Checker.builtIn) :
    ∀ c ∈ registry.inUse.checkers, c ∈ Checker.builtIn := by
  unfold inUse
  split
  · exact fun c hc => hc
  · exact hb

namespace Rule
variable {registry : Registry} {data : FieldMap Value} {s : Surroundings} {field : Text} {r : Rule}

def HasMessage (registry : Registry) (r : Rule) (message : Text) : Prop :=
  ∃ c ∈ registry.checkers, c.name = r.name ∧
    ∃ argument, c.parse r.argument = .ok argument ∧ c.failureMessage argument = message

/-- A rule adds nothing if its check returns nothing, and otherwise its message, be it that the
check returned it or that the check broke off. -/
theorem contribution_of_check {c : Checker} {argument : c.Argument} (hc : c ∈ registry.checkers)
    (hn : c.name = r.name) (hp : c.parse r.argument = .ok argument) :
    r.contribution registry data s field =
      if (c.check field (data.held field) data s argument).verdict = .returned [] then []
      else [c.failureMessage argument] := by
  have hf := Registry.find?_eq_some_iff.2 ⟨hc, hn⟩
  have hone := Checker.oneVoice_check hp field (data.held field) data s
  simp only [contribution, hf, hp]
  rw [← FieldMap.held]
  cases hv : (c.check field (data.held field) data s argument).verdict with
  | returned messages =>
    rw [hv] at hone
    cases hone with
    | silent => simp
    | spoken => simp
  | broken fault => simp

variable (registry data s field r) in
/-- A rule adds nothing or its one message; if it cannot be applied it adds nothing. -/
theorem contribution_cases : r.contribution registry data s field = [] ∨
    ∃ message, r.HasMessage registry message ∧
      r.contribution registry data s field = [message] := by
  cases hf : registry.find? r.name with
  | none => simp [contribution, hf]
  | some c =>
    obtain ⟨hc, hn⟩ := Registry.find?_eq_some_iff.1 hf
    cases hp : c.parse r.argument with
    | error problem => simp [contribution, hf, hp]
    | ok argument =>
      rw [contribution_of_check hc hn hp]
      split
      · exact .inl rfl
      · exact .inr ⟨_, ⟨c, hc, hn, argument, hp, rfl⟩, rfl⟩

private theorem hasMessage_of_mem_contribution {message : Text}
    (h : message ∈ r.contribution registry data s field) : r.HasMessage registry message := by
  rcases contribution_cases registry data s field r with hnil | ⟨own, hown, heq⟩
  · rw [hnil] at h
    contradiction
  · rw [heq, List.mem_singleton] at h
    exact h ▸ hown

/-- A rule adds at most one message. -/
private theorem length_contribution_le : (r.contribution registry data s field).length ≤ 1 := by
  rcases contribution_cases registry data s field r with h | ⟨own, -, h⟩
  · simp [h]
  · simp [h]

private theorem contribution_nullable (hb : ∀ c ∈ registry.checkers, c ∈ Checker.builtIn)
    (hr : r.name = Checker.nullable.name) : r.contribution registry data s field = [] := by
  have honly : ∀ c ∈ Checker.builtIn, c.name = Checker.nullable.name → c = .nullable := by decide
  cases hf : registry.find? r.name with
  | none => simp [contribution, hf]
  | some c =>
    obtain ⟨hc, hn⟩ := Registry.find?_eq_some_iff.1 hf
    obtain rfl := honly c (hb c hc) (hn.trans hr)
    simp [contribution, hf, Checker.parse, Checker.check]

private theorem length_flatMap_contribution_le (rs : List Rule) :
    (rs.flatMap (contribution registry data s field)).length ≤ rs.length := by
  induction rs with
  | nil => exact Nat.le_refl 0
  | cons r rest ih =>
    have hr : (r.contribution registry data s field).length ≤ 1 := length_contribution_le
    rw [List.flatMap_cons, List.length_append, List.length_cons]
    omega

end Rule

section Reported
variable {registry : Registry} {rules data : FieldMap Value} {s : Surroundings} {report : Report}

/-- What a report holds under a field are the messages of rules of this field, each rule with at
most one. -/
theorem entry_of_validate (h : (validate registry rules data s).outcome = .ok report)
    {field : Text} {messages : List Text} (hm : (field, messages) ∈ report.errors.entries) :
    ∃ definition, (field, definition) ∈ rules.entries ∧
      messages = (Rule.listOf definition).flatMap
        (Rule.contribution registry.inUse data s field) := by
  obtain ⟨definition, hd, -, hmessages⟩ :=
    (errors_get?_eq_some_iff h field messages).1 (FieldMap.get?_eq_some_iff.2 hm)
  exact ⟨definition, FieldMap.get?_eq_some_iff.1 hd, hmessages.symm⟩

/-- There are never more messages than rules. -/
private theorem count_le_rulesChecked (h : (validate registry rules data s).outcome = .ok report) :
    (report.count : Int) ≤ report.rulesChecked := by
  have hfield : ∀ x ∈ rules.entries,
      ((Rule.listOf x.2).map fun r => (r.contribution registry.inUse data s x.1).length).sum ≤
        (Rule.listOf x.2).length := by
    intro x _
    rw [← List.length_flatMap]
    exact Rule.length_flatMap_contribution_le _
  rw [count_of_validate h, rulesChecked_of_validate h]
  exact_mod_cast List.sum_le_sum hfield

end Reported

/-- A check returns nothing or the failure message of its checker, or breaks off. So in a run that
returns each rule adds nothing, or its one message: that of its check, or the same if the check
broke off. A field has no message but those of its rules and no more messages than rules, a report no
more messages than rules were applied, and `nullable` adds nothing. -/
theorem validate_speaks_with_one_voice :
    (∀ (c : Checker) (raw : Option Text) (argument : c.Argument), c.parse raw = .ok argument →
      ∀ field v data s,
        (c.check field v data s argument).verdict.OneVoice (c.failureMessage argument)) ∧
    ∀ (registry : Registry) (rules data : FieldMap Value) (s : Surroundings) (report : Report),
      (validate registry rules data s).outcome = .ok report →
      let own := Rule.contribution registry.inUse data s
      (∀ x ∈ rules.entries, ∀ r ∈ Rule.listOf x.2,
        ∃ c ∈ registry.inUse.checkers, c.name = r.name ∧
          ∃ argument, c.parse r.argument = .ok argument ∧
            own x.1 r =
              if (c.check x.1 (data.held x.1) data s argument).verdict = .returned [] then []
              else [c.failureMessage argument]) ∧
      (∀ field messages, (field, messages) ∈ report.errors.entries →
        ∃ definition, (field, definition) ∈ rules.entries ∧
          messages = (Rule.listOf definition).flatMap (own field) ∧
          messages.length ≤ (Rule.listOf definition).length ∧
          ∀ m ∈ messages, ∃ r ∈ Rule.listOf definition, r.HasMessage registry.inUse m) ∧
      (report.count : Int) ≤ report.rulesChecked ∧
      ((∀ c ∈ registry.checkers, c ∈ Checker.builtIn) →
        ∀ x ∈ rules.entries, ∀ r ∈ Rule.listOf x.2, r.name = Checker.nullable.name →
          own x.1 r = []) := by
  refine ⟨fun c raw argument hp field v data s => Checker.oneVoice_check hp field v data s, ?_⟩
  intro registry rules data s report h own
  refine ⟨?_, ?_, count_le_rulesChecked h, ?_⟩
  · intro x hx r hr
    obtain ⟨rs, hrs, happlicable⟩ := applicable_of_validate h x hx
    rw [Rule.listOf_eq hrs] at hr
    obtain ⟨c, hc, hn, argument, hp⟩ := happlicable r hr
    exact ⟨c, hc, hn, argument, hp, Rule.contribution_of_check hc hn hp⟩
  · intro field messages hm
    obtain ⟨definition, hd, rfl⟩ := entry_of_validate h hm
    refine ⟨definition, hd, rfl, Rule.length_flatMap_contribution_le _, ?_⟩
    intro m hm
    obtain ⟨r, hr, hmr⟩ := List.mem_flatMap.1 hm
    exact ⟨r, hr, Rule.hasMessage_of_mem_contribution hmr⟩
  · intro hb x _ r _ hn
    exact Rule.contribution_nullable (Registry.builtIn_of_inUse hb) hn

def serialRegistry : Registry := ⟨[.nullable, .lowercase, .max], by decide⟩

def serialRules : FieldMap Value :=
  ⟨[("serial".toList, .text "nullable|lowercase|max:3".toList)], by decide⟩

def serialData : FieldMap Value :=
  ⟨[("serial".toList, .int (Nat.pow 10 Decimal.digitLimit))], by decide⟩

def serialReport : Report where
  errors := ⟨[("serial".toList, ["This field must be in lowercase.".toList,
    "This field must not be more than 3 characters.".toList])], by decide⟩
  fieldsChecked := 1
  rulesChecked := 3

/-- Two checks that break off leave their one message each, and `nullable` leaves none. -/
theorem serialReport_one_voice :
    (validate serialRegistry serialRules serialData .offline).outcome = .ok serialReport ∧
    (serialReport.count : Int) ≤ serialReport.rulesChecked ∧
    Rule.contribution serialRegistry.inUse serialData .offline "serial".toList
      ⟨"nullable".toList, none⟩ = [] ∧
    ∃ r ∈ Rule.listOf (.text "nullable|lowercase|max:3".toList),
      r.HasMessage serialRegistry.inUse "This field must not be more than 3 characters.".toList := by
  have h : (validate serialRegistry serialRules serialData .offline).outcome = .ok serialReport :=
    Run.outcome_eq_ok_iff.2 ⟨rfl, Report.ext_entries (by decide +kernel) rfl (by decide +kernel)⟩
  obtain ⟨-, hreport⟩ := validate_speaks_with_one_voice
  obtain ⟨-, hentries, hcount, hnullable⟩ := hreport _ _ _ _ _ h
  refine ⟨h, hcount, ?_, ?_⟩
  · exact hnullable (by decide) _ List.mem_cons_self ⟨"nullable".toList, none⟩ (by decide) rfl
  · obtain ⟨definition, hd, -, -, hmessages⟩ := hentries _ _ List.mem_cons_self
    cases List.mem_singleton.1 hd
    exact hmessages _ (by decide)
end FieldRules
