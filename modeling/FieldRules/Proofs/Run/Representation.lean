import FieldRules.Proofs.Number
import FieldRules.Proofs.Run.Independence

/-! A whole number may be submitted as an integer, as a floating-point number or as a text. Rules read
it alike, a few apart, and so the messages of its field are the same. -/
namespace FieldRules

/-- Two values for one whole number, and the checkers that may tell them apart. -/
inductive SameNumber : Value → Value → List Checker → Prop where
  | float {identity : Nat} {x : Binary64} (integral : x.isIntegral) :
      SameNumber (.float identity x) (.int x.toInt) [.same]
  | text {n : Int} (short : (Decimal.natural n.natAbs).length ≤ Decimal.digitLimit) :
      SameNumber (.int n) (.text (Decimal.integer n)) [.required, .same, .oneOf, .between]

structure Value.ReadsAlike (v w : Value) : Prop where
  text : v.asText = w.asText
  size : v.measure = w.measure
  email : ∀ addresses, Trial.isEmailAddress addresses v = Trial.isEmailAddress addresses w
  number : v.isNumber = w.isNumber
  integer : v.isInteger = w.isInteger
  items : Trial.hasDistinctItems v = Trial.hasDistinctItems w

/-- No at sign is in a whole number. -/
theorem Value.isEmailAddress_integer (n : Int) (addresses : AddressTest) :
    Trial.isEmailAddress addresses (.text (Decimal.integer n)) = false := by
  have hat : '@' ∉ Decimal.integer n := by
    intro h
    rcases Decimal.of_mem_integer h with h | h
    · cases h
    · cases h
  simp [Trial.isEmailAddress, mt addresses.at_mem hat]

namespace SameNumber

private theorem readsAlike {v w : Value} {apart : List Checker} (h : SameNumber v w apart) :
    v.ReadsAlike w := by
  cases h with
  | @float identity x integral =>
    have htext : Value.asText (.float identity x) = Value.asText (.int x.toInt) :=
      Value.asText_float integral
    exact ⟨htext, by simp only [Value.measure, htext], fun _ => rfl, rfl, integral, rfl⟩
  | @text n short =>
    have htext : Value.asText (.int n) = Value.asText (.text (Decimal.integer n)) :=
      Value.asText_int (Decimal.isTooLong_eq_false short)
    exact ⟨htext, by simp only [Value.measure, htext],
      fun addresses => (Value.isEmailAddress_integer n addresses).symm, (Value.isNumber_integer n).symm,
      (Value.isInteger_integer n).symm, rfl⟩

end SameNumber

namespace Checker
variable {field : Text} {v w : Value} {data : FieldMap Value} {s : Surroundings} {c : Checker}
  {argument : c.Argument}

private theorem check_of_readsAlike (h : v.ReadsAlike w)
    (hc : c ∉ [Checker.required, .same, .oneOf, .between]) :
    c.check field v data s argument = c.check field w data s argument := by
  cases c <;> simp only [check, onText, Trial.isActive, Trial.matchesPattern, h.text, h.size, h.email,
    h.number, h.integer, h.items]
  all_goals simp at hc

private theorem liesBetween_float {identity : Nat} {x : Binary64} (h : x.isIntegral)
    (bounds : Text × Text) :
    Trial.liesBetween bounds (.float identity x) = Trial.liesBetween bounds (.int x.toInt) := by
  have htext : Value.asText (.float identity x) = Value.asText (.int x.toInt) := Value.asText_float h
  simp [htext, Trial.liesBetween, Trial.counted, Value.isNumber, Value.toNumber, Number.less, bind,
    Except.bind, Number.extent_float h]

/-- The same number written otherwise is judged alike by every checker not set apart. -/
private theorem check_sameNumber {apart : List Checker} (h : SameNumber v w apart) (hc : c ∉ apart) :
    c.check field v data s argument = c.check field w data s argument := by
  have halike := h.readsAlike
  cases h with
  | text short => exact check_of_readsAlike halike hc
  | float integral =>
    by_cases hother : c ∈ [Checker.required, .same, .oneOf, .between]
    · simp only [List.mem_cons, List.not_mem_nil, or_false] at hother hc
      rcases hother with rfl | rfl | rfl | rfl
      · simp only [check, Value.isEmpty_float integral]
      · exact absurd rfl hc
      · rfl
      · simp only [check, liesBetween_float integral]
    · exact check_of_readsAlike halike hother

end Checker

private theorem SameNumber.same_mem {v w : Value} {apart : List Checker} (h : SameNumber v w apart) :
    Checker.same ∈ apart := by
  cases h <;> decide

private theorem Rule.contribution_sameNumber {registry : Registry} {data data' : FieldMap Value}
    {s : Surroundings} {field : Text} {r : Rule} {apart : List Checker}
    (h : SameNumber (data.held field) (data'.held field) apart)
    (hr : r.name ∉ apart.map Checker.name) :
    r.contribution registry data' s field = r.contribution registry data s field := by
  cases hf : registry.find? r.name with
  | none => simp only [contribution, hf]
  | some c =>
    obtain ⟨-, hn⟩ := Registry.find?_eq_some_iff.1 hf
    have hc : c ∉ apart := fun hm => hr (hn ▸ List.mem_map_of_mem hm)
    cases hp : c.parse r.argument with
    | error problem => simp only [contribution, hf, hp]
    | ok argument =>
      have hunread (other : Text) : ¬ Rule.ComparesWith ⟨c.name, r.argument⟩ other := by
        rintro ⟨hsame, -⟩
        exact hr (List.mem_map.2 ⟨.same, h.same_mem, hsame.symm.trans hn⟩)
      have hvalue : c.check field (data.held field) data s argument =
          c.check field (data'.held field) data s argument := Checker.check_sameNumber h hc
      have hdata : c.check field (data'.held field) data' s argument =
          c.check field (data'.held field) data s argument :=
        Checker.check_congr hp (fun other ho => absurd ho (hunread other)) field _ s
      have hcheck := hdata.trans hvalue.symm
      simp only [FieldMap.held] at hcheck
      simp only [contribution, hf, hp, hcheck]

/-- A whole number passes the same checks, with the same messages, events and requests, as an integer
and as a floating-point number, whatever the argument, `same` apart. The same goes for an integer and
its digits, `required`, `same`, `in` and `between` apart. So a field without a rule of such a name
gets the same messages for both values, whatever else the data hold. -/
theorem validate_reads_numbers_alike {v w : Value} {apart : List Checker} (h : SameNumber v w apart) :
    (∀ (c : Checker) (argument : c.Argument) field data s, c ∉ apart →
      c.check field v data s argument = c.check field w data s argument) ∧
    ∀ (registry : Registry) (rules data data' : FieldMap Value) (s : Surroundings) (field : Text),
      data.held field = v → data'.held field = w →
      (∀ definition, rules.get? field = some definition →
        ∀ r ∈ Rule.listOf definition, r.name ∉ apart.map Checker.name) →
      (validate registry rules data' s).outcome.map (·.errors.get? field) =
        (validate registry rules data s).outcome.map (·.errors.get? field) := by
  refine ⟨fun c argument field data s hc => Checker.check_sameNumber h hc, ?_⟩
  rintro registry rules data data' s field rfl rfl hapart
  cases ho : (validate registry rules data s).outcome with
  | error e =>
    have ho' : (validate registry rules data' s).outcome = .error e :=
      Run.outcome_eq_error_iff.2 (Run.outcome_eq_error_iff.1 ho)
    rw [ho']
  | ok report =>
    obtain ⟨report', ho'⟩ := exists_report_of_validate (Run.outcome_eq_ok_iff.1 ho).1 data' s
    rw [ho']
    refine congrArg Except.ok ?_
    ext messages
    rw [errors_get?_eq_some_iff ho, errors_get?_eq_some_iff ho']
    refine exists_congr fun definition => and_congr_right fun hd => and_congr_right fun _ => ?_
    rw [List.flatMap_congr fun r hr => Rule.contribution_sameNumber h (hapart definition hd r hr)]

def ageRegistry : Registry := ⟨[.required, .min, .integer], by decide⟩

def ageRules : FieldMap Value :=
  ⟨[("age".toList, .text "integer|min:3".toList)], List.nodup_singleton _⟩

def ageData (v : Value) : FieldMap Value := ⟨[("age".toList, v)], List.nodup_singleton _⟩

def ageReport : Report where
  errors := ⟨[("age".toList, ["This field must be at least 3 characters.".toList])], by decide⟩
  fieldsChecked := 1
  rulesChecked := 2

/-- A negative zero and the digit are whole numbers of one character, as zero is. -/
theorem negativeZero_reads_alike :
    (validate ageRegistry ageRules (ageData (.int 0)) .offline).outcome = .ok ageReport ∧
    (validate ageRegistry ageRules (ageData (.float 0 (.zero true))) .offline).outcome.map
      (·.errors.get? "age".toList) = .ok (ageReport.errors.get? "age".toList) ∧
    (validate ageRegistry ageRules (ageData (.text ['0'])) .offline).outcome.map
      (·.errors.get? "age".toList) = .ok (ageReport.errors.get? "age".toList) := by
  have hintegral : (Binary64.zero true).isIntegral := by
    simp only [Binary64.zero, Binary64.isIntegral, Nat.zero_mod, decide_true]
  have hint : (Binary64.zero true).toInt = 0 := by
    simp only [Binary64.zero, Binary64.toInt, Nat.cast_zero, Int.zero_mul, Int.zero_ediv, Int.neg_zero,
      ite_self]
  have hfloat : SameNumber (.float 0 (.zero true)) (.int (Binary64.zero true).toInt) [.same] :=
    .float hintegral
  rw [hint] at hfloat
  have hdigit : SameNumber (.int 0) (.text ['0']) [.required, .same, .oneOf, .between] :=
    .text (n := 0) (by decide)
  have h : (validate ageRegistry ageRules (ageData (.int 0)) .offline).outcome = .ok ageReport :=
    Run.outcome_eq_ok_iff.2 ⟨rfl, Report.ext_entries (by decide +kernel) rfl (by decide +kernel)⟩
  have hreal := (validate_reads_numbers_alike hfloat).2 ageRegistry ageRules _ _ .offline "age".toList
    (rfl : (ageData _).held _ = _) (rfl : (ageData _).held _ = _)
    (by rintro definition hd; cases hd; decide)
  have htext := (validate_reads_numbers_alike hdigit).2 ageRegistry ageRules _ _ .offline "age".toList
    (rfl : (ageData _).held _ = _) (rfl : (ageData _).held _ = _)
    (by rintro definition hd; cases hd; decide)
  rw [h] at hreal htext
  exact ⟨h, hreal.symm, htext⟩

end FieldRules
