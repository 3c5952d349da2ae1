import FieldRules.Proofs.Run.Contribution
import Mathlib.Logic.Relation

/-! The messages of a field depend on its own definition, its own value and the values that its
`same` rules ask for. Inputs that look alike to a field are those that agree on these. -/
namespace FieldRules

def FieldMap.held (data : FieldMap Value) (name : Text) : Value := (data.get? name).getD .null

/-- A `same` rule that names the other field, with blanks around the name. -/
def Rule.ComparesWith (r : Rule) (other : Text) : Prop :=
  r.name = Checker.name .same ∧ ∃ argument, r.argument = some argument ∧ argument.trim = other

def Consults (rules : FieldMap Value) (field other : Text) : Prop :=
  ∃ definition, rules.get? field = some definition ∧
    ∃ r ∈ Rule.listOf definition, r.ComparesWith other

structure Input where
  rules : FieldMap Value
  data : FieldMap Value

structure LookAlike (field : Text) (i i' : Input) : Prop where
  definition : i'.rules.get? field = i.rules.get? field
  value : i'.data.held field = i.data.held field
  consulted : ∀ other, Consults i.rules field other → i'.data.held other = i.data.held other

namespace LookAlike
variable {field : Text} {i i' i'' : Input}

private theorem consults_iff (h : LookAlike field i i') (other : Text) :
    Consults i'.rules field other ↔ Consults i.rules field other := by
  rw [Consults, Consults, h.definition]

private theorem refl (field : Text) (i : Input) : LookAlike field i i := ⟨rfl, rfl, fun _ _ => rfl⟩

private theorem trans (h : LookAlike field i i') (h' : LookAlike field i' i'') :
    LookAlike field i i'' where
  definition := h'.definition.trans h.definition
  value := h'.value.trans h.value
  consulted other hc :=
    (h'.consulted other ((h.consults_iff other).2 hc)).trans (h.consulted other hc)

end LookAlike

/-- A single change elsewhere: to the definition of another field, to the order of the fields, to
data that the field does not consult, or nothing put in the place of an absent value. -/
inductive ChangeElsewhere (field : Text) : Input → Input → Prop where
  | define {rules data : FieldMap Value} {name : Text} (definition : Value) (other : field ≠ name) :
      ChangeElsewhere field ⟨rules, data⟩ ⟨rules.put name definition, data⟩
  | remove {rules data : FieldMap Value} {name : Text} (other : field ≠ name) :
      ChangeElsewhere field ⟨rules, data⟩ ⟨rules.erase name, data⟩
  | reorder {rules rules' data : FieldMap Value} (order : rules'.entries.Perm rules.entries) :
      ChangeElsewhere field ⟨rules, data⟩ ⟨rules', data⟩
  | submit {rules data : FieldMap Value} {name : Text} (value : Value) (other : field ≠ name)
      (unread : ¬ Consults rules field name) :
      ChangeElsewhere field ⟨rules, data⟩ ⟨rules, data.put name value⟩
  | withdraw {rules data : FieldMap Value} {name : Text} (other : field ≠ name)
      (unread : ¬ Consults rules field name) :
      ChangeElsewhere field ⟨rules, data⟩ ⟨rules, data.erase name⟩
  | submitNothing {rules data : FieldMap Value} {name : Text} (absent : data.get? name = none) :
      ChangeElsewhere field ⟨rules, data⟩ ⟨rules, data.put name .null⟩

namespace FieldMap
variable {data : FieldMap Value}

private theorem held_put_of_ne {name n : Text} (h : n ≠ name) (v : Value) :
    (data.put name v).held n = data.held n := by
  rw [held, held, get?_put_of_ne h]

private theorem held_erase_of_ne {name n : Text} (h : n ≠ name) :
    (data.erase name).held n = data.held n := by
  rw [held, held, get?_erase_of_ne h]

private theorem held_put_null {name : Text} (h : data.get? name = none) (n : Text) :
    (data.put name .null).held n = data.held n := by
  by_cases hn : n = name
  · subst hn
    simp [held, h]
  · exact held_put_of_ne hn .null

end FieldMap

private theorem ChangeElsewhere.lookAlike {field : Text} {i i' : Input}
    (h : ChangeElsewhere field i i') :
    LookAlike field i i' := by
  cases h with
  | define definition hn => exact ⟨FieldMap.get?_put_of_ne hn definition, rfl, fun _ _ => rfl⟩
  | remove hn => exact ⟨FieldMap.get?_erase_of_ne hn, rfl, fun _ _ => rfl⟩
  | reorder ho => exact ⟨FieldMap.get?_eq_of_perm ho field, rfl, fun _ _ => rfl⟩
  | submit value hn hu =>
    refine ⟨rfl, FieldMap.held_put_of_ne hn value, fun other hc => FieldMap.held_put_of_ne ?_ value⟩
    rintro rfl
    exact hu hc
  | withdraw hn hu =>
    refine ⟨rfl, FieldMap.held_erase_of_ne hn, fun other hc => FieldMap.held_erase_of_ne ?_⟩
    rintro rfl
    exact hu hc
  | submitNothing ha =>
    exact ⟨rfl, FieldMap.held_put_null ha field, fun other _ => FieldMap.held_put_null ha other⟩

/-- Changes elsewhere add up to an input that looks alike to the field. -/
private theorem lookAlike_of_changes {field : Text} {i i' : Input}
    (h : Relation.ReflTransGen (ChangeElsewhere field) i i') : LookAlike field i i' := by
  induction h with
  | refl => exact LookAlike.refl field i
  | tail _ hc ih => exact ih.trans hc.lookAlike

/-- Of the data a checker reads the field that a `same` rule names, and nothing else. -/
theorem Checker.check_congr {c : Checker} {argument : c.Argument} {raw : Option Text}
    {data data' : FieldMap Value} (hp : c.parse raw = .ok argument)
    (h : ∀ other, Rule.ComparesWith ⟨c.name, raw⟩ other → data'.held other = data.held other)
    (field : Text) (v : Value) (s : Surroundings) :
    c.check field v data' s argument = c.check field v data s argument := by
  cases c with
  | same =>
    have hc : Rule.ComparesWith ⟨Checker.name .same, raw⟩ argument := by
      rcases raw with _ | _ | ⟨a, t⟩
      · cases hp
      · cases hp
      · cases hp
        exact ⟨rfl, a :: t, rfl, rfl⟩
    simp only [check, Trial.matchesField]
    rw [show (data'.get? argument).getD .null = (data.get? argument).getD .null from h _ hc]
  | _ => rfl

/-- A rule looks at its own field and at the one it names. -/
private theorem Rule.contribution_congr {registry : Registry} {data data' : FieldMap Value}
    {field : Text}
    {r : Rule} (hv : data'.held field = data.held field)
    (h : ∀ other, r.ComparesWith other → data'.held other = data.held other) (s : Surroundings) :
    r.contribution registry data' s field = r.contribution registry data s field := by
  cases hf : registry.find? r.name with
  | none => simp only [contribution, hf]
  | some c =>
    obtain ⟨-, hn⟩ := Registry.find?_eq_some_iff.1 hf
    cases hp : c.parse r.argument with
    | error problem => simp only [contribution, hf, hp]
    | ok argument =>
      have hcheck := Checker.check_congr hp (by rw [hn]; exact h) field (data.held field) s
      simp only [FieldMap.held] at hv hcheck
      simp only [contribution, hf, hp, hv, hcheck]

/-- The messages of a field are those of its definition, if there are any. -/
theorem errors_get?_eq_some_iff {registry : Registry} {rules data : FieldMap Value} {s : Surroundings}
    {report : Report} (h : (validate registry rules data s).outcome = .ok report) (field : Text)
    (messages : List Text) :
    report.errors.get? field = some messages ↔
      ∃ definition, rules.get? field = some definition ∧ messages ≠ [] ∧
        (Rule.listOf definition).flatMap (Rule.contribution registry.inUse data s field) = messages := by
  rw [FieldMap.get?_eq_some_iff, entries_of_validate h, List.mem_filter, List.mem_map]
  constructor
  · rintro ⟨⟨⟨name, definition⟩, hm, he⟩, hne⟩
    obtain ⟨rfl, rfl⟩ := Prod.mk.inj he
    exact ⟨definition, FieldMap.get?_eq_some_iff.2 hm, by simpa using hne, rfl⟩
  · rintro ⟨definition, hd, hne, rfl⟩
    exact ⟨⟨_, FieldMap.get?_eq_some_iff.1 hd, rfl⟩, by simpa using hne⟩

/-- Reports on inputs that look alike to a field hold the same messages for it. Changes elsewhere,
however many, keep inputs alike. -/
theorem validate_field_independent (registry : Registry) (s : Surroundings) (field : Text) :
    (∀ i i' report report', LookAlike field i i' →
      (validate registry i.rules i.data s).outcome = .ok report →
      (validate registry i'.rules i'.data s).outcome = .ok report' →
      report'.errors.get? field = report.errors.get? field) ∧
    ∀ i i', Relation.ReflTransGen (ChangeElsewhere field) i i' → LookAlike field i i' := by
  refine ⟨?_, fun i i' => lookAlike_of_changes⟩
  intro i i' report report' alike h h'
  ext messages
  rw [errors_get?_eq_some_iff h, errors_get?_eq_some_iff h', alike.definition]
  refine exists_congr fun definition => and_congr_right fun hd => and_congr_right fun _ => ?_
  have hsame : ∀ r ∈ Rule.listOf definition,
      Rule.contribution registry.inUse i'.data s field r =
        Rule.contribution registry.inUse i.data s field r := by
    intro r hr
    exact Rule.contribution_congr alike.value
      (fun other hc => alike.consulted other ⟨definition, hd, r, hr, hc⟩) s
  rw [List.flatMap_congr hsame]

def signUpRegistry : Registry := ⟨[.required, .same], by decide⟩

def signUp : Input where
  rules := ⟨[("name".toList, .text "required".toList),
    ("secret".toList, .text "required|same: again ".toList)], by decide⟩
  data := ⟨[("again".toList, .text "OAK".toList), ("secret".toList, .text "ELM".toList)], by decide⟩

/-- The same fields the other way round, and a name that is nothing. -/
def signUpTurned : Input where
  rules := ⟨signUp.rules.entries.reverse, by decide⟩
  data := signUp.data.put "name".toList .null

/-- Two changes that leave the messages of a field with a `same` rule as they are. -/
theorem signUp_secret_independent : ∃ report report',
    (validate signUpRegistry signUp.rules signUp.data .offline).outcome = .ok report ∧
    (validate signUpRegistry signUpTurned.rules signUpTurned.data .offline).outcome = .ok report' ∧
    report.errors.get? "secret".toList = some ["This field must match the again field.".toList] ∧
    report'.errors.get? "secret".toList = report.errors.get? "secret".toList := by
  obtain ⟨hreports, hchanges⟩ := validate_field_independent signUpRegistry .offline "secret".toList
  have hturn : ChangeElsewhere "secret".toList signUp ⟨signUpTurned.rules, signUp.data⟩ :=
    .reorder (List.reverse_perm _)
  have hput : ChangeElsewhere "secret".toList ⟨signUpTurned.rules, signUp.data⟩ signUpTurned :=
    .submitNothing (by decide)
  have alike := hchanges _ _ ((Relation.ReflTransGen.single hturn).tail hput)
  have hsound : (Plan.ofRules signUpRegistry.inUse signUp.rules).offence = none := rfl
  have hturned : (Plan.ofRules signUpRegistry.inUse signUpTurned.rules).offence = none := rfl
  obtain ⟨report, h⟩ := exists_report_of_validate hsound signUp.data .offline
  obtain ⟨report', h'⟩ := exists_report_of_validate hturned signUpTurned.data .offline
  refine ⟨report, report', h, h', ?_, hreports signUp signUpTurned _ _ alike h h'⟩
  rw [errors_get?_eq_some_iff h]
  refine ⟨.text "required|same: again ".toList, rfl, by decide, ?_⟩
  have hrules : Rule.listOf (.text "required|same: again ".toList) =
    [⟨"required".toList, none⟩, ⟨"same".toList, some " again ".toList⟩] := rfl
  rw [hrules]
  rfl
end FieldRules
