import FieldRules.Proofs.Run.Alone

/-! Definitions put together: with a bar between two texts, a field has the rules of the first and then
those of the second, and a run over it comes to what the runs over the two come to. -/
namespace FieldRules

def Rule.offence? (registry : Registry) (field : Text) (rs : List Rule) : Option ConfigurationError :=
  rs.findSome? fun r => error? (Plan.occurrence registry field r)

/-- The first offence of two lists of rules is the first list's, if it has one. -/
private theorem Rule.offence?_append (registry : Registry) (field : Text) (rs ss : List Rule) :
    offence? registry field (rs ++ ss) = (offence? registry field rs).or (offence? registry field ss) :=
  List.findSome?_append

/-- The rules of two texts in one definition: with a bar between the texts, or as a sequence of what
stands between all bars. -/
def Rule.joined (a b : Text) : List Value :=
  [.text (a ++ '|' :: b), .list (((a ++ '|' :: b).split '|').map .text)]

/-- The spellings of a joined definition all read as the rules of the one and then of the other. -/
private theorem Rule.ofDefinition_of_mem_joined {a b : Text} {d : Value} (h : d ∈ joined a b) :
    ofDefinition d = .ok (listOf (.text a) ++ listOf (.text b)) := by
  rcases List.mem_pair.1 h with rfl | rfl
  · exact ofDefinition_bar a b
  · rw [ofDefinition_pieces, ofDefinition_bar]

section
variable {registry : Registry} {data : FieldMap Value} {s : Surroundings} {field : Text}
  {definition : Value} {rs : List Rule}

private theorem offence_single (h : Rule.ofDefinition definition = .ok rs) :
    (Plan.ofRules registry (.single field definition)).offence = Rule.offence? registry field rs := by
  rw [Plan.ofRules, Plan.ofEntries_offence, FieldMap.single, List.findSome?_singleton,
    Plan.ofField_eq_of_ok h, untilError_offence, Rule.offence?]

/-- A run over one field is refused with the error of its first rule that cannot be applied. -/
theorem refused_single_iff (h : Rule.ofDefinition definition = .ok rs) {e : ConfigurationError} :
    (validate registry (.single field definition) data s).outcome = .error e ↔
      Rule.offence? registry.inUse field rs = some e := by
  rw [validate, Run.outcome_eq_error_iff, offence_single h]

private theorem returns_single_iff (h : Rule.ofDefinition definition = .ok rs) :
    (∃ report, (validate registry (.single field definition) data s).outcome = .ok report) ↔
      Rule.offence? registry.inUse field rs = none := by
  simp only [validate, Run.outcome_eq_ok_iff, offence_single h, exists_and_left, exists_eq',
    and_true]

private theorem rulesChecked_single {report : Report}
    (h : (validate registry (.single field definition) data s).outcome = .ok report) :
    report.rulesChecked = (Rule.listOf definition).length := by
  rw [rulesChecked_of_validate h]
  simp [FieldMap.single]

end

/-- With a bar between them, two texts are read as the rules of the first and then those of the second;
and a text is read as the sequence of what stands between its bars. A run over a field with the rules
of both returns if the runs with those of the one and of the other return, and the messages of the
first come before those of the second. It is refused if one of these runs is, for the reason of the
first of them. -/
theorem joined_definitions_concatenate :
    (∀ a b : Text, ∃ rs ss, Rule.ofDefinition (.text a) = .ok rs ∧
      Rule.ofDefinition (.text b) = .ok ss ∧
      Rule.ofDefinition (.text (a ++ '|' :: b)) = .ok (rs ++ ss)) ∧
    (∀ t : Text, Rule.ofDefinition (.list ((t.split '|').map .text)) = Rule.ofDefinition (.text t)) ∧
    ∀ (registry : Registry) (data : FieldMap Value) (s : Surroundings) (field a b : Text),
      ∀ d ∈ Rule.joined a b,
        let run (definition : Value) := (validate registry (.single field definition) data s).outcome
        (∀ first second, run (.text a) = .ok first → run (.text b) = .ok second →
          ∃ report, run d = .ok report ∧ report.get field = first.get field ++ second.get field ∧
            report.rulesChecked = first.rulesChecked + second.rulesChecked) ∧
        ∀ e, run d = .error e ↔
          run (.text a) = .error e ∨ (∃ first, run (.text a) = .ok first) ∧ run (.text b) = .error e := by
  refine ⟨fun a b => ⟨_, _, rfl, rfl, Rule.ofDefinition_bar a b⟩, Rule.ofDefinition_pieces, ?_⟩
  intro registry data s field a b d hd run
  have hread : ∀ t, Rule.ofDefinition (.text t) = .ok (Rule.listOf (.text t)) := fun _ => rfl
  have hjoined := Rule.ofDefinition_of_mem_joined hd
  have hfirstOf := Rule.offence?_append registry.inUse field (Rule.listOf (.text a))
    (Rule.listOf (.text b))
  constructor
  · intro first second hfirst hsecond
    have hnone : Rule.offence? registry.inUse field
        (Rule.listOf (.text a) ++ Rule.listOf (.text b)) = none := by
      rw [hfirstOf, (returns_single_iff (hread a)).1 ⟨first, hfirst⟩,
        (returns_single_iff (hread b)).1 ⟨second, hsecond⟩]
      rfl
    obtain ⟨report, hreport⟩ : ∃ report, run d = .ok report :=
      (returns_single_iff hjoined).2 hnone
    refine ⟨report, hreport, ?_, ?_⟩
    · rw [get_of_validate hreport, get_of_validate hfirst, get_of_validate hsecond,
        Rule.listOf_eq hjoined, List.flatMap_append]
    · rw [rulesChecked_single hreport, rulesChecked_single hfirst, rulesChecked_single hsecond,
        Rule.listOf_eq hjoined, List.length_append, Int.natCast_add]
  · intro e
    simp only [run, refused_single_iff hjoined, refused_single_iff (hread a),
      refused_single_iff (hread b), returns_single_iff (hread a), hfirstOf, Option.or_eq_some_iff]

def codeData : FieldMap Value := ⟨[("code".toList, .text "ab".toList)], by decide⟩

def codeReport (messages : List Text) (rulesChecked : Int) : Report :=
  ⟨.single "code".toList messages, 1, rulesChecked⟩

private theorem get_codeReport (messages : List Text) (rulesChecked : Int) :
    (codeReport messages rulesChecked).get "code".toList = messages := rfl

/-- Empty tokens on both sides of the bar, a message of each of the two texts, and a rule that says
nothing. -/
theorem codeReport_concatenated :
    let run (definition : Value) :=
      (validate .standard (.single "code".toList definition) codeData .offline).outcome
    let short := Checker.failureMessage .min (3 : Nat)
    let other := Checker.failureMessage .oneOf ["x".toList, "y".toList]
    let first := codeReport [short] 2
    let second := codeReport [other] 1
    run (.text "required|min:3|".toList) = .ok first ∧ run (.text "|in:x,y".toList) = .ok second ∧
    ∀ d ∈ Rule.joined "required|min:3|".toList "|in:x,y".toList,
      ∃ report, run d = .ok report ∧
        report.get "code".toList = [short, other] ∧ report.rulesChecked = 3 := by
  intro run short other first second
  have hfirst : run (.text "required|min:3|".toList) = .ok first :=
    Run.outcome_eq_ok_iff.2 ⟨rfl, Report.ext_entries (by decide +kernel) rfl (by decide +kernel)⟩
  have hsecond : run (.text "|in:x,y".toList) = .ok second :=
    Run.outcome_eq_ok_iff.2 ⟨rfl, Report.ext_entries (by decide +kernel) rfl (by decide +kernel)⟩
  refine ⟨hfirst, hsecond, fun d hd => ?_⟩
  obtain ⟨-, -, hruns⟩ := joined_definitions_concatenate
  obtain ⟨report, hreport, hget, hchecked⟩ :=
    (hruns .standard codeData .offline "code".toList _ _ d hd).1 first second hfirst hsecond
  rw [get_codeReport, get_codeReport] at hget
  exact ⟨report, hreport, hget, hchecked⟩

end FieldRules
