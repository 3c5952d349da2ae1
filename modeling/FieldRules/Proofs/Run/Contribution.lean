import FieldRules.Proofs.FieldMap
import FieldRules.Proofs.Run.Planned
import Mathlib.Algebra.GroupWithZero.Nat

/-! What a report holds: for each field the messages of its rules, each rule judged by itself. The
loop adds messages to the entries of a map; its invariant is that the entries so far are those of
the fields behind it, without the fields that have none. -/
namespace FieldRules

namespace Rule

/-- What a rule says of the value of a field: the messages of its check, or the message of its
checker if the check breaks off. -/
def contribution (registry : Registry) (data : FieldMap Value) (s : Surroundings) (field : Text)
    (r : Rule) : List Text :=
  match registry.find? r.name with
  | none => []
  | some checker =>
    match checker.parse r.argument with
    | .error _ => []
    | .ok argument =>
      match (checker.check field ((data.get? field).getD .null) data s argument).verdict with
      | .returned messages => messages
      | .broken _ => [checker.failureMessage argument]

/-- A rule contributes alike on its own and as it was planned. -/
private theorem contribution_eq {registry : Registry} {data : FieldMap Value} {s : Surroundings}
    {field : Text} {r : Rule} {o : Occurrence} (h : Plan.occurrence registry field r = .ok o) :
    r.contribution registry data s field =
      Attempt.contribution ⟨o, o.trial data s⟩ := by
  obtain ⟨checker, argument, hf, hp, rfl⟩ := Plan.occurrence_eq_ok_iff.1 h
  cases hv : (checker.check field ((data.get? field).getD .null) data s argument).verdict <;>
    simp only [contribution, hf, hp, Attempt.contribution, Occurrence.trial, Occurrence.message, hv]

end Rule

namespace Progress

private theorem gather_nil (m : FieldMap (List Text)) (field : Text) : gather m field [] = m := rfl

/-- Messages gathered in two steps are gathered in one. -/
theorem gather_gather (m : FieldMap (List Text)) (field : Text) (first second : List Text) :
    gather (gather m field first) field second = gather m field (first ++ second) := by
  rcases first with _ | ⟨a, first⟩
  · rfl
  rcases second with _ | ⟨b, second⟩
  · simp [gather_nil]
  apply FieldMap.ext_entries
  simp [gather, FieldMap.alter, alterEntries_alterEntries]

private theorem entries_gather {m : FieldMap (List Text)} {field : Text} (messages : List Text)
    (h : field ∉ m.names) :
    (gather m field messages).entries =
      m.entries ++ [(field, messages)].filter (!·.2.isEmpty) := by
  rcases messages with _ | ⟨a, messages⟩
  · simp [gather]
  · simp [gather, FieldMap.alter, alterEntries_of_notMem h]

private theorem foldl_absorb {field : Text} {attempts : List Attempt}
    (h : ∀ a ∈ attempts, a.occurrence.field = field) (p : Progress) :
    (attempts.foldl absorb p).errors = gather p.errors field (attempts.flatMap Attempt.contribution) ∧
      (attempts.foldl absorb p).rulesChecked = p.rulesChecked + attempts.length := by
  induction attempts generalizing p with
  | nil => exact ⟨(gather_nil _ _).symm, rfl⟩
  | cons a rest ih =>
    obtain ⟨he, hc⟩ := ih (fun b hb => h b (List.mem_cons_of_mem _ hb)) (p.absorb a)
    have ha : a.occurrence.field = field := h a List.mem_cons_self
    constructor
    · rw [List.foldl_cons, he, absorb, record, ha, gather_gather, List.flatMap_cons]
    · have hr : (p.absorb a).rulesChecked = p.rulesChecked + 1 := rfl
      rw [List.foldl_cons, hc, hr, List.length_cons]
      omega

end Progress

def FieldPlan.messages (trial : Nat → Occurrence → Trial) (place : Nat) (f : FieldPlan) : List Text :=
  (Attempt.inTurn trial place f.occurrences).flatMap Attempt.contribution

private theorem FieldPlan.messages_steady (trial : Occurrence → Trial) (place : Nat) (f : FieldPlan) :
    f.messages (fun _ => trial) place =
      f.occurrences.flatMap fun o => Attempt.contribution ⟨o, trial o⟩ := by
  rw [messages, Attempt.inTurn_steady, List.flatMap_map]

def Plan.messages (trial : Nat → Occurrence → Trial) (place : Nat) (fields : List FieldPlan) :
    List (Text × List Text) :=
  (placed place fields).map fun x => (x.2.field, x.2.messages trial x.1)

private theorem Plan.messages_steady (trial : Occurrence → Trial) (place : Nat)
    (fields : List FieldPlan) :
    messages (fun _ => trial) place fields = fields.map fun f =>
      (f.field, f.occurrences.flatMap fun o => Attempt.contribution ⟨o, trial o⟩) := by
  simp only [messages, FieldPlan.messages_steady]
  conv_rhs => rw [← map_snd_placed place fields, List.map_map]
  rfl

def FieldPlan.Coherent (f : FieldPlan) : Prop := ∀ o ∈ f.occurrences, o.field = f.field

namespace Progress

/-- One field adds its messages under its name and its rules to the count. -/
private theorem carryOut_errors (trial : Nat → Occurrence → Trial) {f : FieldPlan} (h : f.Coherent)
    (p : Progress) :
    (carryOut trial p f).errors = gather p.errors f.field (f.messages trial p.rulesChecked) ∧
      (carryOut trial p f).rulesChecked = p.rulesChecked + f.occurrences.length := by
  have hf : ∀ a ∈ Attempt.inTurn trial p.rulesChecked f.occurrences, a.occurrence.field = f.field :=
    fun a ha => h _ (Attempt.occurrence_mem_of_mem_inTurn ha)
  obtain ⟨he, hc⟩ := foldl_absorb hf (p.tell (.rulesParsed f.definition (f.rules.map Rule.text)))
  exact ⟨he, by rw [carryOut, hc, Attempt.length_inTurn, tell]⟩

/-- The loop over the fields: the entries so far, and then one for each field with messages. -/
theorem foldl_carryOut (trial : Nat → Occurrence → Trial) {fields : List FieldPlan}
    (h : ∀ f ∈ fields, f.Coherent) (hd : (fields.map (·.field)).Nodup) (p : Progress)
    (hp : ∀ f ∈ fields, f.field ∉ p.errors.names) :
    (fields.foldl (carryOut trial) p).errors.entries =
        p.errors.entries ++
          (Plan.messages trial p.rulesChecked fields).filter (!·.2.isEmpty) ∧
      (fields.foldl (carryOut trial) p).rulesChecked =
        p.rulesChecked + (fields.map (·.occurrences.length)).sum := by
  induction fields generalizing p with
  | nil => simp [Plan.messages, Plan.placed]
  | cons f rest ih =>
    obtain ⟨he, hc⟩ := carryOut_errors trial (h f List.mem_cons_self) p
    have hentries : (carryOut trial p f).errors.entries = p.errors.entries ++
        [(f.field, f.messages trial p.rulesChecked)].filter (!·.2.isEmpty) := by
      rw [he, entries_gather _ (hp f List.mem_cons_self)]
    simp only [List.map_cons, List.nodup_cons] at hd
    have hfresh : ∀ g ∈ rest, g.field ∉ (carryOut trial p f).errors.names := by
      intro g hg hmem
      rw [FieldMap.names, hentries, List.map_append, List.mem_append] at hmem
      rcases hmem with hmem | hmem
      · exact hp g (List.mem_cons_of_mem _ hg) hmem
      · have hsame : g.field = f.field := by
          obtain ⟨e, hm, he'⟩ := List.mem_map.1 hmem
          rw [← he', List.mem_singleton.1 (List.mem_filter.1 hm).1]
        exact hd.1 (hsame ▸ List.mem_map.2 ⟨g, hg, rfl⟩)
    obtain ⟨ihe, ihc⟩ := ih (fun g hg => h g (List.mem_cons_of_mem _ hg)) hd.2 _ hfresh
    constructor
    · rw [List.foldl_cons, ihe, hentries, hc, List.append_assoc, ← List.filter_append]
      rfl
    · rw [List.foldl_cons, ihc, hc, List.map_cons, List.sum_cons]
      omega

end Progress

namespace Plan.Covers
variable {registry : Registry} {data : FieldMap Value} {s : Surroundings} {x : Text × Value}
  {f : FieldPlan}

private theorem coherent (h : Covers registry x f) : f.Coherent := by
  intro o ho
  obtain ⟨r, -, hr⟩ := exists_of_mem_forall h.occurrences ho
  obtain ⟨_, _, -, -, rfl⟩ := occurrence_eq_ok_iff.1 hr
  exact h.field.symm

private theorem length_occurrences (h : Covers registry x f) :
    (Rule.listOf x.2).length = f.occurrences.length := by
  rw [Rule.listOf_eq h.rules, h.occurrences.length_eq]

private theorem messages (h : Covers registry x f) :
    (Rule.listOf x.2).flatMap (Rule.contribution registry data s x.1) =
      f.occurrences.flatMap fun o => Attempt.contribution ⟨o, o.trial data s⟩ := by
  have hmap := map_eq_map_of_forall h.occurrences
    (g := Rule.contribution registry data s x.1)
    (h := fun o => Attempt.contribution ⟨o, o.trial data s⟩) fun r o => Rule.contribution_eq
  rw [Rule.listOf_eq h.rules, List.flatMap_def, List.flatMap_def, hmap]

end Plan.Covers

private theorem sum_length_filter (entries : List (Text × List Text)) :
    ((entries.filter (!·.2.isEmpty)).map (·.2.length)).sum = (entries.map (·.2.length)).sum := by
  induction entries with
  | nil => rfl
  | cons e rest ih => rcases h : e.2 with _ | ⟨a, messages⟩ <;> simp [h, ih]

/-- What a run that returns has done: its messages are gathered field by field. -/
theorem Run.done_entries {registry : Registry} {rules : FieldMap Value}
    {trial : Nat → Occurrence → Trial} (h : (Plan.ofRules registry rules).offence = none) :
    (Run.done registry trial rules).errors.entries =
        (Plan.messages trial 0 (Plan.ofRules registry rules).fields).filter (!·.2.isEmpty) ∧
      (Run.done registry trial rules).rulesChecked =
        (rules.entries.map fun x => (Rule.listOf x.2).length).sum := by
  have hc := Plan.forall_covers h
  have hnames := map_eq_map_of_forall hc (g := (·.1)) (h := (·.field)) fun _ _ hx => hx.field.symm
  have hcoherent : ∀ f ∈ (Plan.ofRules registry rules).fields, f.Coherent := by
    intro f hf
    obtain ⟨x, -, hx⟩ := exists_of_mem_forall hc hf
    exact hx.coherent
  obtain ⟨he, hn⟩ := Progress.foldl_carryOut trial hcoherent
    (hnames ▸ rules.distinct) .start fun _ _ => by simp [Progress.start, FieldMap.empty, FieldMap.names]
  have hcounts := map_eq_map_of_forall hc (g := fun x => (Rule.listOf x.2).length)
    (h := (·.occurrences.length)) fun _ _ hx => hx.length_occurrences
  constructor
  · rw [Run.done, he]
    rfl
  · rw [Run.done, hn, hcounts]
    exact Nat.zero_add _

/-- Where the surroundings stay as they are, each rule is judged by itself. -/
theorem Plan.messages_eq {registry : Registry} {rules data : FieldMap Value} {s : Surroundings}
    (h : (ofRules registry rules).offence = none) :
    messages (fun _ => Occurrence.trial data s) 0 (ofRules registry rules).fields =
      rules.entries.map fun x =>
        (x.1, (Rule.listOf x.2).flatMap (Rule.contribution registry data s x.1)) := by
  rw [messages_steady]
  exact (map_eq_map_of_forall (forall_covers h) fun x f hx => by rw [hx.messages, hx.field]).symm

private theorem Report.entries_build (errors : FieldMap (List Text)) (fieldsChecked rulesChecked : Int) :
    (Report.build errors fieldsChecked rulesChecked).errors.entries =
      errors.entries.filter (!·.2.isEmpty) := rfl

theorem Report.ext_entries {r r' : Report} (he : r.errors.entries = r'.errors.entries)
    (hf : r.fieldsChecked = r'.fieldsChecked) (hr : r.rulesChecked = r'.rulesChecked) : r = r' := by
  cases r
  cases r'
  simp only [Report.mk.injEq]
  exact ⟨FieldMap.ext_entries he, hf, hr⟩

private theorem Report.count_eq_sum (r : Report) :
    r.count = (r.errors.entries.map (·.2.length)).sum := rfl

/-- The entries of a report, field by field. -/
theorem Run.entries_of_ok {registry : Registry} {rules : FieldMap Value}
    {trial : Nat → Occurrence → Trial} {report : Report}
    (h : (ofRules registry trial rules).outcome = .ok report) :
    report.errors.entries =
      (Plan.messages trial 0 (Plan.ofRules registry rules).fields).filter (!·.2.isEmpty) := by
  obtain ⟨hno, rfl⟩ := outcome_eq_ok_iff.1 h
  rw [Report.entries_build, (done_entries hno).1, List.filter_filter]
  simp only [Bool.and_self]

/-- The same for surroundings that stay as they are, in the order of the rule set. -/
theorem entries_of_validate {registry : Registry} {rules data : FieldMap Value} {s : Surroundings}
    {report : Report} (h : (validate registry rules data s).outcome = .ok report) :
    report.errors.entries =
      (rules.entries.map fun x => (x.1, (Rule.listOf x.2).flatMap
        (Rule.contribution registry.inUse data s x.1))).filter (!·.2.isEmpty) := by
  rw [Run.entries_of_ok h, Plan.messages_eq (Run.outcome_eq_ok_iff.1 h).1]

/-- In a run that returns each definition can be read and each of its rules applied. -/
theorem applicable_of_validate {registry : Registry} {rules data : FieldMap Value} {s : Surroundings}
    {report : Report} (h : (validate registry rules data s).outcome = .ok report) :
    ∀ x ∈ rules.entries, ∃ rs, Rule.ofDefinition x.2 = .ok rs ∧
      ∀ r ∈ rs, r.Applicable registry.inUse := by
  intro x hx
  obtain ⟨hno, -⟩ := Run.outcome_eq_ok_iff.1 h
  rw [Plan.ofRules, Plan.ofEntries_offence, List.findSome?_eq_none_iff] at hno
  obtain ⟨rs, hr, ho⟩ := Plan.ofField_offence_eq_none_iff.1 (hno x hx)
  exact ⟨rs, hr, fun r hm => Plan.exists_occurrence_iff.1 (ho r hm)⟩

theorem rulesChecked_of_validate {registry : Registry} {rules data : FieldMap Value} {s : Surroundings}
    {report : Report} (h : (validate registry rules data s).outcome = .ok report) :
    report.rulesChecked = (rules.entries.map fun x => (Rule.listOf x.2).length).sum := by
  obtain ⟨hno, rfl⟩ := Run.outcome_eq_ok_iff.1 h
  rw [Report.build, (Run.done_entries hno).2]

/-- The errors are counted over all fields, also those that report none. -/
theorem count_of_validate {registry : Registry} {rules data : FieldMap Value} {s : Surroundings}
    {report : Report} (h : (validate registry rules data s).outcome = .ok report) :
    report.count = (rules.entries.map fun x => ((Rule.listOf x.2).map fun r =>
      (r.contribution registry.inUse data s x.1).length).sum).sum := by
  rw [Report.count_eq_sum, entries_of_validate h, sum_length_filter, List.map_map]
  simp [Function.comp_def, List.length_flatMap]

/-- A report holds, field by field in the order of the rule set, what the rules of the field
contribute in their order, without the fields whose rules contribute nothing. Its counts are those
of the rule set, and it passes if no rule contributes anything. -/
theorem validate_report_contributions {registry : Registry} {rules data : FieldMap Value}
    {s : Surroundings} {report : Report}
    (h : (validate registry rules data s).outcome = .ok report) :
    let own := Rule.contribution registry.inUse data s
    (∀ x ∈ rules.entries, ∃ rs, Rule.ofDefinition x.2 = .ok rs ∧
      ∀ r ∈ rs, r.Applicable registry.inUse) ∧
    report.errors.entries =
      (rules.entries.map fun x => (x.1, (Rule.listOf x.2).flatMap (own x.1))).filter
        (!·.2.isEmpty) ∧
    report.fieldsChecked = rules.size ∧
    report.rulesChecked = (rules.entries.map fun x => (Rule.listOf x.2).length).sum ∧
    report.count =
      (rules.entries.map fun x => ((Rule.listOf x.2).map fun r => (own x.1 r).length).sum).sum ∧
    (report.passed ↔ ∀ x ∈ rules.entries, ∀ r ∈ Rule.listOf x.2, own x.1 r = []) := by
  intro own
  have hentries := entries_of_validate h
  have hfields : report.fieldsChecked = rules.size := by
    obtain ⟨-, rfl⟩ := Run.outcome_eq_ok_iff.1 h
    rfl
  refine ⟨applicable_of_validate h, hentries, hfields, rulesChecked_of_validate h,
    count_of_validate h, ?_⟩
  rw [Report.passed, hentries, List.isEmpty_iff, List.filter_eq_nil_iff, List.forall_mem_map]
  simp [List.flatMap_eq_nil_iff, own]

/-- Nothing answers, and no text is an address. -/
def Surroundings.offline : Surroundings where
  settings := .ok ⟨.finite false (5 * Nat.pow 2 50) (-50) (by decide), "rulecheck/0.1.0".toList, false,
    "info".toList⟩
  respond _ := .unreachable []
  addresses := .never

def faultyRegistry : Registry :=
  ⟨[.required, .nullable, .min, .faulty "explode".toList "boom".toList], by decide⟩

def faultyRules : FieldMap Value :=
  ⟨[("name".toList, .text "required|explode|min:3|min:3".toList),
    ("nick".toList, .list [.text "nullable".toList])], by decide⟩

def faultyReport : Report where
  errors := ⟨[("name".toList, ["This field is required.".toList,
    "This field failed the explode rule.".toList,
    "This field must be at least 3 characters.".toList,
    "This field must be at least 3 characters.".toList])], by decide⟩
  fieldsChecked := 2
  rulesChecked := 5

/-- A checker that breaks off and a rule given twice: four messages for one field of two. -/
theorem faultyReport_contributions :
    (validate faultyRegistry faultyRules .empty .offline).outcome = .ok faultyReport ∧
    faultyReport.rulesChecked =
      (faultyRules.entries.map fun x => (Rule.listOf x.2).length).sum ∧
    faultyReport.count = (faultyRules.entries.map fun x => ((Rule.listOf x.2).map fun r =>
      (r.contribution faultyRegistry.inUse .empty .offline x.1).length).sum).sum := by
  have h : (validate faultyRegistry faultyRules .empty .offline).outcome = .ok faultyReport :=
    Run.outcome_eq_ok_iff.2 ⟨rfl, Report.ext_entries (by decide +kernel) rfl (by decide +kernel)⟩
  obtain ⟨-, -, -, hrules, hcount, -⟩ := validate_report_contributions h
  exact ⟨h, hrules, hcount⟩
end FieldRules
