import FieldRules.Proofs.Rule
import FieldRules.Proofs.Run.Voice
import FieldRules.Proofs.Trial

/-! Runs over a single field: they return if the rules of the field can be applied, and the field gets
the messages of its rules. -/
namespace FieldRules

/-- No name of a built-in checker is in the way of reading its rules. -/
theorem Checker.wellFormed_rule {c : Checker} (h : c ∈ builtIn) (argument : Text) :
    Rule.WellFormed ⟨c.name, some argument⟩ := by
  have hnames : ∀ c ∈ builtIn, c.name.trim = c.name ∧ ':' ∉ c.name := by decide
  obtain ⟨htrimmed, hcolon⟩ := hnames c h
  exact ⟨htrimmed, hcolon, .inr (by simp)⟩

structure Rule.Stands (registry : Registry) (r : Rule) : Prop where
  wellFormed : r.WellFormed
  noBar : '|' ∉ r.text
  applicable : r.Applicable registry

def FieldMap.single {α : Type} (name : Text) (a : α) : FieldMap α :=
  ⟨[(name, a)], List.nodup_singleton _⟩

/-- The run over the one field with this definition returns, and these are the messages of the field. -/
def Says (registry : Registry) (data : FieldMap Value) (s : Surroundings) (field : Text)
    (definition : Value) (messages : List Text) : Prop :=
  ∃ report, (validate registry (.single field definition) data s).outcome = .ok report ∧
    report.get field = messages

section
variable {registry : Registry} {data : FieldMap Value} {s : Surroundings} {field : Text}
  {definition : Value} {rs : List Rule} {r : Rule}

/-- The messages of a field in a report, whether it has any or not. -/
theorem get_of_validate {report : Report}
    (h : (validate registry (.single field definition) data s).outcome = .ok report) :
    report.get field =
      (Rule.listOf definition).flatMap (Rule.contribution registry.inUse data s field) := by
  have hdefinition : (FieldMap.single field definition).get? field = some definition := by
    simp [FieldMap.get?, FieldMap.single]
  have hiff := errors_get?_eq_some_iff h field
  simp only [hdefinition, Option.some.injEq, exists_eq_left'] at hiff
  cases hm : report.errors.get? field with
  | some messages =>
    rw [Report.get, hm, ((hiff messages).1 hm).2]
    rfl
  | none =>
    rw [Report.get, hm]
    by_contra hne
    have hsome := (hiff _).2 ⟨Ne.symm hne, rfl⟩
    rw [hm] at hsome
    cases hsome

private theorem says_iff (hd : Rule.ofDefinition definition = .ok rs)
    (ha : ∀ r ∈ rs, r.Applicable registry.inUse) {messages : List Text} :
    Says registry data s field definition messages ↔
      rs.flatMap (Rule.contribution registry.inUse data s field) = messages := by
  have hno : (Plan.ofRules registry.inUse (.single field definition)).offence = none := by
    have hsound : Sound registry.inUse (field, definition) := ⟨rs, hd, ha⟩
    rw [Plan.ofRules, Plan.ofEntries_offence, List.findSome?_eq_none_iff]
    exact List.forall_mem_singleton.2 (sound_iff.1 hsound)
  obtain ⟨report, hreport⟩ := exists_report_of_validate hno data s
  have hget := get_of_validate hreport
  rw [Rule.listOf_eq hd] at hget
  constructor
  · rintro ⟨report', hreport', hmessages⟩
    cases hreport.symm.trans hreport'
    rw [← hget, hmessages]
  · intro h
    exact ⟨report, hreport, hget.trans h⟩

/-- What a run says of one field is what its rules contribute, in their order. -/
theorem says_lineOf_iff (h : ∀ r ∈ rs, r.Stands registry.inUse) {messages : List Text} :
    Says registry data s field (Rule.lineOf rs) messages ↔
      rs.flatMap (Rule.contribution registry.inUse data s field) = messages := by
  have hread := Rule.ofDefinition_lineOf (fun r hr => (h r hr).wellFormed) fun r hr => (h r hr).noBar
  exact says_iff hread fun r hr => (h r hr).applicable

theorem says_text_iff (h : r.Stands registry.inUse) {messages : List Text} :
    Says registry data s field (.text r.text) messages ↔
      r.contribution registry.inUse data s field = messages := by
  have hline : Rule.lineOf [r] = .text r.text := by
    rw [Rule.lineOf, List.map_singleton, Text.join, List.intercalate_singleton]
  rw [← hline, says_lineOf_iff (List.forall_mem_singleton.2 h), List.flatMap_singleton]

/-- A checker that judges a value with no more ado says its message unless the value fits. -/
theorem Rule.contribution_of_silent {c : Checker} {argument : c.Argument} {result : Except Fault Bool}
    (hc : c ∈ registry.checkers) (hn : c.name = r.name) (hp : c.parse r.argument = .ok argument)
    (hs : c.check field (data.held field) data s argument =
      .silent (c.writeMessage argument) result) :
    r.contribution registry data s field =
      if result = .ok true then [] else [c.failureMessage argument] := by
  rw [contribution_of_check hc hn hp, hs, Checker.writeMessage_of_parse hp]
  simp only [Trial.silent, Verdict.ofResult_eq_nil_iff]

/-- The same of a sequence whose only token names such a checker; its argument may hold bars. -/
theorem says_token_iff {c : Checker} {t : Text} {argument : c.Argument} {result : Except Fault Bool}
    (hb : c ∈ Checker.builtIn) (hr : c ∈ registry.inUse.checkers)
    (hp : c.parse (some t) = .ok argument)
    (hs : c.check field (data.held field) data s argument = .silent (c.writeMessage argument) result)
    {messages : List Text} :
    Says registry data s field (.list [.text (c.name ++ ':' :: t)]) messages ↔
      (if result = .ok true then [] else [c.failureMessage argument]) = messages := by
  have hw : ∀ r ∈ [(⟨c.name, some t⟩ : Rule)], r.WellFormed :=
    List.forall_mem_singleton.2 (Checker.wellFormed_rule hb t)
  have ha : ∀ r ∈ [(⟨c.name, some t⟩ : Rule)], r.Applicable registry.inUse :=
    List.forall_mem_singleton.2 ⟨c, hr, rfl, argument, hp⟩
  change Says registry data s field (Rule.sequenceOf [⟨c.name, some t⟩]) messages ↔ _
  rw [says_iff (Rule.ofDefinition_sequenceOf hw) ha, List.flatMap_singleton,
    Rule.contribution_of_silent hr rfl hp hs]

/-- The same of a checker that is asked for by its name alone. -/
theorem says_name_iff {c : Checker} {argument : c.Argument} {result : Except Fault Bool}
    (hb : c ∈ Checker.builtIn) (hr : c ∈ registry.inUse.checkers) (hp : c.parse none = .ok argument)
    (hs : c.check field (data.held field) data s argument = .silent (c.writeMessage argument) result)
    {messages : List Text} :
    Says registry data s field (.text c.name) messages ↔
      (if result = .ok true then [] else [c.failureMessage argument]) = messages := by
  have hnames : ∀ c ∈ Checker.builtIn, c.name.trim = c.name ∧ ':' ∉ c.name ∧ '|' ∉ c.name ∧
      c.name ≠ [] := by decide
  obtain ⟨htrimmed, hcolon, hbar, hne⟩ := hnames c hb
  have hstands : Rule.Stands registry.inUse ⟨c.name, none⟩ :=
    ⟨⟨htrimmed, hcolon, .inl hne⟩, hbar, c, hr, rfl, argument, hp⟩
  have hcontribution : Rule.contribution registry.inUse data s field ⟨c.name, none⟩ = _ :=
    Rule.contribution_of_silent hr rfl hp hs
  rw [← hcontribution]
  exact says_text_iff hstands

end

end FieldRules
