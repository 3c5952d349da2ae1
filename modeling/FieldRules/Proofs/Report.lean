import FieldRules.Proofs.FieldMap
import FieldRules.Report

/-! The views of a report. They agree as long as no field stands in the report without a message; a
report is built so, and a message that is added to it keeps it so. -/
namespace FieldRules

namespace FieldMap
variable {α : Type} {m : FieldMap α}

private theorem get?_filter (p : α → Bool) (name : Text) :
    (m.filter p).get? name = (m.get? name).filter p := by
  ext a
  rw [get?_eq_some_iff, filter, List.mem_filter, ← get?_eq_some_iff, Option.filter_eq_some_iff]

private theorem names_alter (m : FieldMap α) (name : Text) (f : Option α → α) :
    (m.alter name f).names = if name ∈ m.names then m.names else m.names ++ [name] :=
  map_fst_alterEntries name f m.entries

end FieldMap

namespace Report
variable {r : Report}

def Filled (r : Report) : Prop :=
  ∀ field messages, r.errors.get? field = some messages → messages ≠ []

def record (r : Report) (notes : List (Text × Text)) : Report :=
  notes.foldl (fun r note => r.add note.1 note.2) r

/-! ### Building and adding -/

private theorem get?_build (errors : FieldMap (List Text)) (fieldsChecked rulesChecked : Int)
    (field : Text) :
    (build errors fieldsChecked rulesChecked).errors.get? field =
      (errors.get? field).filter (!·.isEmpty) :=
  FieldMap.get?_filter _ field

/-- Building drops the fields without messages, so every field left has one. -/
private theorem filled_build (errors : FieldMap (List Text)) (fieldsChecked rulesChecked : Int) :
    (build errors fieldsChecked rulesChecked).Filled := by
  intro field messages h
  rw [get?_build, Option.filter_eq_some_iff] at h
  simpa using h.2

private theorem get?_add (r : Report) (field message f : Text) :
    (r.add field message).errors.get? f =
      if f = field then some (r.get field ++ [message]) else r.errors.get? f :=
  FieldMap.get?_alter field f _

private theorem Filled.add (h : r.Filled) (field message : Text) : (r.add field message).Filled := by
  intro f messages hf
  rw [get?_add] at hf
  split at hf
  · cases hf
    simp
  · exact h f messages hf

/-- No sequence of additions leaves a field without a message. -/
private theorem Filled.record (h : r.Filled) (notes : List (Text × Text)) : (r.record notes).Filled := by
  induction notes generalizing r with
  | nil => exact h
  | cons note rest ih => exact ih (h.add note.1 note.2)

private theorem get_add (r : Report) (field message f : Text) :
    (r.add field message).get f = if f = field then r.get f ++ [message] else r.get f := by
  rw [get, get?_add]
  split
  · rename_i hf
    rw [hf, Option.getD_some]
  · rfl

/-- A field has the messages that it had, and behind them those that were added for it. -/
theorem get_record (r : Report) (notes : List (Text × Text)) (f : Text) :
    (r.record notes).get f = r.get f ++ (notes.filter (·.1 = f)).map (·.2) := by
  induction notes generalizing r with
  | nil => simp [record]
  | cons note rest ih =>
    rw [record, List.foldl_cons, ← record, ih, get_add]
    by_cases hf : f = note.1
    · simp [hf]
    · simp [hf, Ne.symm hf]

/-- The fields keep their places; a new one goes last. -/
theorem names_prefix_record (r : Report) (notes : List (Text × Text)) :
    r.errors.names <+: (r.record notes).errors.names := by
  induction notes generalizing r with
  | nil => exact List.prefix_rfl
  | cons note rest ih =>
    have hadd : r.errors.names <+: (r.add note.1 note.2).errors.names := by
      rw [add, FieldMap.names_alter]
      split
      · exact List.prefix_rfl
      · exact List.prefix_append _ _
    exact hadd.trans (ih _)

/-! ### Views -/

private theorem get_of_mem {field : Text} {messages : List Text}
    (h : (field, messages) ∈ r.errors.entries) :
    r.get field = messages := by
  rw [get, FieldMap.get?_eq_some_iff.2 h, Option.getD_some]

/-- All messages are those of the fields, in the order of the fields. -/
private theorem messages_eq (r : Report) : r.messages = r.errors.names.flatMap r.get := by
  rw [messages, FieldMap.names, List.flatMap_map]
  exact List.flatMap_congr fun e he => (get_of_mem he).symm

private theorem count_eq (r : Report) : r.count = r.messages.length := by
  rw [messages, List.length_flatMap]
  rfl

/-- The view by name and the view by message tell the same of a field. -/
private theorem Filled.has_iff (h : r.Filled) (field : Text) : r.has field ↔ r.get field ≠ [] := by
  rw [has, FieldMap.contains, get]
  cases hf : r.errors.get? field with
  | none => simp
  | some messages => simpa using h field messages hf

private theorem Filled.passed_iff (h : r.Filled) : r.passed ↔ r.messages = [] := by
  rw [passed, List.isEmpty_iff, messages, List.flatMap_eq_nil_iff]
  constructor
  · intro hnone e he
    rw [hnone] at he
    cases he
  · intro hall
    refine List.eq_nil_iff_forall_not_mem.2 fun e he => ?_
    exact h e.1 e.2 (FieldMap.get?_eq_some_iff.2 he) (hall e he)

private theorem first?_eq_some_iff {field message : Text} :
    r.first? field = some message ↔ ∃ rest, r.get field = message :: rest :=
  List.head?_eq_some_iff

/-- Whatever a report is built from, and whatever messages are added to it afterwards, it passes if it
counts no message and if it lists none. A field is in it if it has a message there, and this is when it has
a first one. The messages are those of the fields in their order, as many as are counted. Building leaves
out the fields without a message and nothing else; what is added to a field goes behind its messages, and a
field that is new goes behind the others. -/
theorem built_views_agree (errors : FieldMap (List Text)) (fieldsChecked rulesChecked : Int)
    (notes : List (Text × Text)) :
    let built := build errors fieldsChecked rulesChecked
    let r := built.record notes
    (r.passed ↔ r.count = 0) ∧ (r.count = 0 ↔ r.messages = []) ∧
    (∀ f, (r.has f ↔ r.get f ≠ []) ∧ (r.get f ≠ [] ↔ r.first? f ≠ none) ∧
      ∀ m, r.first? f = some m ↔ ∃ rest, r.get f = m :: rest) ∧
    r.messages = r.errors.names.flatMap r.get ∧ r.count = r.messages.length ∧
    built.errors.names.Sublist errors.names ∧
    (∀ f messages, built.errors.get? f = some messages ↔
      errors.get? f = some messages ∧ messages ≠ []) ∧
    built.errors.names <+: r.errors.names ∧
    ∀ f, r.get f = built.get f ++ (notes.filter (·.1 = f)).map (·.2) := by
  intro built r
  have hfilled : r.Filled := (filled_build errors fieldsChecked rulesChecked).record notes
  have hcount : r.count = 0 ↔ r.messages = [] := by rw [count_eq, List.length_eq_zero_iff]
  refine ⟨hfilled.passed_iff.trans hcount.symm, hcount, fun f => ⟨hfilled.has_iff f, ?_, ?_⟩,
    messages_eq r, count_eq r, ?_, ?_, names_prefix_record built notes, get_record built notes⟩
  · rw [first?, ne_eq, ne_eq, List.head?_eq_none_iff]
  · intro m
    exact first?_eq_some_iff
  · exact List.filter_sublist.map _
  · intro f messages
    rw [get?_build, Option.filter_eq_some_iff]
    simp

/-- Built from an empty list as it is, a report would hold a field without a message. -/
example :
    let r : Report := ⟨⟨[("a".toList, [])], by decide⟩, 1, 1⟩
    r.has "a".toList ∧ r.get "a".toList = [] ∧ ¬ r.passed ∧ r.count = 0 := by
  decide

end Report
end FieldRules
