import FieldRules.Proofs.Run.Alone

/-! Membership in a list that is given as one text with commas between its elements. Nothing of the
text is left out: blanks belong to the elements, and two commas in a row hold an empty one. -/
namespace FieldRules

def oneOfList (raw : Text) : Value := .list [.text ("in:".toList ++ raw)]

private theorem oneOfList_eq (raw : Text) :
    oneOfList raw = .list [.text (Checker.name .oneOf ++ ':' :: raw)] := rfl

def notListed (raw : Text) : Text :=
  "This field must be one of the following values: ".toList ++ raw ++ ['.']

/-- A text without a comma that has one on either side in the list, if one is put before the list and
one after it. -/
def Value.IsElement (raw : Text) (v : Value) : Prop :=
  ∃ t, v = .text t ∧ ',' ∉ t ∧ ',' :: (t ++ [',']) <:+: ',' :: (raw ++ [','])

/-- The elements are the parts of the argument between commas, which an infix of the text tells as
well. -/
private theorem Trial.isListed_iff {raw : Text} {v : Value} :
    isListed (raw.split ',') v ↔ v.IsElement raw := by
  cases v with
  | text t => simp [isListed, Value.IsElement, Text.mem_split_iff_infix]
  | _ => simp [isListed, Value.IsElement]

/-- The elements are put together again as they were given. -/
theorem Checker.failureMessage_oneOf (raw : Text) :
    failureMessage .oneOf (raw.split ',') = notListed raw :=
  congrArg notListed (Text.join_split ',' raw)

private theorem Checker.parse_oneOf {raw : Text} (h : raw ≠ []) :
    parse .oneOf (some raw) = .ok (raw.split ',') := by
  obtain ⟨c, rest, rfl⟩ := List.exists_cons_of_ne_nil h
  simp only [parse, given, Except.map]

private theorem says_oneOfList_iff {registry : Registry} (hr : Checker.oneOf ∈ registry.inUse.checkers)
    {raw : Text} (h : raw ≠ []) {data : FieldMap Value} {s : Surroundings} {field : Text}
    {messages : List Text} :
    Says registry data s field (oneOfList raw) messages ↔
      (if Trial.isListed (raw.split ',') (data.held field) then [] else [notListed raw]) =
        messages := by
  rw [oneOfList_eq, says_token_iff (by decide) hr (Checker.parse_oneOf h) rfl,
    Checker.failureMessage_oneOf]
  simp only [Except.ok.injEq]

/-- A value passes if and only if it is a text without a comma that stands between two commas of the
list, where the ends of the list count as commas. Every other value gets the one message, which shows
the list as it was given. -/
theorem in_passes_iff_isElement {registry : Registry} (hr : Checker.oneOf ∈ registry.inUse.checkers)
    (data : FieldMap Value) (s : Surroundings) (field : Text) :
    (∀ raw, raw ≠ [] →
      (Says registry data s field (oneOfList raw) [] ↔ (data.held field).IsElement raw) ∧
      (Says registry data s field (oneOfList raw) [notListed raw] ↔
        ¬ (data.held field).IsElement raw)) ∧
    ∀ raw, Checker.failureMessage .oneOf (raw.split ',') = notListed raw := by
  refine ⟨fun raw h => ?_, Checker.failureMessage_oneOf⟩
  rw [says_oneOfList_iff hr h, says_oneOfList_iff hr h, ← Trial.isListed_iff]
  simp

/-- No value, a text with a blank, an empty text, and a text that goes over a comma. -/
def shades : FieldMap Value :=
  ⟨[("pale".toList, .text " sand".toList), ("none".toList, .text []),
    ("both".toList, .text "ochre, sand".toList)], by decide⟩

/-- The blank belongs to the element, the last comma makes an empty element, and no element has a comma
in it. -/
theorem shades_listed :
    let raw := "ochre, sand,".toList
    Says .standard shades .offline "pale".toList (oneOfList raw) [] ∧
    Says .standard shades .offline "none".toList (oneOfList raw) [] ∧
    Says .standard shades .offline "both".toList (oneOfList raw) [notListed raw] ∧
    Says .standard shades .offline "absent".toList (oneOfList raw) [notListed raw] := by
  intro raw
  have hr : Checker.oneOf ∈ Registry.standard.inUse.checkers := by decide
  have hraw : raw ≠ [] := List.cons_ne_nil _ _
  have hlist := fun field => (in_passes_iff_isElement hr shades .offline field).1 raw hraw
  refine ⟨?_, ?_, ?_, ?_⟩
  · exact (hlist _).1.2 ⟨_, rfl, by decide, ",ochre".toList, ",".toList, rfl⟩
  · exact (hlist _).1.2 ⟨_, rfl, by decide, ",ochre, sand".toList, [], rfl⟩
  · refine (hlist _).2.2 ?_
    rintro ⟨t, ht, hcomma, -⟩
    cases ht
    exact hcomma (by decide)
  · refine (hlist _).2.2 ?_
    rintro ⟨t, ht, -⟩
    cases ht

end FieldRules
