import FieldRules.Value.Equality
import Mathlib.Tactic.MkIffOfInductiveProp
import Mathlib.Data.List.Forall2

/-! Equality of values, taken through containers of any depth, is the same from both sides: by induction
over the items that containers hold, and by cases on what a value can be equal to at all. -/
namespace FieldRules

/-! ### Numbers -/

private theorem Extent.same_iff {a b : Extent} : a.same b ↔ a = b ∧ a ≠ .undefined := by
  cases a <;> cases b <;> simp [same]

theorem Number.equal_iff {m n : Number} :
    m.equal n ↔ m.extent = n.extent ∧ m.extent ≠ .undefined := Extent.same_iff

/-! ### Lists whose items are related -/

private theorem forall_symm {α β : Type} {xs : List α} {ys : List β} {R : α → β → Prop}
    {S : β → α → Prop}
    (hr : List.Forall₂ R xs ys) (h : ∀ x ∈ xs, ∀ y, R x y → S y x) : List.Forall₂ S ys xs := by
  have hboth := (List.forall₂_and_left _ _).2 ⟨h, hr⟩
  exact (hboth.imp fun x y hxy => hxy.1 y hxy.2).flip

/-- Two lists of one length, in which each item has a partner in the other list. -/
@[mk_iff paired_iff]
structure Paired {α β : Type} (R : α → β → Prop) (xs : List α) (ys : List β) : Prop where
  length : xs.length = ys.length
  left : ∀ x ∈ xs, ∃ y ∈ ys, R x y
  right : ∀ y ∈ ys, ∃ x ∈ xs, R x y

namespace Paired
variable {α β : Type} {xs : List α} {ys : List β}

private theorem refl {R : α → α → Prop} (h : ∀ x ∈ xs, R x x) : Paired R xs xs :=
  ⟨rfl, fun x hx => ⟨x, hx, h x hx⟩, fun x hx => ⟨x, hx, h x hx⟩⟩

private theorem symm {R : α → β → Prop} {S : β → α → Prop} (hp : Paired R xs ys)
    (h : ∀ x ∈ xs, ∀ y, R x y → S y x) : Paired S ys xs where
  length := hp.length.symm
  left y hy := by
    obtain ⟨x, hx, hr⟩ := hp.right y hy
    exact ⟨x, hx, h x hx y hr⟩
  right x hx := by
    obtain ⟨y, hy, hr⟩ := hp.left x hx
    exact ⟨y, hy, h x hx y hr⟩

end Paired

namespace Value

abbrev Matches (a b : Value) : Prop := matchesValue a b

def EntryMatches (e f : Value × Value) : Prop := Matches e.1 f.1 ∧ Matches e.2 f.2

def members? : Value → Option (List Value)
  | .set xs | .frozenset xs => some xs
  | _ => none

/-! ### What a value of each kind matches -/

private theorem matchesEach_iff {xs ys : List Value} :
    matchesEach xs ys ↔ List.Forall₂ Matches xs ys := by
  induction xs generalizing ys with
  | nil =>
    cases ys with
    | nil => exact iff_of_true rfl .nil
    | cons y ys => exact iff_of_false Bool.false_ne_true nofun
  | cons x xs ih =>
    cases ys with
    | nil => exact iff_of_false Bool.false_ne_true nofun
    | cons y ys =>
      change (matchesValue x y && matchesEach xs ys) = true ↔ _
      rw [Bool.and_eq_true, ih, List.forall₂_cons]

/-- Membership asks for identity or equality, as a comparison of containers does. -/
theorem holds_iff {xs : List Value} {y : Value} : holds xs y ↔ ∃ x ∈ xs, Matches x y := by
  induction xs with
  | nil => exact iff_of_false Bool.false_ne_true (by simp)
  | cons x xs ih =>
    change (matchesValue x y || holds xs y) = true ↔ _
    rw [Bool.or_eq_true, ih, List.exists_mem_cons_iff]

private theorem allHeld_iff {xs ys : List Value} : allHeld xs ys ↔ ∀ x ∈ xs, ∃ y ∈ ys, Matches x y := by
  induction xs with
  | nil => exact iff_of_true rfl (List.forall_mem_nil _)
  | cons x xs ih =>
    change (ys.any (fun y => matchesValue x y) && allHeld xs ys) = true ↔ _
    rw [Bool.and_eq_true, List.any_eq_true, ih, List.forall_mem_cons]

private theorem matchesEntry_iff {e f : Value × Value} : matchesEntry e f ↔ EntryMatches e f := by
  obtain ⟨k, v⟩ := e
  change (matchesValue k f.1 && matchesValue v f.2) = true ↔ _
  rw [Bool.and_eq_true]
  rfl

private theorem holdsEntry_iff {es : List (Value × Value)} {f : Value × Value} :
    holdsEntry es f ↔ ∃ e ∈ es, EntryMatches e f := by
  induction es with
  | nil => exact iff_of_false Bool.false_ne_true (by simp)
  | cons e es ih =>
    change (matchesEntry e f || holdsEntry es f) = true ↔ _
    rw [Bool.or_eq_true, matchesEntry_iff, ih, List.exists_mem_cons_iff]

private theorem allEntriesHeld_iff {es fs : List (Value × Value)} :
    allEntriesHeld es fs ↔ ∀ e ∈ es, ∃ f ∈ fs, EntryMatches e f := by
  induction es with
  | nil => exact iff_of_true rfl (List.forall_mem_nil _)
  | cons e es ih =>
    change (fs.any (fun f => matchesEntry e f) && allEntriesHeld es fs) = true ↔ _
    simp only [Bool.and_eq_true, List.any_eq_true, matchesEntry_iff, ih, List.forall_mem_cons]

private theorem matches_null_iff {b : Value} : Matches .null b ↔ b = .null := by
  cases b with
  | null => exact iff_of_true rfl rfl
  | _ => exact iff_of_false Bool.false_ne_true nofun

private theorem matches_text_iff {t : Text} {b : Value} : Matches (.text t) b ↔ .text t = b := by
  cases b with
  | text u =>
    change (t == u) = true ↔ _
    rw [beq_iff_eq, text.injEq]
  | _ => exact iff_of_false Bool.false_ne_true nofun

private theorem matches_bytes_iff {bs : List UInt8} {b : Value} :
    Matches (.bytes bs) b ↔ .bytes bs = b := by
  cases b with
  | bytes cs =>
    change (bs == cs) = true ↔ _
    rw [beq_iff_eq, bytes.injEq]
  | _ => exact iff_of_false Bool.false_ne_true nofun

private theorem matches_foreign_iff {identity : Nat} {shown : Text} {b : Value} :
    Matches (.foreign identity shown) b ↔ ∃ shown', .foreign identity shown' = b := by
  cases b with
  | foreign identity' shown' =>
    change (identity == identity') = true ↔ _
    simp
  | _ => exact iff_of_false Bool.false_ne_true nofun

/-- Numbers match if they are equal, and a number that is no number if it is the same object. -/
theorem matches_numbers_iff {a b : Value} {m n : Number} (ha : a.number? = some m)
    (hb : b.number? = some n) : Matches a b ↔ a = b ∨ m.equal n := by
  have hinteger : ∀ k : Int, (Number.integer k).equal (.integer k) := fun k =>
    Number.equal_iff.2 ⟨rfl, nofun⟩
  cases a with
  | bool x =>
    cases ha
    cases b with
    | bool y =>
      cases hb
      refine ⟨.inr, ?_⟩
      rintro (heq | h)
      · cases heq
        exact hinteger _
      · exact h
    | int _ | float _ _ =>
      cases hb
      exact ⟨.inr, fun h => h.resolve_left nofun⟩
    | _ => cases hb
  | int x =>
    cases ha
    cases b with
    | int y =>
      cases hb
      refine ⟨.inr, ?_⟩
      rintro (heq | h)
      · cases heq
        exact hinteger _
      · exact h
    | bool _ | float _ _ =>
      cases hb
      exact ⟨.inr, fun h => h.resolve_left nofun⟩
    | _ => cases hb
  | float i x =>
    cases ha
    cases b with
    | float j y =>
      cases hb
      change ((i == j && x == y) || Number.equal (.float x) (.float y)) = true ↔ _
      rw [Bool.or_eq_true, Bool.and_eq_true, beq_iff_eq, beq_iff_eq, float.injEq]
    | bool _ | int _ =>
      cases hb
      exact ⟨.inr, fun h => h.resolve_left nofun⟩
    | _ => cases hb
  | _ => cases ha

private theorem not_matches_of_number {a b : Value} {m : Number} (ha : a.number? = some m)
    (hb : b.number? = none) : ¬ Matches a b := by
  cases a <;> cases ha <;> cases b <;> cases hb <;> exact Bool.false_ne_true

/-- A number matches itself and what denotes the same number. -/
theorem matches_number_iff {a b : Value} {m : Number} (h : a.number? = some m) :
    Matches a b ↔ a = b ∨ ∃ n, b.number? = some n ∧ m.equal n := by
  cases hb : b.number? with
  | none =>
    refine iff_of_false (not_matches_of_number h hb) ?_
    rintro (rfl | ⟨n, ⟨⟩, -⟩)
    cases h.symm.trans hb
  | some n => simp [matches_numbers_iff h hb]

private theorem matches_list_iff {xs : List Value} {b : Value} :
    Matches (.list xs) b ↔ ∃ ys, b = .list ys ∧ List.Forall₂ Matches xs ys := by
  cases b with
  | list ys =>
    change matchesEach xs ys = true ↔ _
    simp [matchesEach_iff]
  | _ => exact iff_of_false Bool.false_ne_true nofun

private theorem matches_tuple_iff {xs : List Value} {b : Value} :
    Matches (.tuple xs) b ↔ ∃ ys, b = .tuple ys ∧ List.Forall₂ Matches xs ys := by
  cases b with
  | tuple ys =>
    change matchesEach xs ys = true ↔ _
    simp [matchesEach_iff]
  | _ => exact iff_of_false Bool.false_ne_true nofun

private theorem paired_members_iff {xs ys : List Value} :
    (xs.length == ys.length && allHeld xs ys && ys.all (holds xs)) = true ↔
      Paired Matches xs ys := by
  simp only [Bool.and_eq_true, beq_iff_eq, allHeld_iff, List.all_eq_true, holds_iff, paired_iff,
    and_assoc]

/-- Two sets match, frozen or not, when each member of either has a partner in the other. -/
private theorem matches_members_iff {a b : Value} {xs : List Value} (h : a.members? = some xs) :
    Matches a b ↔ ∃ ys, b.members? = some ys ∧ Paired Matches xs ys := by
  cases hb : b.members? with
  | none =>
    refine iff_of_false ?_ nofun
    cases a <;> cases h <;> cases b <;> cases hb <;> exact Bool.false_ne_true
  | some ys =>
    have hvalue : matchesValue a b =
        (xs.length == ys.length && allHeld xs ys && ys.all (holds xs)) := by
      cases a <;> cases h <;> cases b <;> cases hb <;> rfl
    rw [Matches, hvalue, paired_members_iff]
    simp

/-- Two maps match entry by entry, in any order of their keys. -/
private theorem matches_dict_iff {es : List (Value × Value)} {b : Value} :
    Matches (.dict es) b ↔ ∃ fs, b = .dict fs ∧ Paired EntryMatches es fs := by
  cases b with
  | dict fs =>
    change (es.length == fs.length && allEntriesHeld es fs && fs.all (holdsEntry es)) = true ↔ _
    simp [allEntriesHeld_iff, holdsEntry_iff, paired_iff, and_assoc]
  | _ => exact iff_of_false Bool.false_ne_true nofun

/-! ### Equivalence -/

/-- Induction over the items and entries of containers. The numbers make one case, and so do the two
kinds of sets. -/
theorem induct {motive : Value → Prop} (null : motive .null)
    (number : ∀ v m, v.number? = some m → motive v) (text : ∀ t, motive (.text t))
    (bytes : ∀ bs, motive (.bytes bs)) (foreign : ∀ identity shown, motive (.foreign identity shown))
    (list : ∀ xs, (∀ x ∈ xs, motive x) → motive (.list xs))
    (tuple : ∀ xs, (∀ x ∈ xs, motive x) → motive (.tuple xs))
    (members : ∀ v xs, v.members? = some xs → (∀ x ∈ xs, motive x) → motive v)
    (dict : ∀ es, (∀ e ∈ es, motive e.1 ∧ motive e.2) → motive (.dict es)) (v : Value) :
    motive v := by
  have hrec : ∀ w : Value, sizeOf w < sizeOf v → motive w := fun w _ =>
    induct null number text bytes foreign list tuple members dict w
  have hitems : ∀ {xs : List Value}, sizeOf xs < sizeOf v → ∀ x ∈ xs, motive x := fun hlt x hx =>
    hrec x (Nat.lt_trans (List.sizeOf_lt_of_mem hx) hlt)
  cases v with
  | null => exact null
  | bool b | int n | float identity x => exact number _ _ rfl
  | text t => exact text t
  | bytes bs => exact bytes bs
  | list xs => exact list xs (hitems (by simp))
  | tuple xs => exact tuple xs (hitems (by simp))
  | set xs | frozenset xs => exact members _ xs rfl (hitems (by simp))
  | dict es =>
    refine dict es fun e he => ?_
    have hlt : sizeOf e < sizeOf es := List.sizeOf_lt_of_mem he
    have hsize : sizeOf e = 1 + sizeOf e.1 + sizeOf e.2 := rfl
    have hdict : sizeOf (Value.dict es) = 1 + sizeOf es := Value.dict.sizeOf_spec es
    exact ⟨hrec e.1 (by omega), hrec e.2 (by omega)⟩
  | foreign identity shown => exact foreign identity shown
termination_by sizeOf v

namespace Matches

private theorem refl (a : Value) : Matches a a := by
  induction a using induct with
  | null => exact matches_null_iff.2 rfl
  | number v m h => exact (matches_number_iff h).2 (.inl rfl)
  | text t => exact matches_text_iff.2 rfl
  | bytes bs => exact matches_bytes_iff.2 rfl
  | foreign identity shown => exact matches_foreign_iff.2 ⟨shown, rfl⟩
  | list xs ih => exact matches_list_iff.2 ⟨xs, rfl, List.forall₂_same.2 ih⟩
  | tuple xs ih => exact matches_tuple_iff.2 ⟨xs, rfl, List.forall₂_same.2 ih⟩
  | members v xs h ih => exact (matches_members_iff h).2 ⟨xs, h, .refl ih⟩
  | dict es ih => exact matches_dict_iff.2 ⟨es, rfl, .refl ih⟩

/-- Matching is symmetric, although containers are searched from one side only. -/
theorem symm {a b : Value} (h : Matches a b) : Matches b a := by
  induction a using induct generalizing b with
  | null =>
    rw [matches_null_iff.1 h]
    exact refl _
  | number v m hv =>
    rcases (matches_number_iff hv).1 h with rfl | ⟨n, hb, hmn⟩
    · exact refl _
    · obtain ⟨hsame, hdefined⟩ := Number.equal_iff.1 hmn
      exact (matches_number_iff hb).2
        (.inr ⟨m, hv, Number.equal_iff.2 ⟨hsame.symm, hsame ▸ hdefined⟩⟩)
  | text t =>
    rw [← matches_text_iff.1 h]
    exact refl _
  | bytes bs =>
    rw [← matches_bytes_iff.1 h]
    exact refl _
  | foreign identity shown =>
    obtain ⟨shown', rfl⟩ := matches_foreign_iff.1 h
    exact matches_foreign_iff.2 ⟨shown, rfl⟩
  | list xs ih =>
    obtain ⟨ys, rfl, hall⟩ := matches_list_iff.1 h
    exact matches_list_iff.2 ⟨xs, rfl, forall_symm hall fun x hx _ => ih x hx⟩
  | tuple xs ih =>
    obtain ⟨ys, rfl, hall⟩ := matches_tuple_iff.1 h
    exact matches_tuple_iff.2 ⟨xs, rfl, forall_symm hall fun x hx _ => ih x hx⟩
  | members v xs hv ih =>
    obtain ⟨ys, hb, hpaired⟩ := (matches_members_iff hv).1 h
    exact (matches_members_iff hb).2 ⟨xs, hv, hpaired.symm fun x hx _ => ih x hx⟩
  | dict es ih =>
    obtain ⟨fs, rfl, hpaired⟩ := matches_dict_iff.1 h
    exact matches_dict_iff.2
      ⟨es, rfl, hpaired.symm fun e he _ hm => ⟨(ih e he).1 hm.1, (ih e he).2 hm.2⟩⟩

private theorem comm {a b : Value} : Matches a b ↔ Matches b a := ⟨symm, symm⟩

end Matches

/-- Equality of values does not depend on which side is asked. -/
theorem equal_comm {a b : Value} : a.equal b ↔ b.equal a := by
  have hfloat : ∀ {x y : Binary64}, Number.equal (.float x) (.float y) →
      Number.equal (.float y) (.float x) := by
    intro x y h
    obtain ⟨hsame, hdefined⟩ := Number.equal_iff.1 h
    exact Number.equal_iff.2 ⟨hsame.symm, hsame ▸ hdefined⟩
  cases a with
  | float identity x =>
    cases b with
    | float identity' y => exact ⟨hfloat, hfloat⟩
    | _ => exact Matches.comm
  | _ => cases b <;> exact Matches.comm

end Value
end FieldRules
