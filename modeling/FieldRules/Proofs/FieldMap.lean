import FieldRules.FieldMap
import Mathlib.Data.List.Nodup

/-! Field maps seen through their look-ups: an entry is found exactly if it is there, and an
operation on one name leaves the others alone. -/
namespace FieldRules
variable {α : Type}

theorem alterEntries_of_notMem {name : Text} {f : Option α → α} {es : List (Text × α)}
    (h : name ∉ es.map (·.1)) : alterEntries name f es = es ++ [(name, f none)] := by
  induction es with
  | nil => rfl
  | cons e rest ih =>
    obtain ⟨n, a⟩ := e
    simp only [List.map_cons, List.mem_cons, not_or] at h
    rw [alterEntries, if_neg (Ne.symm h.1), ih h.2]
    rfl

theorem alterEntries_alterEntries (name : Text) (f g : Option α → α) (es : List (Text × α)) :
    alterEntries name f (alterEntries name g es) = alterEntries name (fun a => f (some (g a))) es := by
  induction es with
  | nil => simp [alterEntries]
  | cons e rest ih =>
    obtain ⟨n, a⟩ := e
    by_cases h : n = name
    · simp [alterEntries, h]
    · simp [alterEntries, h, ih]

private theorem lookup_alterEntries (name n : Text) (f : Option α → α) (es : List (Text × α)) :
    (alterEntries name f es).lookup n =
      if n = name then some (f (es.lookup name)) else es.lookup n := by
  induction es with
  | nil => by_cases h : n = name <;> simp [alterEntries, h]
  | cons e rest ih =>
    obtain ⟨k, a⟩ := e
    by_cases hk : k = name
    · subst hk
      by_cases hn : n = k
      · simp [alterEntries, hn]
      · have hb : (n == k) = false := by simpa using hn
        simp [alterEntries, List.lookup_cons, hn, hb]
    · have hb : (name == k) = false := by simpa using Ne.symm hk
      rw [alterEntries, if_neg hk, List.lookup_cons, ih, List.lookup_cons, List.lookup_cons, hb]
      by_cases hn : n = k
      · subst hn
        simp [hk]
      · have hb' : (n == k) = false := by simpa using hn
        simp [hb']

namespace FieldMap
variable {m m' : FieldMap α}

/-- Maps are equal when their entries are, the proofs of distinct names aside. -/
theorem ext_entries (h : m.entries = m'.entries) : m = m' := by
  cases m
  cases m'
  simpa using h

/-- An entry is found exactly if it is there: no name has two entries. -/
theorem get?_eq_some_iff {name : Text} {a : α} : m.get? name = some a ↔ (name, a) ∈ m.entries := by
  obtain ⟨es, hd⟩ := m
  change es.lookup name = some a ↔ (name, a) ∈ es
  induction es with
  | nil => simp
  | cons e rest ih =>
    obtain ⟨n, b⟩ := e
    simp only [List.map_cons, List.nodup_cons] at hd
    by_cases hn : name = n
    · subst hn
      have hr : (name, a) ∉ rest := fun hm => hd.1 (List.mem_map.2 ⟨_, hm, rfl⟩)
      simp [hr, eq_comm]
    · have hb : (name == n) = false := by simpa using hn
      simp [List.lookup_cons, hb, hn, ih hd.2]

/-- Look-ups do not depend on the order of the entries. -/
theorem get?_eq_of_perm (h : m.entries.Perm m'.entries) (name : Text) :
    m.get? name = m'.get? name := by
  ext a
  rw [get?_eq_some_iff, get?_eq_some_iff, h.mem_iff]

/-- Altering one name changes what is held under it and nothing else. -/
theorem get?_alter (name n : Text) (f : Option α → α) :
    (m.alter name f).get? n = if n = name then some (f (m.get? name)) else m.get? n :=
  lookup_alterEntries name n f m.entries

@[simp] theorem get?_put_self (name : Text) (a : α) : (m.put name a).get? name = some a := by
  simp [put, get?_alter]

theorem get?_put_of_ne {name n : Text} (h : n ≠ name) (a : α) :
    (m.put name a).get? n = m.get? n := by
  simp [put, get?_alter, h]

theorem get?_erase_of_ne {name n : Text} (h : n ≠ name) : (m.erase name).get? n = m.get? n := by
  ext a
  simp [get?_eq_some_iff, erase, h]

end FieldMap

end FieldRules
