import FieldRules.Text

/-!
Entries under field names, each name once, in the order in which the names came.
-/

namespace FieldRules

/-- The entry under `name` becomes `f` of what it was; a new name goes last. -/
def alterEntries {α : Type} (name : Text) (f : Option α → α) : List (Text × α) → List (Text × α)
  | [] => [(name, f none)]
  | (n, a) :: rest =>
    if n = name then (n, f (some a)) :: rest else (n, a) :: alterEntries name f rest

/-- A name keeps the place where it was first written. -/
theorem map_fst_alterEntries {α : Type} (name : Text) (f : Option α → α) (es : List (Text × α)) :
    (alterEntries name f es).map (·.1) =
      if name ∈ es.map (·.1) then es.map (·.1) else es.map (·.1) ++ [name] := by
  induction es with
  | nil => rfl
  | cons e rest ih =>
    obtain ⟨n, a⟩ := e
    by_cases h : n = name
    · simp [alterEntries, h]
    · simp only [alterEntries, if_neg h, List.map_cons, ih, List.mem_cons, Ne.symm h, false_or]
      split <;> simp

structure FieldMap (α : Type) where
  entries : List (Text × α)
  distinct : (entries.map (·.1)).Nodup

namespace FieldMap
variable {α β : Type}

def empty : FieldMap α := ⟨[], List.nodup_nil⟩

instance : Inhabited (FieldMap α) := ⟨empty⟩

def names (m : FieldMap α) : List Text := m.entries.map (·.1)

def size (m : FieldMap α) : Nat := m.entries.length

def get? (m : FieldMap α) (name : Text) : Option α := m.entries.lookup name

def contains (m : FieldMap α) (name : Text) : Bool := (m.get? name).isSome

def alter (m : FieldMap α) (name : Text) (f : Option α → α) : FieldMap α where
  entries := alterEntries name f m.entries
  distinct := by
    rw [map_fst_alterEntries]
    split
    · exact m.distinct
    · rename_i h
      exact List.nodup_append.2 ⟨m.distinct, by simp, fun a ha b hb => by
        rintro rfl
        exact h (by simpa [List.mem_singleton.1 hb] using ha)⟩

def put (m : FieldMap α) (name : Text) (a : α) : FieldMap α := m.alter name fun _ => a

def erase (m : FieldMap α) (name : Text) : FieldMap α where
  entries := m.entries.filter (·.1 ≠ name)
  distinct := m.distinct.sublist (List.filter_sublist.map _)

/-- Later entries replace the values of earlier ones of the same name. -/
def ofList (es : List (Text × α)) : FieldMap α := es.foldl (fun m e => m.put e.1 e.2) empty

def filter (m : FieldMap α) (p : α → Bool) : FieldMap α where
  entries := m.entries.filter (p ·.2)
  distinct := m.distinct.sublist (List.filter_sublist.map _)

def agrees [BEq α] (m m' : FieldMap α) : Bool :=
  m.size == m'.size && m.entries.all fun e => match m'.get? e.1 with
    | some a => a == e.2
    | none => false

end FieldMap

end FieldRules
