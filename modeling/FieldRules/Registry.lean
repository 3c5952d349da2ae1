import FieldRules.Checker
import FieldRules.Fault

/-!
Registries: checkers under their names, no name twice.
-/

namespace FieldRules

structure Registry where
  checkers : List Checker
  distinct : (checkers.map Checker.name).Nodup

namespace Registry

def firstRepeat? : List Text → List Text → Option Text
  | _, [] => none
  | seen, n :: rest => if n ∈ seen then some n else firstRepeat? (seen ++ [n]) rest

/-- The names seen so far are distinct, which the induction carries along. -/
private theorem nodup_of_firstRepeat? {seen names : List Text} (h : firstRepeat? seen names = none)
    (hs : seen.Nodup) : (seen ++ names).Nodup := by
  induction names generalizing seen with
  | nil => simpa using hs
  | cons n rest ih =>
    unfold firstRepeat? at h
    split at h
    · simp at h
    · rename_i hn
      have := ih h (List.nodup_append.2 ⟨hs, by simp, fun a ha b hb => by
        rintro rfl
        exact hn (by simpa [List.mem_singleton.1 hb] using ha)⟩)
      simpa using this

def ofCheckers (checkers : List Checker) : Except ConfigurationError Registry :=
  match h : firstRepeat? [] (checkers.map Checker.name) with
  | some name => .error (.registeredTwice name)
  | none => .ok ⟨checkers, by simpa using nodup_of_firstRepeat? h List.nodup_nil⟩

def standard : Registry := ⟨Checker.builtIn, by decide⟩

def names (r : Registry) : List Text := r.checkers.map Checker.name

def size (r : Registry) : Nat := r.checkers.length

def find? (r : Registry) (name : Text) : Option Checker := r.checkers.find? (·.name = name)

def resolve (r : Registry) (name : Text) (field : Option Text) :
    Except ConfigurationError Checker :=
  match r.find? name with
  | some checker => .ok checker
  | none => .error (.unknownRule name field)

/-- Whether a value is the name of a checker. A value that can change cannot be looked up. -/
def contains (r : Registry) (v : Value) : Except Fault Bool :=
  match v.changingPart? with
  | some kind => .error (.mutableName kind.name)
  | none => match v with
    | .text name => .ok (r.find? name).isSome
    | _ => .ok false

/-- The registry that runs use: an empty one gives way to the standard one. -/
def inUse (r : Registry) : Registry := if r.checkers.isEmpty then standard else r

end Registry

end FieldRules
