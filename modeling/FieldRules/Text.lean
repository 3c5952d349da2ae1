import FieldRules.Unicode.Blank

/-!
Texts are lists of characters: lengths count code points, order is by code point.
-/

namespace FieldRules

abbrev Text := List Char

namespace Text

def pieces (sep : Char) : Text → Text × List Text
  | [] => ([], [])
  | c :: t =>
    let (first, others) := pieces sep t
    if c = sep then ([], first :: others) else (c :: first, others)

def split (sep : Char) (t : Text) : List Text := (pieces sep t).1 :: (pieces sep t).2

def join (sep : Text) (ts : List Text) : Text := sep.intercalate ts

/-- What stands before the first `sep`, and what stands after it if there is one. -/
def cut (sep : Char) (t : Text) : Text × Option Text :=
  (t.takeWhile (· ≠ sep), match t.dropWhile (· ≠ sep) with
    | [] => none
    | _ :: after => some after)

/-- What a cut leaves is the text again, and the part before holds no separator. -/
theorem append_of_cut {sep : Char} {t before after : Text} (h : cut sep t = (before, some after)) :
    t = before ++ sep :: after ∧ sep ∉ before := by
  induction t generalizing before with
  | nil => simp [cut] at h
  | cons c t ih =>
    by_cases hc : c = sep
    · obtain ⟨rfl, rfl⟩ : [] = before ∧ t = after := by simpa [cut, hc] using h
      simp [hc]
    · obtain ⟨hbefore, hafter⟩ := Prod.mk.inj h
      rw [List.takeWhile_cons_of_pos (by simpa using hc)] at hbefore
      rw [List.dropWhile_cons_of_pos (by simpa using hc)] at hafter
      obtain ⟨ht, hnot⟩ := ih (Prod.ext rfl hafter)
      subst hbefore
      exact ⟨congrArg (c :: ·) ht, List.not_mem_cons_of_ne_of_not_mem (Ne.symm hc) hnot⟩

def strip (p : Char → Bool) (t : Text) : Text := ((t.dropWhile p).reverse.dropWhile p).reverse

def trim (t : Text) : Text := t.strip Unicode.isBlank

def isAscii (t : Text) : Bool := t.all (·.toNat < 128)

def before : Text → Text → Bool
  | _, [] => false
  | [], _ :: _ => true
  | a :: s, b :: t => a.toNat < b.toNat || (a == b && before s t)

end Text

end FieldRules
