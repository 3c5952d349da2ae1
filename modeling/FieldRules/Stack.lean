import FieldRules.Regex.Flags

/-!
The stack of calls. How much room it leaves to a check depends on the calls around the check.
-/

namespace FieldRules

structure Stack where
  /-- Arrays and objects of a document inside one another, at most. -/
  documentDepth : Nat := 980
  /-- What is told of a pattern, by its flags and its body, that finds no room. -/
  patternProblem? : Regex.Flags → Text → Option Text := fun _ _ => none
  documentDepth_ge : 300 ≤ documentDepth := by decide
  /-- Only groups are read by calls inside one another. -/
  patternProblem?_of_flat {f : Regex.Flags} {body : Text} (h : '(' ∉ body) :
    patternProblem? f body = none := by intros; rfl

/-- The room that runs are tried with. -/
def Stack.usual : Stack := {}

end FieldRules
