import FieldRules.Fault

/-!
Why a pattern is not read.
-/

namespace FieldRules.Regex

inductive Refusal where
  | malformed
  /-- Reading broke off before the pattern was judged. -/
  | broken (fault : Fault)
  deriving DecidableEq, Repr

end FieldRules.Regex
