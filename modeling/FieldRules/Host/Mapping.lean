import FieldRules.Text
import FieldRules.Unicode.Normal
import FieldRules.Unicode.Tables.HostMapping

/-!
How a host name is brought into the form in which its labels are judged: lower case, compatibility
forms replaced, characters composed.
-/

namespace FieldRules.Host

def mapCharacter? (c : Char) : Option Text :=
  if c.toNat < 128 then some [c.toLower]
  else if Unicode.Tables.refused.covers c then none
  else if Unicode.Tables.dropped.covers c then some []
  else match Unicode.Tables.spelled.sequence? c with
    | some t => some t
    | none => some [Unicode.Tables.mapped.step c]

def map? (t : Text) : Option Text :=
  (t.mapM mapCharacter?).map fun parts => Unicode.normal parts.flatten

end FieldRules.Host
