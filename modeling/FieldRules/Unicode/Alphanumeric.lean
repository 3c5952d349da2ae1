import FieldRules.Unicode.Tables.Alphanumeric

/-!
Letters and numbers of every script.
-/

namespace FieldRules.Unicode

def isAlphanumeric (c : Char) : Bool :=
  if c.toNat < 128 then c.isAlphanum else Tables.alphanumeric.covers c

end FieldRules.Unicode
