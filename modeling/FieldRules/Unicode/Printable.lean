import FieldRules.Unicode.Tables.Printable

/-!
Characters that are shown as themselves.
-/

namespace FieldRules.Unicode

/-- Not a control or format character, a separator other than the space, or a code point without a
character. -/
def isPrintable (c : Char) : Bool :=
  if c.toNat < 128 then 32 ≤ c.toNat && c.toNat ≤ 126 else !Tables.unprintable.covers c

end FieldRules.Unicode
