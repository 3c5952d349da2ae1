import FieldRules.Unicode.Tables.Identifier

/-!
Identifiers: a letter or an underscore, then letters, digits, marks and underscores.
-/

namespace FieldRules.Unicode

def startsIdentifier (c : Char) : Bool :=
  if c.toNat < 128 then c.isAlpha || c = '_' else Tables.identifierStart.covers c

def continuesIdentifier (c : Char) : Bool :=
  if c.toNat < 128 then c.isAlphanum || c = '_' else Tables.identifierPart.covers c

def isIdentifier : List Char → Bool
  | [] => false
  | c :: t => startsIdentifier c && t.all continuesIdentifier

end FieldRules.Unicode
