import FieldRules.Text
import FieldRules.Unicode.Printable

/-!
Quoted texts: between single quotes, or between double quotes when that saves escaping, with
characters that have no visible form written as code points.
-/

namespace FieldRules.Text

/-- `width` hexadecimal digits, or more if `n` needs them. -/
def hexadecimal (width n : Nat) : Text :=
  let ds := Nat.toDigits 16 n
  List.replicate (width - ds.length) '0' ++ ds

def quoteFor (single double : Bool) : Char := if single && !double then '"' else '\''

def escaped (quote c : Char) : Text :=
  if c = quote ∨ c = '\\' then ['\\', c]
  else if c = '\n' then "\\n".toList
  else if c = '\r' then "\\r".toList
  else if c = '\t' then "\\t".toList
  else if Unicode.isPrintable c then [c]
  else if c.toNat < 0x100 then "\\x".toList ++ hexadecimal 2 c.toNat
  else if c.toNat < 0x10000 then "\\u".toList ++ hexadecimal 4 c.toNat
  else "\\U".toList ++ hexadecimal 8 c.toNat

def quoted (t : Text) : Text :=
  let quote := quoteFor (t.contains '\'') (t.contains '"')
  quote :: t.flatMap (escaped quote) ++ [quote]

end FieldRules.Text
