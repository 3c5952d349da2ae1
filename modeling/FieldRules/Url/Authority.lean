import FieldRules.Unicode.Case
import FieldRules.Url.Address

/-!
The authority of a URL: perhaps a user, then a host, then perhaps a port.
-/

namespace FieldRules.Url.Authority

def location (authority : Text) : Text := (authority.reverse.takeWhile (· ≠ '@')).reverse

def hostAndPort (authority : Text) : Text × Option Text :=
  let location := location authority
  match location.cut '[' with
  | (_, some bracketed) =>
    let (host, after) := bracketed.cut ']'
    (host, ((after.getD []).cut ':').2)
  | (_, none) => location.cut ':'

def host (authority : Text) : Text := (hostAndPort authority).1

def port (authority : Text) : Text := (hostAndPort authority).2.getD []

/-- Brackets stand around the whole host, or nowhere after the user. -/
def bracketsFit (authority : Text) : Bool :=
  match (location authority).cut '[' with
  | (before, some bracketed) =>
    before.isEmpty && match (bracketed.cut ']').2 with
      | none | some [] | some (':' :: _) => true
      | some _ => false
  | (_, none) => true

/-- Without brackets, or with a literal address as the host and brackets where they belong. -/
def bracketsAgree (authority : Text) : Bool :=
  match authority.contains '[', authority.contains ']' with
  | false, false => true
  | true, true => bracketsFit authority && Address.isLiteral (host authority)
  | _, _ => false

/-- Characters whose compatibility form contains one of `/ ? # @ :`. -/
def delimiterForms : List Nat := [
  0x2047, 0x2048, 0x2049, 0x2100, 0x2101, 0x2105, 0x2106, 0x2a74, 0xfe13, 0xfe16, 0xfe55, 0xfe56,
  0xfe5f, 0xfe6b, 0xff03, 0xff0f, 0xff1a, 0xff1f, 0xff20]

def hidesDelimiter (authority : Text) : Bool :=
  authority.any fun c => delimiterForms.contains c.toNat

def isPort (t : Text) : Bool :=
  t.all Char.isDigit && t.length ≤ Decimal.digitLimit &&
    Decimal.value (t.filterMap Unicode.digit?) ≤ 65535

def isWellFormed (authority : Text) : Bool :=
  bracketsAgree authority && !hidesDelimiter authority && isPort (port authority)

/-- The host in lower case; the zone of an address keeps its case. -/
def hostName (authority : Text) : Text :=
  match (host authority).cut '%' with
  | (address, some zone) => Unicode.lowerText address ++ '%' :: zone
  | (address, none) => Unicode.lowerText address

def isLabelCharacter (c : Char) : Bool := ('a' ≤ c && c ≤ 'z') || c.isDigit

def isLabel (t : Text) : Bool :=
  t.all (fun c => isLabelCharacter c || c = '-') && t.head?.any isLabelCharacter &&
    t.getLast?.any isLabelCharacter

def isHostName (t : Text) : Bool :=
  let labels := t.split '.'
  labels.all isLabel || (1 < labels.length && labels.getLast? == some [] &&
    labels.dropLast.all isLabel)

def hasHost (authority : Text) : Bool :=
  let name := hostName authority
  name.contains ':' || isHostName name

end FieldRules.Url.Authority
