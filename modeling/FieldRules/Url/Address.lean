import FieldRules.Decimal.Integer

/-!
Literal network addresses, as they stand between the brackets of a URL.
-/

namespace FieldRules.Url.Address

def isHexadecimal (c : Char) : Bool :=
  c.isDigit || ('a' ≤ c && c ≤ 'f') || ('A' ≤ c && c ≤ 'F')

def isOctet (t : Text) : Bool :=
  match t with
  | [] => false
  | c :: rest =>
    t.all Char.isDigit && t.length ≤ 3 && (c != '0' || rest.isEmpty) &&
      Decimal.value (t.filterMap Unicode.digit?) ≤ 255

def isDotted (t : Text) : Bool :=
  let octets := t.split '.'
  octets.length == 4 && octets.all isOctet

def isGroup (t : Text) : Bool := t.all isHexadecimal && t.length ≤ 4 && !t.isEmpty

def groups? (t : Text) : Option (List Text) :=
  let parts := t.split ':'
  if parts.length < 3 then none
  else match parts.getLast? with
    | some last =>
      if last.contains '.' then
        if isDotted last then some (parts.dropLast ++ [['0'], ['0']]) else none
      else some parts
    | none => none

/-- Eight groups, or fewer with one gap: an empty group that stands for the missing ones. Where the
gap is at an end of the address the group at that end is empty too. -/
def areGroups (groups : List Text) : Bool :=
  match (groups.tail.dropLast).idxOf? [] with
  | none => groups.length == 8 && groups.all isGroup
  | some i =>
    let front := groups.take (i + 1)
    let back := groups.drop (i + 2)
    let front := if front == [[]] then [] else front
    let back := if back == [[]] then [] else back
    front.all isGroup && back.all isGroup && front.length + back.length ≤ 7

def isSixteenByte (t : Text) : Bool :=
  let (address, zone) := t.cut '%'
  (match zone with
    | none => true
    | some z => !z.isEmpty && !z.contains '%') &&
  match groups? address with
  | some groups => groups.length ≤ 9 && areGroups groups
  | none => false

/-- An address of a version to come: `v`, the version in hexadecimal digits, a dot and anything. -/
def isFuture (t : Text) : Bool :=
  match t with
  | 'v' :: rest =>
    let (version, after) := Text.cut '.' rest
    !version.isEmpty && version.all isHexadecimal && match after with
      | some a => !a.isEmpty
      | none => false
  | _ => false

def isLiteral (t : Text) : Bool :=
  match t with
  | 'v' :: _ => isFuture t
  | _ => isSixteenByte t

end FieldRules.Url.Address
