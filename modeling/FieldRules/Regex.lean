import FieldRules.Regex.Draft
import FieldRules.Regex.Search

/-!
Patterns between delimiters, with letters for flags behind them.
-/

namespace FieldRules

structure Regex where
  body : Text
  /-- The flags of the whole pattern, those that it sets itself included. -/
  flags : Regex.Flags
  /-- The number of groups that capture what they match. -/
  groups : Nat
  node : Regex.Node
  deriving DecidableEq, Repr

namespace Regex

/-- The pattern without delimiters. Its letters are of all scripts unless those of ASCII are asked
for. -/
def ofBody (f : Flags) (body : Text) : Except Refusal Regex := do
  let d ← Draft.ofText f body
  return ⟨body, { d.flags with unicode := !d.flags.ascii }, d.widths.length, d.level.node⟩

def closing (c : Char) : Char :=
  match c with
  | '(' => ')'
  | '\x7b' => '\x7d'
  | '[' => ']'
  | '<' => '>'
  | c => c

def isDelimiter (c : Char) : Bool :=
  !(Unicode.isAlphanumeric c || Unicode.isBlank c || c = '\\')

def modifiers? : Text → Option Flags
  | [] => some {}
  | c :: t =>
    if c = 'a' ∨ c = 't' then none
    else
      match Flags.ofLetter? c, modifiers? t with
      | some f, some g => some (f.union g)
      | _, _ => none

def cutLast (c : Char) (t : Text) : Option (Text × Text) :=
  if t.contains c then
    let after := (t.reverse.takeWhile (· ≠ c)).reverse
    some (t.take (t.length - after.length - 1), after)
  else none

/-- Takes a delimited pattern apart: its body, which ends at the last closing delimiter, and the
flags behind it. -/
def parts? : Text → Option (Text × Flags)
  | [] => none
  | opening :: t =>
    if isDelimiter opening then
      (cutLast (closing opening) t).bind fun (body, letters) =>
        (modifiers? letters).map fun f => (body, f)
    else none

/-- Reads a delimited pattern. There is none where the text is not one. -/
def ofDelimited (t : Text) : Except Fault (Option Regex) :=
  match parts? t with
  | none => .ok none
  | some (body, f) =>
    match ofBody f body with
    | .ok regex => .ok (some regex)
    | .error .malformed => .ok none
    | .error (.broken fault) => .error fault

def search (r : Regex) (t : Text) : Bool := r.node.foundFrom r.flags r.groups [] 0 t

end Regex

end FieldRules
