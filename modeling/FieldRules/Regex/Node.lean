import FieldRules.Regex.Single

/-!
Patterns as trees, and the lengths of the texts that they match.
-/

namespace FieldRules.Regex

inductive Anchor where
  /-- The start of the text, or of a line. -/
  | start
  /-- The end of the text, the place before a line end that ends the text, or the end of a line. -/
  | finish
  | textStart
  | textEnd
  /-- Between a word character and what is none. -/
  | edge
  | noEdge
  deriving DecidableEq, Repr

/-- Which number of repetitions is tried first, and whether others are. -/
inductive Greed where
  | greedy
  | lazy
  /-- As many as possible, and no other number. -/
  | possessive
  deriving DecidableEq, Repr

structure Bounds where
  least : Nat
  /-- Absent if there is no bound. -/
  most : Option Nat
  deriving DecidableEq, Repr

inductive Node where
  | empty
  | single (s : Single)
  | anchor (a : Anchor)
  /-- What the group of this number matched last. -/
  | reference (group : Nat)
  | sequence (first second : Node)
  /-- The second is tried where the first does not lead to a match. -/
  | choice (first second : Node)
  | capture (group : Nat) (body : Node)
  | flagged (on off : Flags) (body : Node)
  | repetition (bounds : Bounds) (greed : Greed) (body : Node)
  /-- Only the first way to match counts. -/
  | atomic (body : Node)
  /-- What follows matches, or must not. -/
  | ahead (wanted : Bool) (body : Node)
  /-- What stands before, of this length, matches or must not. -/
  | behind (wanted : Bool) (length : Nat) (body : Node)
  /-- The first if the group has matched, the second otherwise. -/
  | conditional (group : Nat) (yes no : Node)
  deriving DecidableEq, Repr

/-- The lengths of the texts that a pattern matches lie between these; there may be no greatest. -/
structure Width where
  least : Nat
  most : Option Nat
  deriving DecidableEq, Repr

namespace Width

def exactly (n : Nat) : Width := ⟨n, some n⟩

def plus (v w : Width) : Width where
  least := v.least + w.least
  most := match v.most, w.most with
    | some m, some n => some (m + n)
    | _, _ => none

def either (v w : Width) : Width where
  least := min v.least w.least
  most := match v.most, w.most with
    | some m, some n => some (max m n)
    | _, _ => none

def times (bounds : Bounds) (w : Width) : Width where
  least := bounds.least * w.least
  most := match bounds.most, w.most with
    | some n, some m => some (n * m)
    | some 0, none => some 0
    | none, some 0 => some 0
    | _, _ => none

def fixed? (w : Width) : Option Nat := if w.most = some w.least then some w.least else none

end Width

namespace Node

def ofList (nodes : List Node) : Node := nodes.foldr .sequence .empty

def ofChoices (first : Node) : List Node → Node
  | [] => first
  | second :: rest => .choice first (ofChoices second rest)

def width (group : Nat → Width) : Node → Width
  | .empty | .anchor _ | .ahead _ _ | .behind _ _ _ => .exactly 0
  | .single _ => .exactly 1
  | .reference n => group n
  | .sequence a b => (a.width group).plus (b.width group)
  | .choice a b | .conditional _ a b => (a.width group).either (b.width group)
  | .capture _ n | .flagged _ _ n | .atomic n => n.width group
  | .repetition bounds _ n => .times bounds (n.width group)

end Node

end FieldRules.Regex
