import FieldRules.Value

/-!
Equality of values. Numbers of different kinds are compared by the number they denote, and inside
a container one and the same object equals itself even when it is no number.
-/

namespace FieldRules.Value

def matchesAtom : Value → Value → Bool
  | .null, .null => true
  | .text s, .text t => s == t
  | .bytes s, .bytes t => s == t
  | .foreign i _, .foreign j _ => i == j
  | .float i x, .float j y => (i == j && x == y) || Number.equal (.float x) (.float y)
  | a, b =>
    match a.number?, b.number? with
    | some m, some n => m.equal n
    | _, _ => false

mutual

/-- Equal or the same object. Sets, and dictionaries, are equal if each holds what the other
holds. -/
def matchesValue : Value → Value → Bool
  | .list xs, .list ys => matchesEach xs ys
  | .tuple xs, .tuple ys => matchesEach xs ys
  | .set xs, .set ys | .set xs, .frozenset ys | .frozenset xs, .set ys
  | .frozenset xs, .frozenset ys =>
    xs.length == ys.length && allHeld xs ys && ys.all (holds xs)
  | .dict xs, .dict ys =>
    xs.length == ys.length && allEntriesHeld xs ys && ys.all (holdsEntry xs)
  | a, b => matchesAtom a b
termination_by structural a => a

def matchesEach : List Value → List Value → Bool
  | [], [] => true
  | x :: xs, y :: ys => matchesValue x y && matchesEach xs ys
  | _, _ => false
termination_by structural xs => xs

def holds : List Value → Value → Bool
  | [], _ => false
  | x :: xs, y => matchesValue x y || holds xs y
termination_by structural xs => xs

def allHeld : List Value → List Value → Bool
  | [], _ => true
  | x :: xs, ys => ys.any (fun y => matchesValue x y) && allHeld xs ys
termination_by structural xs => xs

def matchesEntry : Value × Value → Value × Value → Bool
  | (k, v), e => matchesValue k e.1 && matchesValue v e.2
termination_by structural e => e

def holdsEntry : List (Value × Value) → Value × Value → Bool
  | [], _ => false
  | e :: es, f => matchesEntry e f || holdsEntry es f
termination_by structural es => es

def allEntriesHeld : List (Value × Value) → List (Value × Value) → Bool
  | [], _ => true
  | e :: es, fs => fs.any (fun f => matchesEntry e f) && allEntriesHeld es fs
termination_by structural es => es

end

/-- Equality outside containers: no number equals nothing, not even itself. -/
def equal : Value → Value → Bool
  | .float _ x, .float _ y => Number.equal (.float x) (.float y)
  | a, b => matchesValue a b

def distinctItems (items : List Value) : List Value :=
  items.foldl (fun seen x => if holds seen x then seen else seen ++ [x]) []

/-- The entry under a key that is already there takes the new value and keeps the old key. -/
def putEntry (key value : Value) : List (Value × Value) → List (Value × Value)
  | [] => [(key, value)]
  | (k, v) :: rest =>
    if matchesValue k key then (k, value) :: rest else (k, v) :: putEntry key value rest

def setOf (items : List Value) : Value := .set (distinctItems items)

def frozensetOf (items : List Value) : Value := .frozenset (distinctItems items)

def dictOf (entries : List (Value × Value)) : Value :=
  .dict (entries.foldl (fun es e => putEntry e.1 e.2 es) [])

end FieldRules.Value
