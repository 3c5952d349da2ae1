/-!
Tables of code points, packed: a record is a natural number whose lowest bits are its key, and a
row is a natural number holding several records. Records are sorted by key.
-/

namespace FieldRules.Unicode

structure Packed where
  keyBits : Nat
  width : Nat
  perRow : Nat
  size : Nat
  rows : Array Nat

namespace Packed

def record (t : Packed) (i : Nat) : Nat :=
  (t.rows.getD (i / t.perRow) 0 >>> (t.width * (i % t.perRow))) % Nat.pow 2 t.width

def key (t : Packed) (i : Nat) : Nat := t.record i % Nat.pow 2 t.keyBits

/-- Halving search: the last of the `2 ^ k` records from `i` on whose key is at most `x`. -/
def lastUpTo (t : Packed) (x : Nat) : Nat → Nat → Nat
  | 0, i => i
  | k + 1, i =>
    let j := i + Nat.pow 2 k
    t.lastUpTo x k (if j < t.size ∧ t.key j ≤ x then j else i)

/-- What follows the key in the last record whose key is at most `x`, with that key. -/
def below? (t : Packed) (x : Nat) : Option (Nat × Nat) :=
  let r := t.record (t.lastUpTo x (t.size.log2 + 1) 0)
  let key := r % Nat.pow 2 t.keyBits
  if 0 < t.size ∧ key ≤ x then some (key, r >>> t.keyBits) else none

def at? (t : Packed) (x : Nat) : Option Nat :=
  match t.below? x with
  | some (key, rest) => if key = x then some rest else none
  | none => none

def covers (t : Packed) (c : Char) : Bool :=
  match t.below? c.toNat with
  | some (_, last) => c.toNat ≤ last
  | none => false

/-- The table holds runs of characters that are mapped in step, either each of them or every
second one; a character in no run is mapped to itself. -/
def step (t : Packed) (c : Char) : Char :=
  match t.below? c.toNat with
  | some (first, rest) =>
    let last := rest % Nat.pow 2 21
    let image := (rest >>> 21) % Nat.pow 2 21
    let alternate := rest >>> 42 = 1
    if c.toNat ≤ last ∧ (alternate → (c.toNat - first) % 2 = 0) then
      Char.ofNat (image + (c.toNat - first))
    else c
  | none => c

/-- The characters that `code` lists, 21 bits each, up to a zero. -/
def spelling : Nat → Nat → List Char
  | 0, _ => []
  | n + 1, code =>
    if code % Nat.pow 2 21 = 0 then [] else Char.ofNat (code % Nat.pow 2 21) :: spelling n (code >>> 21)

def sequence? (t : Packed) (c : Char) : Option (List Char) :=
  (t.at? c.toNat).map (spelling (t.width / 21))

end Packed

end FieldRules.Unicode
