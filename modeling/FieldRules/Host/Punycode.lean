import FieldRules.Text

/-!
Punycode: a label of any characters as letters, digits and hyphens. The other characters are left
out, and what follows the last hyphen says, in their order, which they are and where they stand.
-/

namespace FieldRules.Host.Punycode

def digit (d : Nat) : Char := if d < 26 then Char.ofNat (97 + d) else Char.ofNat (22 + d)

def digit? (c : Char) : Option Nat :=
  if c.isLower then some (c.toNat - 97)
  else if c.isDigit then some (c.toNat - 22)
  else none

/-- What a digit must be below to end its number; `k` is 36 for the first digit, 72 for the
second, and so on. -/
def threshold (k bias : Nat) : Nat := max 1 (min 26 (k - bias))

/-- Divides by 35 until at most 455 is left, and counts 36 for each time. -/
def settle : Nat → Nat → Nat → Nat × Nat
  | 0, delta, k => (delta, k)
  | n + 1, delta, k => if 455 < delta then settle n (delta / 35) (k + 36) else (delta, k)

/-- The bias after `delta` has been written as number `count`. -/
def adapt (delta count : Nat) (isFirst : Bool) : Nat :=
  let halved := if isFirst then delta / 700 else delta / 2
  let (delta, k) := settle delta (halved + halved / count) 0
  k + 36 * delta / (delta + 38)

def numberFrom : Nat → Nat → Nat → Nat → Text
  | 0, _, _, _ => []
  | fuel + 1, bias, k, n =>
    let t := threshold k bias
    if n < t then [digit n]
    else digit (t + (n - t) % (36 - t)) :: numberFrom fuel bias (k + 36) ((n - t) / (36 - t))

def number (bias n : Nat) : Text := numberFrom (n + 1) bias 36 n

structure Encoding where
  output : Text
  delta : Nat
  bias : Nat
  /-- Characters written so far, and how many of them are basic. -/
  count : Nat
  basic : Nat

def Encoding.pass (code : Nat) (e : Encoding) (c : Char) : Encoding :=
  if c.toNat < code then { e with delta := e.delta + 1 }
  else if c.toNat = code then
    { e with
      output := e.output ++ number e.bias e.delta
      delta := 0
      bias := adapt e.delta (e.count + 1) (e.count = e.basic)
      count := e.count + 1 }
  else e

/-- Writes all characters with the given code points, which are sorted; those below `from` are
written. -/
def encodeCodes (t : Text) : List Nat → Nat → Encoding → Encoding
  | [], _, e => e
  | code :: codes, start, e =>
    let reached := { e with delta := e.delta + (code - start) * (e.count + 1) }
    let passed := t.foldl (Encoding.pass code) reached
    encodeCodes t codes (code + 1) { passed with delta := passed.delta + 1 }

def encode (t : Text) : Text :=
  let basic := t.filter (·.toNat < 128)
  let codes := ((t.filter (128 ≤ ·.toNat)).map Char.toNat).eraseDups.mergeSort (· ≤ ·)
  let written := encodeCodes t codes 128 ⟨[], 0, 72, basic.length, basic.length⟩
  (if basic.isEmpty then [] else basic ++ ['-']) ++ written.output

structure Decoding where
  output : Text
  code : Nat
  position : Nat
  bias : Nat
  isFirst : Bool
  /-- The number that is being read, the weight of its next digit, and that digit's `k`. -/
  delta : Nat
  weight : Nat
  k : Nat

/-- The number has ended: it says where the next character stands and which it is. -/
def Decoding.insert? (d : Decoding) (delta : Nat) : Option Decoding :=
  let count := d.output.length + 1
  let code := d.code + (d.position + delta) / count
  let position := (d.position + delta) % count
  if code.isValidChar then
    some {
      output := d.output.take position ++ Char.ofNat code :: d.output.drop position
      code
      position := position + 1
      bias := adapt delta count d.isFirst
      isFirst := false
      delta := 0
      weight := 1
      k := 36 }
  else none

def Decoding.read? (d : Decoding) (c : Char) : Option Decoding :=
  match digit? c with
  | none => none
  | some x =>
    let t := threshold d.k d.bias
    let delta := d.delta + x * d.weight
    if x < t then d.insert? delta
    else some { d with delta, weight := d.weight * (36 - t), k := d.k + 36 }

def splitLast (t : Text) : Text × Text :=
  match Text.cut '-' t.reverse with
  | (after, some before) => (before.reverse, after.reverse)
  | (after, none) => ([], after.reverse)

def decode? (t : Text) : Option Text :=
  let (basic, numbers) := splitLast t
  match numbers.foldlM Decoding.read? ⟨basic, 128, 0, 72, true, 0, 1, 36⟩ with
  | some d => if d.k = 36 then some d.output else none
  | none => none

end FieldRules.Host.Punycode
