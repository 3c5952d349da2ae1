import FieldRules.Unicode.Tables.Canonical

/-!
Canonical composition: characters are taken apart, marks are put in order, and what can be written
as one character is.
-/

namespace FieldRules.Unicode

def combiningClass (c : Char) : Nat :=
  if c.toNat < 0x300 then 0
  else match Tables.combiningClasses.below? c.toNat with
    | some (_, k) => k
    | none => 0

def decomposeSyllable (c : Char) : List Char :=
  let s := c.toNat - 0xac00
  let trailing := s % 28
  Char.ofNat (0x1100 + s / 588) :: Char.ofNat (0x1161 + s % 588 / 28) ::
    if trailing = 0 then [] else [Char.ofNat (0x11a7 + trailing)]

def isSyllable (c : Char) : Bool := 0xac00 ≤ c.toNat && c.toNat < 0xac00 + 11172

/-- Takes `c` apart, and the first part again, `n` times at most. -/
def decomposeWithin : Nat → Char → List Char
  | 0, c => [c]
  | n + 1, c =>
    if c.toNat < 0xc0 then [c]
    else if isSyllable c then decomposeSyllable c
    else match Tables.pairs.at? c.toNat with
      | some parts =>
        decomposeWithin n (Char.ofNat (parts % Nat.pow 2 21)) ++
          decomposeWithin n (Char.ofNat (parts >>> 21))
      | none =>
        let d := Tables.singletons.step c
        if d = c then [c] else decomposeWithin n d

def decompose (c : Char) : List Char := decomposeWithin 5 c

/-- Puts a mark before the marks of greater class at the end of a text that is given backwards. -/
def insertMark (c : Char) (k : Nat) : List Char → List Char
  | [] => [c]
  | d :: before =>
    if k ≠ 0 ∧ k < combiningClass d then d :: insertMark c k before else c :: d :: before

def decomposed (t : List Char) : List Char :=
  ((t.flatMap decompose).foldl (fun before c => insertMark c (combiningClass c) before) []).reverse

def composeSyllable? (a b : Char) : Option Char :=
  let x := a.toNat
  let y := b.toNat
  if 0x1100 ≤ x ∧ x < 0x1113 ∧ 0x1161 ≤ y ∧ y < 0x1176 then
    some (Char.ofNat (0xac00 + ((x - 0x1100) * 21 + (y - 0x1161)) * 28))
  else if isSyllable a ∧ (x - 0xac00) % 28 = 0 ∧ 0x11a8 ≤ y ∧ y < 0x11c3 then
    some (Char.ofNat (x + (y - 0x11a7)))
  else none

def compose? (a b : Char) : Option Char :=
  match composeSyllable? a b with
  | some c => some c
  | none => (Tables.compositions.at? (b.toNat + a.toNat * Nat.pow 2 21)).map Char.ofNat

/-- Composes the characters that follow `starter` and the marks that stay after it, which are given
backwards. A mark is blocked by one of its own class or a greater one. -/
def composeAfter (starter : Char) (marks : List Char) : List Char → List Char
  | [] => starter :: marks.reverse
  | c :: t =>
    let k := combiningClass c
    let composed := if marks.all fun m => combiningClass m < k then compose? starter c else none
    match composed with
    | some d => composeAfter d marks t
    | none =>
      if k = 0 then starter :: marks.reverse ++ composeAfter c [] t
      else composeAfter starter (c :: marks) t

def composed : List Char → List Char
  | [] => []
  | c :: t => if combiningClass c = 0 then composeAfter c [] t else c :: composed t

def normal (t : List Char) : List Char :=
  if t.all fun c => c.toNat < 0xc0 then t else composed (decomposed t)

end FieldRules.Unicode
