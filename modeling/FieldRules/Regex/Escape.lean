import FieldRules.Regex.Node
import FieldRules.Regex.Refusal
import FieldRules.Regex.Token
import FieldRules.Unicode.Name

/-!
Escapes: a backslash, the character behind it, and the tokens that belong to it.
-/

namespace FieldRules.Regex

inductive Escape where
  | single (s : Single)
  | anchor (a : Anchor)
  | reference (group : Nat)
  deriving DecidableEq, Repr

namespace Escape

def lastCodePoint : Nat := 0x10ffff

def octalLimit : Nat := 0o377

def anchor? : Char → Option Anchor
  | 'A' => some .textStart
  | 'Z' => some .textEnd
  | 'b' => some .edge
  | 'B' => some .noEdge
  | _ => none

def class? : Char → Option SetItem
  | 'd' => some (.charClass .digit false)
  | 'D' => some (.charClass .digit true)
  | 's' => some (.charClass .space false)
  | 'S' => some (.charClass .space true)
  | 'w' => some (.charClass .word false)
  | 'W' => some (.charClass .word true)
  | _ => none

def control? : Char → Option Nat
  | 'a' => some 7
  | 't' => some 9
  | 'n' => some 10
  | 'v' => some 11
  | 'f' => some 12
  | 'r' => some 13
  | _ => none

def hexadecimal (n : Nat) (ts : List Token) : Except Refusal (Nat × List Token) :=
  let (ds, rest) := Token.digits 16 n ts
  if ds.length = n ∧ Token.number 16 ds ≤ lastCodePoint then .ok (Token.number 16 ds, rest)
  else .error .malformed

def octal (ds : List Nat) (rest : List Token) : Except Refusal (Nat × List Token) :=
  if ds ≠ [] ∧ Token.number 8 ds ≤ octalLimit then .ok (Token.number 8 ds, rest)
  else .error .malformed

def named : List Token → Except Refusal (Nat × List Token)
  | .plain '\x7b' :: ts =>
    match Token.upTo '\x7d' ts with
    | some (name, rest) =>
      match Unicode.named? name with
      | some n => .ok (n, rest)
      | none => .error .malformed
    | none => .error .malformed
  | _ => .error .malformed

/-- The code point that a character other than a digit stands for behind a backslash. Letters
without a meaning of their own may not stand there. -/
def code (c : Char) (ts : List Token) : Except Refusal (Nat × List Token) :=
  match control? c with
  | some n => .ok (n, ts)
  | none =>
    if c = 'x' then hexadecimal 2 ts
    else if c = 'u' then hexadecimal 4 ts
    else if c = 'U' then hexadecimal 8 ts
    else if c = 'N' then named ts
    else if c.isAlpha then .error .malformed
    else .ok (c.toNat, ts)

/-- An escape in a set. Digits are octal there. -/
def inSet (c : Char) (ts : List Token) : Except Refusal (SetItem × List Token) :=
  match class? c with
  | some item => .ok (item, ts)
  | none => do
    let (n, rest) ←
      if c = 'b' then .ok (8, ts)
      else if c.isDigit then
        let (ds, rest) := Token.digits 8 3 (.plain c :: ts)
        octal ds rest
      else code c ts
    return (.code n, rest)

/-- An escape outside of sets. Digits are octal after a zero and where there are three of them, and
name a group otherwise. -/
def read (c : Char) (ts : List Token) : Except Refusal (Escape × List Token) :=
  match anchor? c, class? c with
  | some a, _ => .ok (.anchor a, ts)
  | none, some item => .ok (.single (.set [item] false), ts)
  | none, none =>
    let (ds, rest) := Token.digits 8 3 (.plain c :: ts)
    if c = '0' ∨ ds.length = 3 then do
      let (n, rest) ← octal ds rest
      return (.single (.code n false), rest)
    else if c.isDigit then
      let (ds, rest) := Token.digits 10 2 (.plain c :: ts)
      .ok (.reference (Token.number 10 ds), rest)
    else do
      let (n, rest) ← code c ts
      return (.single (.code n false), rest)

end Escape

end FieldRules.Regex
