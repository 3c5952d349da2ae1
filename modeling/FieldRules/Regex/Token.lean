import FieldRules.Text

/-!
The tokens of a pattern: characters, and characters behind a backslash. Each character of a
pattern belongs to one token.
-/

namespace FieldRules.Regex

inductive Token where
  | plain (c : Char)
  | escaped (c : Char)
  /-- A backslash with nothing behind it. -/
  | dangling
  deriving DecidableEq, Repr

namespace Token

def ofText : Text → List Token
  | [] => []
  | ['\\'] => [.dangling]
  | '\\' :: c :: t => .escaped c :: ofText t
  | c :: t => .plain c :: ofText t

def text : Token → Text
  | .plain c => [c]
  | .escaped c => ['\\', c]
  | .dangling => ['\\']

def isDigit : Token → Bool
  | .plain c => c.isDigit
  | _ => false

def digit? (base : Nat) : Token → Option Nat
  | .plain c =>
    let d :=
      if c.isDigit then c.toNat - '0'.toNat
      else if 'a' ≤ c && c ≤ 'f' then c.toNat - 'a'.toNat + 10
      else if 'A' ≤ c && c ≤ 'F' then c.toNat - 'A'.toNat + 10
      else base
    if d < base then some d else none
  | _ => none

def digits (base : Nat) : Nat → List Token → List Nat × List Token
  | n + 1, t :: ts =>
    match t.digit? base with
    | some d => let (ds, rest) := digits base n ts; (d :: ds, rest)
    | none => ([], t :: ts)
  | _, ts => ([], ts)

def number (base : Nat) (ds : List Nat) : Nat := ds.foldl (fun n d => base * n + d) 0

def upTo (stop : Char) : List Token → Option (Text × List Token)
  | [] => none
  | t :: ts =>
    if t = .plain stop then some ([], ts)
    else (upTo stop ts).map fun (text, rest) => (t.text ++ text, rest)

/-- Cutting a body into tokens loses nothing. -/
theorem flatMap_text_ofText (t : Text) : (ofText t).flatMap text = t := by
  fun_induction ofText t <;> simp_all [text]

end Token

end FieldRules.Regex
