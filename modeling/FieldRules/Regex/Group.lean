import FieldRules.Regex.Flags
import FieldRules.Regex.Refusal
import FieldRules.Regex.Token
import FieldRules.Unicode.Identifier

/-!
What an opening parenthesis begins.
-/

namespace FieldRules.Regex

inductive Group where
  | capture (name : Option Text)
  /-- A group that only holds together what is in it. -/
  | enclosing
  | flagged (on off : Flags)
  | atomic
  | ahead (wanted : Bool)
  | behind (wanted : Bool)
  /-- A condition and what depends on it. -/
  | conditional (condition : Text)
  | comment
  /-- Flags for the whole pattern. -/
  | settings (flags : Flags)
  | reference (name : Text)
  deriving DecidableEq, Repr

namespace Group

def flagsOn (f : Flags) : List Token → Except Refusal (Flags × Char × List Token)
  | .plain c :: ts =>
    if c = ')' ∨ c = '-' ∨ c = ':' then .ok (f, c, ts)
    else
      match Flags.ofLetter? c with
      | some g => if (f.union g).conflict then .error .malformed else flagsOn (f.union g) ts
      | none => .error .malformed
  | _ => .error .malformed

/-- Reads flags up to a colon. The kind of letters cannot be turned off. -/
def flagsOff (f : Flags) : List Token → Except Refusal (Flags × List Token)
  | .plain c :: ts =>
    if c = ':' then if f = {} then .error .malformed else .ok (f, ts)
    else
      match Flags.ofLetter? c with
      | some g => if g.ascii || g.unicode then .error .malformed else flagsOff (f.union g) ts
      | none => .error .malformed
  | _ => .error .malformed

/-- Flags for a group, which do not refuse repetitions and are not both on and off. -/
def flaggedGroup (on off : Flags) : Except Refusal Group :=
  if on.plain || off.plain || on.meets off then .error .malformed else .ok (.flagged on off)

def readFlags (ts : List Token) : Except Refusal (Group × List Token) := do
  let (on, c, rest) ← flagsOn {} ts
  if c = ')' then return (.settings on, rest)
  if c = ':' then return (← flaggedGroup on {}, rest)
  let (off, rest) ← flagsOff {} rest
  return (← flaggedGroup on off, rest)

def readName (stop : Char) (ts : List Token) : Except Refusal (Text × List Token) :=
  match Token.upTo stop ts with
  | some found => .ok found
  | none => .error .malformed

def readIdentifier (stop : Char) (ts : List Token) : Except Refusal (Text × List Token) := do
  let (name, rest) ← readName stop ts
  if Unicode.isIdentifier name then return (name, rest) else .error .malformed

/-- Reads what follows an opening parenthesis, up to where the inside of a group begins. -/
def read : List Token → Except Refusal (Group × List Token)
  | .plain '?' :: ts =>
    match ts with
    | .plain 'P' :: .plain '<' :: rest => do
      let (name, rest) ← readIdentifier '>' rest
      return (.capture (some name), rest)
    | .plain 'P' :: .plain '=' :: rest => do
      let (name, rest) ← readIdentifier ')' rest
      return (.reference name, rest)
    | .plain ':' :: rest => .ok (.enclosing, rest)
    | .plain '#' :: rest => do
      let (_, rest) ← readName ')' rest
      return (.comment, rest)
    | .plain '=' :: rest => .ok (.ahead true, rest)
    | .plain '!' :: rest => .ok (.ahead false, rest)
    | .plain '<' :: .plain '=' :: rest => .ok (.behind true, rest)
    | .plain '<' :: .plain '!' :: rest => .ok (.behind false, rest)
    | .plain '(' :: rest => do
      let (condition, rest) ← readName ')' rest
      return (.conditional condition, rest)
    | .plain '>' :: rest => .ok (.atomic, rest)
    | .plain ')' :: _ => .error .malformed
    | ts => readFlags ts
  | ts => .ok (.capture none, ts)

end Group

end FieldRules.Regex
