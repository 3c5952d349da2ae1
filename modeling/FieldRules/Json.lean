import FieldRules.Decimal.Integer
import FieldRules.Fault

/-!
Strict JSON texts, read one character at a time with a stack of the arrays and objects that are
still open. There are no names for infinite or undefined numbers.
-/

namespace FieldRules.Json

inductive Container where
  | array
  | object
  deriving DecidableEq, Repr

/-- Where the next character stands, and inside a string whether the string is a key. -/
inductive Place where
  /-- A value must come. -/
  | value
  /-- A value, or the end of an array without items. -/
  | firstItem
  /-- A key, or the end of an object without entries. -/
  | firstKey
  | key
  | colon
  /-- A value has ended. -/
  | done
  | string (isKey : Bool)
  | escape (isKey : Bool)
  /-- This many hexadecimal digits must come. -/
  | hexadecimal (left : Nat) (isKey : Bool)
  | minus
  | zero
  /-- After this many digits of a whole number that does not start with zero. -/
  | whole (digits : Nat)
  | point
  | fraction
  | exponent
  | exponentSign
  | exponentDigits
  /-- The rest of a literal name must come. -/
  | name (rest : Text)
  deriving DecidableEq, Repr

structure State where
  place : Place
  inside : List Container
  deriving DecidableEq, Repr

inductive Refusal where
  | malformed
  | tooDeep (container : Container)
  deriving DecidableEq, Repr

def isBlank (c : Char) : Bool := c = ' ' || c = '\t' || c = '\n' || c = '\r'

def isHexadecimal (c : Char) : Bool :=
  c.isDigit || ('a' ≤ c && c ≤ 'f') || ('A' ≤ c && c ≤ 'F')

def isShortEscape (c : Char) : Bool := "\"\\/bfnrt".toList.contains c

def malformed : Except Refusal State := .error .malformed

/-- Opens an array or an object, which may have `depth` of them around it and itself. -/
def enter (depth : Nat) (inside : List Container) (container : Container) : Except Refusal State :=
  if inside.length < depth then
    .ok ⟨match container with
      | .array => .firstItem
      | .object => .firstKey, container :: inside⟩
  else .error (.tooDeep container)

def opening (depth : Nat) (inside : List Container) (c : Char) : Except Refusal State :=
  if c = '"' then .ok ⟨.string false, inside⟩
  else if c = '[' then enter depth inside .array
  else if c = '\x7b' then enter depth inside .object
  else if c = '-' then .ok ⟨.minus, inside⟩
  else if c = '0' then .ok ⟨.zero, inside⟩
  else if c.isDigit then .ok ⟨.whole 1, inside⟩
  else if c = 't' then .ok ⟨.name "rue".toList, inside⟩
  else if c = 'f' then .ok ⟨.name "alse".toList, inside⟩
  else if c = 'n' then .ok ⟨.name "ull".toList, inside⟩
  else malformed

def following (inside : List Container) (c : Char) : Except Refusal State :=
  if isBlank c then .ok ⟨.done, inside⟩
  else match inside with
    | .array :: outside =>
      if c = ',' then .ok ⟨.value, inside⟩
      else if c = ']' then .ok ⟨.done, outside⟩
      else malformed
    | .object :: outside =>
      if c = ',' then .ok ⟨.key, inside⟩
      else if c = '\x7d' then .ok ⟨.done, outside⟩
      else malformed
    | [] => malformed

def afterWhole (inside : List Container) (c : Char) : Except Refusal State :=
  if c = '.' then .ok ⟨.point, inside⟩
  else if c = 'e' ∨ c = 'E' then .ok ⟨.exponent, inside⟩
  else following inside c

def step (depth : Nat) (s : State) (c : Char) : Except Refusal State :=
  match s.place with
  | .value => if isBlank c then .ok s else opening depth s.inside c
  | .firstItem =>
    if isBlank c then .ok s
    else if c = ']' then .ok ⟨.done, s.inside.tail⟩
    else opening depth s.inside c
  | .firstKey =>
    if isBlank c then .ok s
    else if c = '\x7d' then .ok ⟨.done, s.inside.tail⟩
    else if c = '"' then .ok ⟨.string true, s.inside⟩
    else malformed
  | .key =>
    if isBlank c then .ok s
    else if c = '"' then .ok ⟨.string true, s.inside⟩
    else malformed
  | .colon =>
    if isBlank c then .ok s else if c = ':' then .ok ⟨.value, s.inside⟩ else malformed
  | .done => following s.inside c
  | .string isKey =>
    if c = '"' then .ok ⟨if isKey then .colon else .done, s.inside⟩
    else if c = '\\' then .ok ⟨.escape isKey, s.inside⟩
    else if c.toNat < 32 then malformed
    else .ok s
  | .escape isKey =>
    if isShortEscape c then .ok ⟨.string isKey, s.inside⟩
    else if c = 'u' then .ok ⟨.hexadecimal 4 isKey, s.inside⟩
    else malformed
  | .hexadecimal left isKey =>
    if isHexadecimal c then
      .ok ⟨if left ≤ 1 then .string isKey else .hexadecimal (left - 1) isKey, s.inside⟩
    else malformed
  | .minus =>
    if c = '0' then .ok ⟨.zero, s.inside⟩
    else if c.isDigit then .ok ⟨.whole 1, s.inside⟩
    else malformed
  | .zero => afterWhole s.inside c
  | .whole digits =>
    if c.isDigit then .ok ⟨.whole (digits + 1), s.inside⟩
    else if c = '.' ∨ c = 'e' ∨ c = 'E' ∨ digits ≤ Decimal.digitLimit then afterWhole s.inside c
    else malformed
  | .point => if c.isDigit then .ok ⟨.fraction, s.inside⟩ else malformed
  | .fraction =>
    if c.isDigit then .ok s
    else if c = 'e' ∨ c = 'E' then .ok ⟨.exponent, s.inside⟩
    else following s.inside c
  | .exponent =>
    if c = '+' ∨ c = '-' then .ok ⟨.exponentSign, s.inside⟩
    else if c.isDigit then .ok ⟨.exponentDigits, s.inside⟩
    else malformed
  | .exponentSign => if c.isDigit then .ok ⟨.exponentDigits, s.inside⟩ else malformed
  | .exponentDigits => if c.isDigit then .ok s else following s.inside c
  | .name rest =>
    match rest with
    | [] => following s.inside c
    | d :: rest => if c = d then .ok ⟨.name rest, s.inside⟩ else malformed

def State.isFinal (s : State) : Bool :=
  s.inside.isEmpty && match s.place with
    | .done | .zero | .fraction | .exponentDigits | .name [] => true
    | .whole digits => digits ≤ Decimal.digitLimit
    | _ => false

def start : State := ⟨.value, []⟩

def run (depth : Nat) : State → Text → Except Refusal State
  | s, [] => .ok s
  | s, c :: t =>
    match step depth s c with
    | .ok s' => run depth s' t
    | .error e => .error e

def Container.problem : Container → Text
  | .array =>
    "maximum recursion depth exceeded while decoding a JSON array from a unicode string".toList
  | .object =>
    "maximum recursion depth exceeded while decoding a JSON object from a unicode string".toList

/-- Whether `t` is one JSON value with blanks around it. A text that nests deeper than `depth` before
anything is wrong with it is not judged. -/
def isDocument (depth : Nat) (t : Text) : Except Fault Bool :=
  match run depth start t with
  | .ok s => .ok s.isFinal
  | .error .malformed => .ok false
  | .error (.tooDeep container) => .error (@Fault.nestingTooDeep container.problem)

end FieldRules.Json
