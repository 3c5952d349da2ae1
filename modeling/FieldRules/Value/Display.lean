import FieldRules.Fault
import FieldRules.Text.Bytes
import FieldRules.Value
import FieldRules.Decimal.Shortest

/-!
The text of a value as part of a larger text: texts in quotes, containers item by item.
-/

namespace FieldRules.Value

def bracketed (opening closing : String) (items : List Text) : Text :=
  opening.toList ++ Text.join ", ".toList items ++ closing.toList

def integerText (n : Int) : Except Fault Text :=
  if Decimal.isTooLong n then .error .integerTooLong else .ok (Decimal.integer n)

mutual

def display : Value → Except Fault Text
  | .null => .ok "None".toList
  | .bool b => .ok (if b then "True".toList else "False".toList)
  | .int n => integerText n
  | .float _ x => .ok (Decimal.float x)
  | .text t => .ok t.quoted
  | .bytes bs => .ok (Bytes.quoted bs)
  | .list xs => (displayEach xs).map (bracketed "[" "]")
  | .tuple xs => (displayEach xs).map fun shown =>
      match shown with
      | [x] => '(' :: x ++ ",)".toList
      | _ => bracketed "(" ")" shown
  | .dict es => (displayEntries es).map (bracketed "\x7b" "\x7d")
  | .set xs => (displayEach xs).map fun shown =>
      if shown.isEmpty then "set()".toList else bracketed "\x7b" "\x7d" shown
  | .frozenset xs => (displayEach xs).map fun shown =>
      if shown.isEmpty then "frozenset()".toList
      else bracketed "frozenset(\x7b" "\x7d)" shown
  | .foreign _ shown => .ok shown
termination_by structural v => v

def displayEach : List Value → Except Fault (List Text)
  | [] => .ok []
  | x :: xs =>
    match display x with
    | .error e => .error e
    | .ok t => (displayEach xs).map (t :: ·)
termination_by structural xs => xs

def displayEntry : Value × Value → Except Fault Text
  | (k, v) =>
    match display k with
    | .error e => .error e
    | .ok s => (display v).map fun t => s ++ ": ".toList ++ t
termination_by structural e => e

def displayEntries : List (Value × Value) → Except Fault (List Text)
  | [] => .ok []
  | e :: es =>
    match displayEntry e with
    | .error e => .error e
    | .ok t => (displayEntries es).map (t :: ·)
termination_by structural es => es

end

def print : Value → Except Fault Text
  | .text t => .ok t
  | v => v.display

end FieldRules.Value
