import FieldRules.Value.Display

/-!
How rules read a value: as a text, by its size, as a number, as nothing.
-/

namespace FieldRules.Value

/-- The text that a form would submit: nothing for an absent or false value, `1` for a true one,
an integral number without its point. -/
def asText : Value → Except Fault Text
  | .null | .bool false => .ok []
  | .bool true => .ok ['1']
  | .bytes bs => .ok (Bytes.decode bs)
  | .float _ x => if x.isIntegral then integerText x.toInt else .ok (Decimal.float x)
  | v => v.print

def measure : Value → Except Fault Nat
  | .list xs | .tuple xs | .set xs | .frozenset xs => .ok xs.length
  | .dict es => .ok es.length
  | v => v.asText.map List.length

def isEmpty : Value → Bool
  | .null | .bool false => true
  | .bool true => false
  | .int n => n = 0
  | .float _ x => Number.equal (.float x) (.integer 0)
  | .text t => List.isEmpty t
  | .bytes bs => bs.isEmpty
  | .list xs | .tuple xs | .set xs | .frozenset xs => xs.isEmpty
  | .dict es => es.isEmpty
  | .foreign _ _ => false

/-- Numbers, and texts of the form of a numeral with blanks around it. Truth values do not count. -/
def isNumber : Value → Bool
  | .int _ | .float _ _ => true
  | .text t => (Numeral.read? t.trim).isSome
  | _ => false

/-- An optional sign, and digits of which the first is ASCII and not a zero unless it is alone. -/
def isIntegerText (t : Text) : Bool :=
  match (Decimal.signed t.trim).2 with
  | ['0'] => true
  | c :: rest => '1' ≤ c && c ≤ '9' && rest.all Unicode.isDigit
  | [] => false

def isInteger : Value → Bool
  | .int _ => true
  | .float _ x => x.isIntegral
  | .text t => isIntegerText t
  | _ => false

def textNumber (t : Text) : Except Fault Binary64 :=
  match Numeral.read? (t.strip Unicode.isSpace) with
  | some n => .ok (.ofNumeral n)
  | none => .error (.unreadableNumber t)

/-- The number that a value stands for; meant for values that count as numbers. -/
def toNumber : Value → Except Fault Number
  | .int n => .ok (.integer n)
  | .float _ x => .ok (.float x)
  | .text t => (textNumber t).map .float
  | _ => .error (.unreadableNumber [])

end FieldRules.Value
