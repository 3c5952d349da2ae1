import FieldRules.Number

/-!
Submitted values. Two floating-point numbers that are no number are the same object only under
the same identity, and a foreign object is told from others by its identity alone.
-/

namespace FieldRules

inductive Value where
  | null
  | bool (b : Bool)
  | int (n : Int)
  | float (identity : Nat) (x : Binary64)
  | text (t : Text)
  | bytes (bs : List UInt8)
  | list (items : List Value)
  | tuple (items : List Value)
  | dict (entries : List (Value × Value))
  | set (items : List Value)
  | frozenset (items : List Value)
  | foreign (identity : Nat) (shown : Text)

namespace Value

instance : Inhabited Value := ⟨.null⟩

inductive Kind where
  | null | bool | int | float | text | bytes | list | tuple | dict | set | frozenset | foreign
  deriving DecidableEq, Repr

def kind : Value → Kind
  | .null => .null
  | .bool _ => .bool
  | .int _ => .int
  | .float _ _ => .float
  | .text _ => .text
  | .bytes _ => .bytes
  | .list _ => .list
  | .tuple _ => .tuple
  | .dict _ => .dict
  | .set _ => .set
  | .frozenset _ => .frozenset
  | .foreign _ _ => .foreign

def Kind.name : Kind → Text
  | .null => "NoneType".toList
  | .bool => "bool".toList
  | .int => "int".toList
  | .float => "float".toList
  | .text => "str".toList
  | .bytes => "bytes".toList
  | .list => "list".toList
  | .tuple => "tuple".toList
  | .dict => "dict".toList
  | .set => "set".toList
  | .frozenset => "frozenset".toList
  | .foreign => "Opaque".toList

def number? : Value → Option Number
  | .bool b => some (.integer (if b then 1 else 0))
  | .int n => some (.integer n)
  | .float _ x => some (.float x)
  | _ => none

mutual

/-- The kind of the first part of a value that can change; only values without such a part can be
looked up by. -/
def changingPart? : Value → Option Kind
  | .list _ => some .list
  | .dict _ => some .dict
  | .set _ => some .set
  | .tuple items => changingPartOf? items
  | _ => none
termination_by structural v => v

def changingPartOf? : List Value → Option Kind
  | [] => none
  | x :: xs =>
    match changingPart? x with
    | some kind => some kind
    | none => changingPartOf? xs
termination_by structural xs => xs

end

end Value

end FieldRules
