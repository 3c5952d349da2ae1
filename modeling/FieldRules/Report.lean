import FieldRules.FieldMap

/-!
Reports: the failure messages of each field, in the order in which they arose. A field without
failures is not in a report that is built.
-/

namespace FieldRules

structure Report where
  errors : FieldMap (List Text)
  fieldsChecked : Int
  rulesChecked : Int

namespace Report

def build (errors : FieldMap (List Text)) (fieldsChecked rulesChecked : Int) : Report where
  errors := errors.filter (!·.isEmpty)
  fieldsChecked
  rulesChecked

def passed (r : Report) : Bool := r.errors.entries.isEmpty

def messages (r : Report) : List Text := r.errors.entries.flatMap (·.2)

def count (r : Report) : Nat := (r.errors.entries.map (·.2.length)).foldr (· + ·) 0

def has (r : Report) (field : Text) : Bool := r.errors.contains field

def get (r : Report) (field : Text) : List Text := (r.errors.get? field).getD []

def first? (r : Report) (field : Text) : Option Text := (r.get field).head?

def add (r : Report) (field message : Text) : Report :=
  { r with errors := r.errors.alter field fun messages => messages.getD [] ++ [message] }

def agrees (r s : Report) : Bool :=
  r.errors.agrees s.errors && r.fieldsChecked == s.fieldsChecked &&
    r.rulesChecked == s.rulesChecked

end Report

end FieldRules
