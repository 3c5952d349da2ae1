import FieldRules.Decimal.Integer
import FieldRules.Text.Quoted

/-!
What can go wrong while a value is looked at. A fault is neither a pass nor a failure of the value.
-/

namespace FieldRules

/-- A name that an expression gives to two groups. -/
structure Redefinition where
  name : Char
  /-- The number of the group that takes the name again, and that of the one that has it. -/
  group : Nat
  earlier : Nat
  /-- Where the name stands the second time. -/
  position : Nat
  deriving DecidableEq, Repr

inductive Fault where
  /-- A whole number has more digits than can be written. -/
  | integerTooLong
  /-- A text has the form of a number and cannot be read as one. -/
  | unreadableNumber (t : Text)
  /-- A pattern repeats something more often than can be counted. -/
  | repetitionTooLarge
  /-- A number of repetitions has more digits than can be read. -/
  | countTooLong (digits : Nat)
  /-- A pattern asks for the letters of ASCII and for those of all scripts. -/
  | lettersOfTwoKinds
  /-- The stack of calls has run out. -/
  | nestingTooDeep {problem : Text}
  /-- A date format names the same part of a date twice. -/
  | repeatedDirective (again : Redefinition)
  /-- A format has `count` code points in a row, from the place `first` on, that are no characters; the
  first of them is `code`. -/
  | loneSurrogates (code first count : Nat)
  /-- The settings that a request needs cannot be read. -/
  | badSettings (problem : Text)
  /-- The network failed in a way that says nothing about the address. -/
  | network (problem : Text)
  /-- A value that can change was looked up among names. -/
  | mutableName (kind : Text)
  /-- A checker gave up by itself. -/
  | raised (problem : Text)
  deriving DecidableEq, Repr

def Fault.message : Fault → Text
  | .integerTooLong => ("Exceeds the limit (4300 digits) for integer string conversion; " ++
      "use sys.set_int_max_str_digits() to increase the limit").toList
  | .unreadableNumber t => "could not convert string to float: ".toList ++ t.quoted
  | .repetitionTooLarge => "the repetition number is too large".toList
  | .countTooLong digits =>
    "Exceeds the limit (4300 digits) for integer string conversion: value has ".toList ++
      Decimal.natural digits ++
      " digits; use sys.set_int_max_str_digits() to increase the limit".toList
  | .lettersOfTwoKinds => "ASCII and UNICODE flags are incompatible".toList
  | @Fault.nestingTooDeep problem | .badSettings problem | .network problem | .raised problem => problem
  | .repeatedDirective again =>
    "redefinition of group name ".toList ++ Text.quoted [again.name] ++ " as group ".toList ++
      Decimal.natural again.group ++ "; was group ".toList ++ Decimal.natural again.earlier ++
      " at position ".toList ++ Decimal.natural again.position
  | .loneSurrogates code first count =>
    (if count = 1 then
      "'utf-8' codec can't encode character '\\u".toList ++ Text.hexadecimal 4 code ++
        "' in position ".toList ++ Decimal.natural first
    else
      "'utf-8' codec can't encode characters in position ".toList ++ Decimal.natural first ++
        '-' :: Decimal.natural (first + count - 1)) ++
      ": surrogates not allowed".toList
  | .mutableName kind => "unhashable type: ".toList ++ kind.quoted

end FieldRules
