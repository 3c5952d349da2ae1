import FieldRules.Value
import FieldRules.Text.Quoted

/-!
Errors in a rule set, as opposed to failures of the values it is applied to.
-/

namespace FieldRules

inductive Expectation where
  | wholeNumber
  | nonNegative
  | bounds
  /-- A date format without this letter. -/
  | dateFormat (letter : Char)
  deriving DecidableEq, Repr

def Expectation.text : Expectation → Text
  | .wholeNumber => "a whole number".toList
  | .nonNegative => "a non-negative whole number".toList
  | .bounds => "two comma-separated bounds like 1,10".toList
  | .dateFormat letter =>
    "a supported date format (unsupported date format letter ".toList ++ Text.quoted [letter] ++
      [')']

inductive ArgumentProblem where
  | missing
  | unfit (expected : Expectation) (text : Text)
  deriving DecidableEq, Repr

inductive ConfigurationError where
  | definitionKind (kind : Value.Kind)
  | tokenKind (kind : Value.Kind)
  | unknownRule (name : Text) (inField : Option Text)
  | argument (name : Text) (problem : ArgumentProblem) (inField : Option Text)
  | registeredTwice (name : Text)
  deriving DecidableEq, Repr

namespace ConfigurationError

def rule : ConfigurationError → Option Text
  | .definitionKind _ | .tokenKind _ => none
  | .unknownRule name _ | .argument name _ _ | .registeredTwice name => some name

def field : ConfigurationError → Option Text
  | .unknownRule _ inField | .argument _ _ inField => inField
  | .definitionKind _ | .tokenKind _ | .registeredTwice _ => none

def place : Option Text → Text
  | none => []
  | some field => " (field '".toList ++ field ++ "')".toList

def about (name : Text) : Text := "Validation rule ".toList ++ name

def message : ConfigurationError → Text
  | .definitionKind kind =>
    "Rule definition must be a string or a list of strings, got ".toList ++ kind.name ++ ['.']
  | .tokenKind kind => "Rule token must be a string, got ".toList ++ kind.name ++ ['.']
  | .unknownRule name inField =>
    about name ++ " does not exist".toList ++ place inField ++ ['.']
  | .argument name .missing inField =>
    about name ++ " requires an argument.".toList ++ place inField
  | .argument name (.unfit expected text) inField =>
    about name ++ " expects ".toList ++ expected.text ++ ", got ".toList ++ text.quoted ++
      ['.'] ++ place inField
  | .registeredTwice name => about name ++ " is registered twice.".toList

end ConfigurationError

end FieldRules
