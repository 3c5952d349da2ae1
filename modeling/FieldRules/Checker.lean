import FieldRules.ConfigurationError
import FieldRules.Date.Format
import FieldRules.Fault

/-!
The checkers behind rule names: what each reads its argument as, and the one message it has for a
failure.
-/

namespace FieldRules

inductive Checker where
  | required | nullable | min | max | same | lowercase | uppercase | alphaNum | email | url
  | activeUrl | dateFormat | startsWith | endsWith | regex | numeric | integer | oneOf | distinct
  | between | json
  /-- A checker that gives up on every value. -/
  | faulty (name problem : Text)
  deriving DecidableEq, Repr

namespace Checker

def builtIn : List Checker := [
  .required, .nullable, .min, .max, .same, .lowercase, .uppercase, .alphaNum, .email, .url,
  .activeUrl, .dateFormat, .startsWith, .endsWith, .regex, .numeric, .integer, .oneOf, .distinct,
  .between, .json]

def name : Checker → Text
  | .required => "required".toList
  | .nullable => "nullable".toList
  | .min => "min".toList
  | .max => "max".toList
  | .same => "same".toList
  | .lowercase => "lowercase".toList
  | .uppercase => "uppercase".toList
  | .alphaNum => "alpha_num".toList
  | .email => "email".toList
  | .url => "url".toList
  | .activeUrl => "active_url".toList
  | .dateFormat => "date_format".toList
  | .startsWith => "starts_with".toList
  | .endsWith => "ends_with".toList
  | .regex => "regex".toList
  | .numeric => "numeric".toList
  | .integer => "integer".toList
  | .oneOf => "in".toList
  | .distinct => "distinct".toList
  | .between => "between".toList
  | .json => "json".toList
  | .faulty name _ => name

def requiresArgument : Checker → Bool
  | .min | .max | .same | .dateFormat | .startsWith | .endsWith | .regex | .oneOf | .between =>
    true
  | _ => false

/-- What a checker reads its argument as. A checker that needs none keeps what is there. -/
abbrev Argument : Checker → Type
  | .min | .max => Nat
  | .same | .startsWith | .endsWith | .regex => Text
  | .oneOf => List Text
  | .between => Text × Text
  | .dateFormat => DateFormat
  | _ => Option Text

def given : Option Text → Except ArgumentProblem Text
  | none | some [] => .error .missing
  | some raw => .ok raw

def parseLimit (raw : Text) : Except ArgumentProblem Nat :=
  match Decimal.integer? raw.trim with
  | some (.ofNat n) => .ok n
  | some (.negSucc _) => .error (.unfit .nonNegative raw)
  | none => .error (.unfit .wholeNumber raw)

def parseBounds (raw : Text) : Except ArgumentProblem (Text × Text) :=
  match (raw.split ',').map Text.trim with
  | [low, high] =>
    if low.isEmpty || high.isEmpty then .error (.unfit .bounds raw) else .ok (low, high)
  | _ => .error (.unfit .bounds raw)

def parseDateFormat (raw : Text) : Except ArgumentProblem DateFormat :=
  match DateFormat.ofPattern raw with
  | .ok format => .ok format
  | .error letter => .error (.unfit (.dateFormat letter) raw)

def parse : (c : Checker) → Option Text → Except ArgumentProblem c.Argument
  | .min, raw | .max, raw => given raw >>= parseLimit
  | .same, raw => (given raw).map Text.trim
  | .startsWith, raw | .endsWith, raw | .regex, raw => given raw
  | .oneOf, raw => (given raw).map (Text.split ',')
  | .between, raw => given raw >>= parseBounds
  | .dateFormat, raw => given raw >>= parseDateFormat
  | .required, raw | .nullable, raw | .lowercase, raw | .uppercase, raw | .alphaNum, raw
  | .email, raw | .url, raw | .activeUrl, raw | .numeric, raw | .integer, raw | .distinct, raw
  | .json, raw | .faulty _ _, raw => .ok raw

def requiredMessage : Text := "This field is required.".toList

/-- What is said of a value that could not be checked, and of one that fails. -/
def failureMessage : (c : Checker) → c.Argument → Text
  | .required, _ => requiredMessage
  | .nullable, _ => "This field failed the nullable rule.".toList
  | .min, limit =>
    "This field must be at least ".toList ++ Decimal.natural limit ++ " characters.".toList
  | .max, limit =>
    "This field must not be more than ".toList ++ Decimal.natural limit ++ " characters.".toList
  | .same, other => "This field must match the ".toList ++ other ++ " field.".toList
  | .lowercase, _ => "This field must be in lowercase.".toList
  | .uppercase, _ => "This field must be in uppercase.".toList
  | .alphaNum, _ => "This field must be alphanumeric.".toList
  | .email, _ => "This field must be a valid email address.".toList
  | .url, _ => "This field must be a valid URL.".toList
  | .activeUrl, _ => "This field must be an active URL.".toList
  | .dateFormat, format =>
    "This field must be a valid date with format ".toList ++ format.pattern ++ ['.']
  | .startsWith, beginning => "The value must start with ".toList ++ beginning ++ ['.']
  | .endsWith, ending => "The value must end with ".toList ++ ending ++ ['.']
  | .regex, _ => "The value does not match the required pattern.".toList
  | .numeric, _ => "This field must be a numeric value.".toList
  | .integer, _ => "This field must be an integer.".toList
  | .oneOf, values =>
    "This field must be one of the following values: ".toList ++ Text.join [','] values ++ ['.']
  | .distinct, _ => "This field must have distinct values.".toList
  | .between, (low, high) =>
    "This field must be between ".toList ++ low ++ " and ".toList ++ high ++ ['.']
  | .json, _ => "This field must be a valid JSON string.".toList
  | .faulty name _, _ => "This field failed the ".toList ++ name ++ " rule.".toList

def shownNumber? : (c : Checker) → c.Argument → Option Nat
  | .min, limit | .max, limit => some limit
  | _, _ => none

/-- The failure message, unless the number in it has too many digits to be written. -/
def writeMessage (c : Checker) (argument : c.Argument) : Except Fault Text :=
  match c.shownNumber? argument with
  | some n =>
    if Decimal.isTooLong n then .error .integerTooLong else .ok (c.failureMessage argument)
  | none => .ok (c.failureMessage argument)

/-- A limit that was read can be written in a message again. -/
private theorem isTooLong_of_parseLimit {raw : Option Text} {limit : Nat}
    (h : (given raw >>= parseLimit) = .ok limit) : Decimal.isTooLong limit = false := by
  cases hg : given raw with
  | error problem => simp [hg, bind, Except.bind] at h
  | ok t =>
    simp only [hg, bind, Except.bind, parseLimit] at h
    split at h
    · rename_i n hn
      cases h
      exact Decimal.isTooLong_of_integer? hn
    · simp at h
    · simp at h

/-- The message for an argument that was accepted can be written. -/
theorem writeMessage_of_parse {c : Checker} {raw : Option Text} {argument : c.Argument}
    (h : c.parse raw = .ok argument) : c.writeMessage argument = .ok (c.failureMessage argument) := by
  cases c with
  | min | max => simp [writeMessage, shownNumber?, isTooLong_of_parseLimit h]
  | _ => rfl

end Checker

end FieldRules
