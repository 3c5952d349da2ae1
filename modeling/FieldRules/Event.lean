import FieldRules.Report

/-!
What a run of checks has to tell those who watch it.
-/

namespace FieldRules

inductive Level where
  | debug
  | info
  | warning
  | error
  deriving DecidableEq, Repr

namespace Level

def number : Level → Nat
  | .debug => 10
  | .info => 20
  | .warning => 30
  | .error => 40

def name : Level → Text
  | .debug => "debug".toList
  | .info => "info".toList
  | .warning => "warning".toList
  | .error => "error".toList

end Level

inductive Obstacle where
  | problem (message : Text)
  | status (code : Int)
  deriving DecidableEq, Repr

inductive Event where
  | rulesParsed (definition : Text) (rules : List Text)
  | patternInvalid (field pattern : Text)
  | unreachable (field url : Text) (obstacle : Obstacle)
  | checkerFailed (field rule message : Text)
  | complete (passed : Bool) (fieldsChecked rulesChecked : Int) (totalErrors : Nat)
      (failedFields : List Text)
  deriving DecidableEq, Repr

namespace Event

def level : Event → Level
  | .rulesParsed _ _ | .unreachable _ _ _ => .debug
  | .complete _ _ _ _ _ => .info
  | .patternInvalid _ _ => .warning
  | .checkerFailed _ _ _ => .error

def name : Event → Text
  | .rulesParsed _ _ => "rules_parsed".toList
  | .patternInvalid _ _ => "regex_pattern_invalid".toList
  | .unreachable _ _ _ => "active_url_unreachable".toList
  | .checkerFailed _ _ _ => "checker_failed".toList
  | .complete _ _ _ _ _ => "validation_complete".toList

def ofReport (r : Report) : Event :=
  .complete r.passed r.fieldsChecked r.rulesChecked r.count r.errors.names

end Event

end FieldRules
