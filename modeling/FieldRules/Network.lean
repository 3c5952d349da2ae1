import FieldRules.Email
import FieldRules.Regex
import FieldRules.Settings
import FieldRules.Stack

/-!
What surrounds a check: the network, where one request goes to an address and something comes back, and
what else there is besides values.
-/

namespace FieldRules

structure Request where
  url : Text
  /-- Whether the answer is taken without its body. -/
  streamed : Bool
  timeout : Binary64
  userAgent : Text
  deriving DecidableEq

inductive Response where
  | status (code : Int)
  /-- The address could not be reached. -/
  | unreachable (problem : Text)
  /-- Something else went wrong, which says nothing about the address. -/
  | broken (problem : Text)
  deriving DecidableEq, Repr

/-- What checks read besides the values: the settings, if they can be read, and what is told of them if
not; the network; a test of addresses; and the stack of calls. -/
structure Surroundings where
  settings : Except (List Settings.Problem) Settings
  respond : Request → Response
  complaint : List Settings.Problem → Text := fun problems =>
    Text.join ", ".toList (problems.map Settings.Problem.variable)
  addresses : AddressTest := Email.addresses
  stack : Stack := .usual

namespace Surroundings

def request (s : Surroundings) (url : Text) : Except Fault Request :=
  match s.settings with
  | .ok settings => .ok ⟨url, true, settings.timeout, settings.userAgent⟩
  | .error problems => .error (.badSettings (s.complaint problems))

/-- What a delimited pattern is read as, if there is room to read its body. -/
def regex (s : Surroundings) (pattern : Text) : Except Fault (Option Regex) :=
  match (Regex.parts? pattern).bind fun (body, f) => s.stack.patternProblem? f body with
  | some problem => .error (@Fault.nestingTooDeep problem)
  | none => Regex.ofDelimited pattern

end Surroundings

end FieldRules
