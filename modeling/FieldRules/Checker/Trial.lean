import FieldRules.Checker
import FieldRules.Event
import FieldRules.Json
import FieldRules.Network
import FieldRules.Url
import FieldRules.Value.Coercion
import FieldRules.Value.Equality

/-!
Trials: a checker applied to one value. It returns its messages or breaks off at a fault; on the way
it may tell something and make a request.
-/

namespace FieldRules

inductive Verdict where
  /-- The check came to its end; it has no message for a value that passes. -/
  | returned (messages : List Text)
  | broken (fault : Fault)
  deriving DecidableEq, Repr

/-- Nothing for a value that fits, and the message, if it can be written, for one that does not. -/
def Verdict.ofResult (message : Except Fault Text) : Except Fault Bool → Verdict
  | .ok true => .returned []
  | .ok false => match message with
    | .ok m => .returned [m]
    | .error fault => .broken fault
  | .error fault => .broken fault

structure Trial where
  verdict : Verdict
  events : List Event
  requests : List Request

namespace Trial

def silent (message : Except Fault Text) (result : Except Fault Bool) : Trial :=
  ⟨.ofResult message result, [], []⟩

def counted : Value → Value
  | .list xs | .tuple xs | .set xs | .frozenset xs => .int xs.length
  | .dict es => .int es.length
  | v => v

def isNumeric (t : Text) : Bool := Value.isNumber (.text t)

/-- Neither below the first bound nor above the second: as numbers if all three are numbers, as
texts otherwise. -/
def liesBetween (bounds : Text × Text) (v : Value) : Except Fault Bool :=
  let (low, high) := bounds
  let v := counted v
  if v.isNumber && isNumeric low && isNumeric high then do
    let number ← v.toNumber
    let least ← Value.textNumber low
    let greatest ← Value.textNumber high
    return !(number.less (.float least) || (Number.float greatest).less number)
  else do
    let text ← v.asText
    return !(text.before low || high.before text)

/-- The same kind of value as the other field's, and equal to it; an absent field holds nothing. -/
def matchesField (other : Text) (data : FieldMap Value) (v : Value) : Bool :=
  let w := (data.get? other).getD .null
  v.kind == w.kind && v.equal w

def isListed (values : List Text) : Value → Bool
  | .text t => values.contains t
  | _ => false

def areDistinct : List Value → List Value → Bool
  | _, [] => true
  | seen, x :: xs => !Value.holds seen x && areDistinct (seen ++ [x]) xs

def hasDistinctItems : Value → Bool
  | .list xs | .tuple xs => areDistinct [] xs
  | _ => true

def isAlphanumeric (t : Text) : Bool := !t.isEmpty && t.all Char.isAlphanum

def isEmailAddress (addresses : AddressTest) : Value → Bool
  | .text t => !t.isEmpty && addresses.accepts t
  | _ => false

/-- Whether the text of a value has the pattern in it. A pattern that cannot be used is in no
text. -/
def matchesPattern (message : Except Fault Text) (field pattern : Text) (v : Value)
    (s : Surroundings) : Trial :=
  match s.regex pattern with
  | .ok (some regex) => silent message (v.asText.map regex.search)
  | .ok none => ⟨.ofResult message (.ok false), [.patternInvalid field pattern], []⟩
  | .error fault => silent message (.error fault)

def reach (message : Except Fault Text) (field url : Text) (s : Surroundings) : Trial :=
  match s.request url with
  | .error fault => silent message (.error fault)
  | .ok request =>
    let failed (obstacle : Obstacle) : Trial :=
      ⟨.ofResult message (.ok false), [.unreachable field url obstacle], [request]⟩
    match s.respond request with
    | .status code =>
      if code < 400 then ⟨.ofResult message (.ok true), [], [request]⟩ else failed (.status code)
    | .unreachable problem => failed (.problem problem)
    | .broken problem => ⟨.ofResult message (.error (.network problem)), [], [request]⟩

def isActive (message : Except Fault Text) (field : Text) (v : Value) (s : Surroundings) : Trial :=
  match v.asText with
  | .error fault => silent message (.error fault)
  | .ok url => if Url.isUrl url then reach message field url s else silent message (.ok false)

end Trial

namespace Checker

def onText (message : Except Fault Text) (v : Value) (p : Text → Bool) : Trial :=
  .silent message (v.asText.map p)

def check (field : Text) (v : Value) (data : FieldMap Value) (s : Surroundings) :
    (c : Checker) → c.Argument → Trial
  | .required, _ => .silent (.ok requiredMessage) (.ok !v.isEmpty)
  | .nullable, _ => ⟨.returned [], [], []⟩
  | .min, limit => .silent (writeMessage .min limit) (v.measure.map (limit ≤ ·))
  | .max, limit => .silent (writeMessage .max limit) (v.measure.map (· ≤ limit))
  | .same, other => .silent (writeMessage .same other) (.ok (Trial.matchesField other data v))
  | .lowercase, a => onText (writeMessage .lowercase a) v fun t => t == Unicode.lowerText t
  | .uppercase, a => onText (writeMessage .uppercase a) v fun t => t == Unicode.upperText t
  | .alphaNum, a => onText (writeMessage .alphaNum a) v Trial.isAlphanumeric
  | .email, a => .silent (writeMessage .email a) (.ok (Trial.isEmailAddress s.addresses v))
  | .url, a => onText (writeMessage .url a) v Url.isUrl
  | .activeUrl, a => Trial.isActive (writeMessage .activeUrl a) field v s
  | .dateFormat, format =>
    .silent (writeMessage .dateFormat format) (v.asText >>= format.roundTrips)
  | .startsWith, beginning => onText (writeMessage .startsWith beginning) v beginning.isPrefixOf
  | .endsWith, ending => onText (writeMessage .endsWith ending) v ending.isSuffixOf
  | .regex, pattern => Trial.matchesPattern (writeMessage .regex pattern) field pattern v s
  | .numeric, a => .silent (writeMessage .numeric a) (.ok v.isNumber)
  | .integer, a => .silent (writeMessage .integer a) (.ok v.isInteger)
  | .oneOf, values => .silent (writeMessage .oneOf values) (.ok (Trial.isListed values v))
  | .distinct, a => .silent (writeMessage .distinct a) (.ok (Trial.hasDistinctItems v))
  | .between, bounds => .silent (writeMessage .between bounds) (Trial.liesBetween bounds v)
  | .json, a => .silent (writeMessage .json a) (v.asText >>= Json.isDocument s.stack.documentDepth)
  | .faulty name problem, a => .silent (writeMessage (.faulty name problem) a) (.error (.raised problem))

end Checker

end FieldRules
