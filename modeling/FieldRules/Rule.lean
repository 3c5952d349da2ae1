import FieldRules.ConfigurationError

/-!
Rules: a name and perhaps an argument, written `name:argument`. A definition is one text of rules
with bars between them, or a sequence of such tokens.
-/

namespace FieldRules

structure Rule where
  name : Text
  argument : Option Text
  deriving DecidableEq, Repr

namespace Rule

def text (r : Rule) : Text :=
  match r.argument with
  | none => r.name
  | some argument => r.name ++ ':' :: argument

/-- The first colon ends the name; blanks around the name do not count. -/
def ofToken (token : Text) : Rule :=
  let (name, argument) := token.cut ':'
  ⟨name.trim, argument⟩

/-- The rule that a token stands for; a blank token stands for none. -/
def ofToken? (token : Text) : Option Rule :=
  if token.all Unicode.isBlank then none else some (ofToken token)

def ofTokens (tokens : List Text) : List Rule := tokens.filterMap ofToken?

def tokensOf : List Value → Except ConfigurationError (List Text)
  | [] => .ok []
  | .text t :: rest => (tokensOf rest).map (t :: ·)
  | v :: _ => .error (.tokenKind v.kind)

def tokens : Value → Except ConfigurationError (List Text)
  | .text t => .ok (t.split '|')
  | .list items | .tuple items => tokensOf items
  | .bytes bs => tokensOf (bs.map fun b => .int b.toNat)
  | v => .error (.definitionKind v.kind)

def ofDefinition (definition : Value) : Except ConfigurationError (List Rule) :=
  (tokens definition).map ofTokens

end Rule

end FieldRules
