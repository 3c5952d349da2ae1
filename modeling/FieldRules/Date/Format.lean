import FieldRules.Date.Native

/-!
Date formats: letters and literal characters, or a native format with percent signs. A text has
the format if it is read and written back as it was.
-/

namespace FieldRules

inductive DateFormat where
  | lettered (pattern : Text) (pieces : List (Letter ⊕ Char))
  | native (pattern : Text)

namespace DateFormat

/-- Letters with a meaning, other characters, and any character after a backslash for itself; an
ASCII letter without a meaning is refused. -/
def pieces? : Text → Except Char (List (Letter ⊕ Char))
  | [] => .ok []
  | ['\\'] => .ok []
  | '\\' :: c :: t => (pieces? t).map (.inr c :: ·)
  | c :: t =>
    match Letter.ofChar? c with
    | some x => (pieces? t).map (.inl x :: ·)
    | none => if c.isAlpha then .error c else (pieces? t).map (.inr c :: ·)

def ofPattern (pattern : Text) : Except Char DateFormat :=
  if pattern.contains '%' then .ok (.native pattern)
  else (pieces? pattern).map (.lettered pattern)

def pattern : DateFormat → Text
  | .lettered p _ | .native p => p

def isNative : DateFormat → Bool
  | .lettered _ _ => false
  | .native _ => true

def pieceDirectives : Letter ⊕ Char → Text
  | .inl x => ['%', x.directive.letter]
  | .inr c => [c]

def directives : DateFormat → Text
  | .lettered _ ps => ps.flatMap pieceDirectives
  | .native p => p

def renderPiece (t : DateTime) : Letter ⊕ Char → Text
  | .inl x => x.render t
  | .inr c => [c]

def render (f : DateFormat) (t : DateTime) : Text :=
  match f with
  | .lettered _ ps => ps.flatMap (renderPiece t)
  | .native p => Native.render t p

def read (f : DateFormat) (text : Text) : Except Pattern.Problem DateTime :=
  Pattern.read f.directives text

/-- Whether the text is read and written back as it was. -/
def roundTrips (f : DateFormat) (text : Text) : Except Fault Bool :=
  match f.read text with
  | .ok t => .ok (f.render t == text)
  | .error .mismatch => .ok false
  | .error (.repeated again) => .error (.repeatedDirective again)

end DateFormat

end FieldRules
