import FieldRules.CodePoint
import FieldRules.Date.Format

/-!
Date formats over texts of code points. A code point that is no character stands for itself in a
format, but nothing is written by a native format that has one.
-/

namespace FieldRules

namespace WidePattern

abbrev Item := Pattern.Item ⊕ Surrogate

def startsBlank : WideText → Bool
  | .char c :: _ => Unicode.isBlank c
  | _ => false

def items? : WideText → Option (List Item)
  | [] => some []
  | .lone s :: t => (items? t).map (.inr s :: ·)
  | .char c :: t =>
    if c = '%' then
      match t with
      | .char letter :: t =>
        match Pattern.expand? letter, items? t with
        | some meaning, some rest => some (meaning.map .inl ++ rest)
        | _, _ => none
      | _ => none
    else if Unicode.isBlank c then
      if startsBlank t then items? t else (items? t).map (.inl .blanks :: ·)
    else (items? t).map (.inl (.literal c) :: ·)

/-- An item of the same length in an expression, with the same groups. -/
def stand : Item → Pattern.Item
  | .inl item => item
  | .inr _ => .literal '\ufffd'

def redefinition? (items : List Item) : Option Redefinition :=
  Pattern.redefinition? (items.map stand)

def fit? : List Item → WideText → Option (Pattern.Captures × WideText)
  | [], t => some ([], t)
  | .inr s :: items, t =>
    match t with
    | .lone s' :: rest => if s = s' then fit? items rest else none
    | _ => none
  | .inl (.literal p) :: items, t =>
    match t with
    | .char c :: rest => if Unicode.sameLetter p c then fit? items rest else none
    | _ => none
  | .inl .blanks :: items, t =>
    (Pattern.blankCandidates t.lead).findSome? fun rest => fit? items (.ofText rest ++ t.afterLead)
  | .inl (.part d) :: items, t =>
    (d.candidates t.lead).findSome? fun (taken, rest) =>
      (fit? items (.ofText rest ++ t.afterLead)).map fun (captures, last) =>
        ((d, taken) :: captures, last)

def read (pattern text : WideText) : Except Pattern.Problem DateTime :=
  match items? pattern with
  | none => .error .mismatch
  | some items =>
    match redefinition? items with
    | some again => .error (.repeated again)
    | none =>
      match fit? items text with
      | some (captures, []) =>
        match (Found.ofCaptures captures).dateTime? with
        | some t => .ok t
        | none => .error .mismatch
      | _ => .error .mismatch

end WidePattern

inductive WideFormat where
  | lettered (pattern : WideText) (pieces : List (Letter ⊕ CodePoint))
  | native (pattern : WideText)

namespace WideFormat

def pieces? : WideText → Except Char (List (Letter ⊕ CodePoint))
  | [] => .ok []
  | .lone s :: t => (pieces? t).map (.inr (.lone s) :: ·)
  | .char c :: t =>
    if c = '\\' then
      match t with
      | [] => .ok []
      | x :: t => (pieces? t).map (.inr x :: ·)
    else
      match Letter.ofChar? c with
      | some x => (pieces? t).map (.inl x :: ·)
      | none => if c.isAlpha then .error c else (pieces? t).map (.inr (.char c) :: ·)

def ofPattern (pattern : WideText) : Except Char WideFormat :=
  if pattern.contains (.char '%') then .ok (.native pattern)
  else (pieces? pattern).map (.lettered pattern)

def isNative : WideFormat → Bool
  | .lettered _ _ => false
  | .native _ => true

def pieceDirectives : Letter ⊕ CodePoint → WideText
  | .inl x => [.char '%', .char x.directive.letter]
  | .inr x => [x]

def directives : WideFormat → WideText
  | .lettered _ ps => ps.flatMap pieceDirectives
  | .native p => p

def renderPiece (t : DateTime) : Letter ⊕ CodePoint → WideText
  | .inl x => .ofText (x.render t)
  | .inr x => [x]

def render (f : WideFormat) (t : DateTime) : Except Fault WideText :=
  match f with
  | .lettered _ ps => .ok (ps.flatMap (renderPiece t))
  | .native p => p.encode.map fun format => .ofText (Native.render t format)

def read (f : WideFormat) (text : WideText) : Except Pattern.Problem DateTime :=
  WidePattern.read f.directives text

def roundTrips (f : WideFormat) (text : WideText) : Except Fault Bool :=
  match f.read text with
  | .ok t => (f.render t).map (· == text)
  | .error .mismatch => .ok false
  | .error (.repeated again) => .error (.repeatedDirective again)

end WideFormat

end FieldRules
