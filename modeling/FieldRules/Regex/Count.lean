import FieldRules.Decimal.Integer
import FieldRules.Regex.Node
import FieldRules.Regex.Refusal
import FieldRules.Regex.Token

/-!
Numbers of repetitions in braces.
-/

namespace FieldRules.Regex.Bounds

def countLimit : Nat := 4294967295

def readCount (ds : List Token) : Except Refusal Nat :=
  if Decimal.digitLimit < ds.length then .error (.broken (.countTooLong ds.length))
  else
    let n := Token.number 10 (ds.filterMap (Token.digit? 10))
    if n < countLimit then .ok n else .error (.broken .repetitionTooLarge)

def readBounds (least most : List Token) : Except Refusal Bounds := do
  let least ← readCount least
  if most.isEmpty then return ⟨least, none⟩
  let most ← readCount most
  if least ≤ most then return ⟨least, some most⟩ else .error .malformed

/-- Reads counts after an opening brace. What has not the form of counts is none; then the brace is
a character like others. -/
def readBraces (ts : List Token) : Except Refusal (Option (Bounds × List Token)) :=
  let least := ts.takeWhile Token.isDigit
  let (most, rest) :=
    match ts.dropWhile Token.isDigit with
    | .plain ',' :: rest => (rest.takeWhile Token.isDigit, rest.dropWhile Token.isDigit)
    | rest => (least, rest)
  match rest with
  | [.plain '\x7d', .dangling] => .error .malformed
  | .plain '\x7d' :: rest =>
    if ts.head? = some (.plain '\x7d') then .ok none
    else (readBounds least most).map fun bounds => some (bounds, rest)
  | _ => .ok none

end FieldRules.Regex.Bounds
