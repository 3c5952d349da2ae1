import FieldRules.Regex.Escape

/-!
Sets of characters in brackets.
-/

namespace FieldRules.Regex

namespace SetItem

def read (ts : List Token) : Except Refusal (SetItem × List Token) :=
  match ts with
  | .plain c :: rest => .ok (.code c.toNat, rest)
  | .escaped c :: rest => Escape.inSet c rest
  | _ => .error .malformed

def between : SetItem → SetItem → Except Refusal SetItem
  | .code low, .code high => if low ≤ high then .ok (.range low high) else .error .malformed
  | _, _ => .error .malformed

/-- Reads the items of a set up to its closing bracket. A bracket that comes first is an item, and
so is a hyphen that comes first or last. -/
def readAll : (room : Nat) → (seen : List SetItem) → List Token →
    Except Refusal (List SetItem × List Token)
  | 0, _, _ => .error .malformed
  | room + 1, seen, ts =>
    if ts.head? = some (.plain ']') ∧ seen ≠ [] then .ok (seen.reverse, ts.tail)
    else do
      let (item, rest) ← read ts
      match rest with
      | .plain '-' :: .plain ']' :: rest =>
        return ((.code '-'.toNat :: item :: seen).reverse, rest)
      | .plain '-' :: rest => do
        let (high, rest) ← read rest
        let range ← between item high
        readAll room (range :: seen) rest
      | rest => readAll room (item :: seen) rest

end SetItem

/-- Reads a set after its opening bracket. A set of one character is that character. -/
def Single.readBracket (ts : List Token) : Except Refusal (Single × List Token) :=
  let negated := ts.head? = some (.plain '^')
  let ts := if negated then ts.tail else ts
  do
    let (items, rest) ← SetItem.readAll ts.length [] ts
    match items.eraseDups with
    | [.code n] => return (.code n negated, rest)
    | items => return (.set items negated, rest)

end FieldRules.Regex
