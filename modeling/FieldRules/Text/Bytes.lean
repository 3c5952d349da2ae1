import FieldRules.Text.Quoted

/-!
Byte strings: their text in UTF-8, and their quoted form.
-/

namespace FieldRules.Bytes

/-- A character of which some bytes have been read: the code point so far, how many bytes are to
come, and the least and greatest value of the next one. -/
structure Unfinished where
  code : Nat
  left : Nat
  least : Nat
  greatest : Nat

def opening? (b : Nat) : Option Unfinished :=
  if 0xc2 ≤ b ∧ b ≤ 0xdf then some ⟨b - 0xc0, 1, 0x80, 0xbf⟩
  else if b = 0xe0 then some ⟨0, 2, 0xa0, 0xbf⟩
  else if b = 0xed then some ⟨0xd, 2, 0x80, 0x9f⟩
  else if 0xe1 ≤ b ∧ b ≤ 0xef then some ⟨b - 0xe0, 2, 0x80, 0xbf⟩
  else if b = 0xf0 then some ⟨0, 3, 0x90, 0xbf⟩
  else if 0xf1 ≤ b ∧ b ≤ 0xf3 then some ⟨b - 0xf0, 3, 0x80, 0xbf⟩
  else if b = 0xf4 then some ⟨4, 3, 0x80, 0x8f⟩
  else none

/-- The characters that byte `b` completes between characters, and the one that it opens. -/
def first (b : Nat) : Text × Option Unfinished :=
  if b < 0x80 then ([Char.ofNat b], none)
  else match opening? b with
    | some u => ([], some u)
    | none => (['\ufffd'], none)

/-- UTF-8, with one replacement character for each longest part that is the beginning of a
character or of none. -/
def decodeFrom : Option Unfinished → List UInt8 → Text
  | none, [] => []
  | some _, [] => ['\ufffd']
  | none, b :: bs =>
    let (out, next) := first b.toNat
    out ++ decodeFrom next bs
  | some u, b :: bs =>
    if u.least ≤ b.toNat ∧ b.toNat ≤ u.greatest then
      let code := u.code * 64 + (b.toNat - 0x80)
      if u.left ≤ 1 then Char.ofNat code :: decodeFrom none bs
      else decodeFrom (some ⟨code, u.left - 1, 0x80, 0xbf⟩) bs
    else
      let (out, next) := first b.toNat
      '\ufffd' :: out ++ decodeFrom next bs

def decode (bs : List UInt8) : Text := decodeFrom none bs

def escaped (quote : Char) (b : UInt8) : Text :=
  let c := Char.ofNat b.toNat
  if c = quote ∨ c = '\\' then ['\\', c]
  else if c = '\n' then "\\n".toList
  else if c = '\r' then "\\r".toList
  else if c = '\t' then "\\t".toList
  else if 32 ≤ b.toNat ∧ b.toNat ≤ 126 then [c]
  else "\\x".toList ++ Text.hexadecimal 2 b.toNat

def quoted (bs : List UInt8) : Text :=
  let quote := Text.quoteFor (bs.contains 39) (bs.contains 34)
  'b' :: quote :: bs.flatMap (escaped quote) ++ [quote]

end FieldRules.Bytes
