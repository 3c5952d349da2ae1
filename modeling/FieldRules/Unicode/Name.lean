import FieldRules.Text
import FieldRules.Unicode.Tables.Name

/-!
Names of characters. Most names are in a table; those of Hangul syllables and of unified ideographs
are made by rules.
-/

namespace FieldRules.Unicode

namespace Name

/-- The signs that begin a name in the table, in the order of the numbers that they stand for. -/
def signs : Text := "abcdefghijklmnopqrstuvwxyz!&()*+,.:;<>?[]^_|~".toList

def isPart (c : Char) : Bool := c.isUpper || c.isDigit || c = ' ' || c = '-'

def hexadecimal? (c : Char) : Option Nat :=
  if c.isDigit then some (c.toNat - '0'.toNat)
  else if 'A' ≤ c && c ≤ 'F' then some (c.toNat - 'A'.toNat + 10)
  else none

structure Entry where
  code : Nat
  /-- The name as far as it is read, the last character first. -/
  backwards : Text
  /-- The code point is being read. -/
  inCode : Bool
  deriving DecidableEq, Repr

namespace Entry

def first : Entry := ⟨0x20, [], false⟩

def read (e : Entry) (c : Char) : Entry :=
  if isPart c then
    if e.inCode then { e with code := 16 * e.code + (hexadecimal? c).getD 0 }
    else { e with backwards := c :: e.backwards }
  else if c = '\n' then e
  else if c = '=' then { e with code := 0, inCode := true }
  else {
    code := if e.inCode then e.code else e.code + 1
    backwards := e.backwards.drop (e.backwards.length - signs.idxOf c)
    inCode := false }

def find (backwards : Text) (e : Entry) : Text → Option Nat
  | [] => if e.backwards = backwards then some e.code else none
  | c :: t =>
    if !isPart c && e.backwards = backwards then some e.code else find backwards (e.read c) t

end Entry

def leads : List String := [
  "G", "GG", "N", "D", "DD", "R", "M", "B", "BB", "S", "SS", "", "J", "JJ", "C", "K", "T", "P", "H"]

def vowels : List String := [
  "A", "AE", "YA", "YAE", "EO", "E", "YEO", "YE", "O", "WA", "WAE", "OE", "YO", "U", "WEO", "WE",
  "WI", "YU", "EU", "YI", "I"]

def tails : List String := [
  "", "G", "GG", "GS", "N", "NJ", "NH", "D", "L", "LG", "LM", "LB", "LS", "LT", "LP", "LH", "M",
  "B", "BS", "S", "SS", "NG", "J", "C", "K", "T", "P", "H"]

/-- The place of the longest sound that a text begins with, and what is left of the text. -/
def sound? (sounds : List String) (t : Text) : Option (Nat × Text) :=
  let found := (List.range sounds.length).filterMap fun i =>
    (sounds[i]?).bind fun sound =>
      if sound.toList.isPrefixOf t then some (i, t.drop sound.length) else none
  found.foldl (fun best next =>
    match best with
    | some (_, rest) => if next.2.length < rest.length then some next else best
    | none => some next) none

def syllable? (t : Text) : Option Nat := do
  let (lead, rest) ← sound? leads t
  let (vowel, rest) ← sound? vowels rest
  let (tail, rest) ← sound? tails rest
  if rest.isEmpty then some (0xac00 + (lead * vowels.length + vowel) * tails.length + tail)
  else none

def ideographs : List (Nat × Nat) := [
  (0x3400, 0x4dbf), (0x4e00, 0x9fff), (0x20000, 0x2a6df), (0x2a700, 0x2b738), (0x2b740, 0x2b81d),
  (0x2b820, 0x2cea1), (0x2ceb0, 0x2ebe0), (0x30000, 0x3134a)]

/-- The unified ideograph with this code point in four or five hexadecimal digits. -/
def ideograph? (t : Text) : Option Nat := do
  let ds ← t.mapM hexadecimal?
  let n := ds.foldl (fun n d => 16 * n + d) 0
  let isOne := ideographs.any fun (first, last) => first ≤ n && n ≤ last
  if (ds.length = 4 ∨ ds.length = 5) ∧ isOne then some n
  else none

end Name

/-- The code point of the character with a name. Case does not matter in names from the table. -/
def named? (name : Text) : Option Nat :=
  let syllable := "HANGUL SYLLABLE ".toList
  let ideograph := "CJK UNIFIED IDEOGRAPH-".toList
  if syllable.isPrefixOf name then Name.syllable? (name.drop syllable.length)
  else if ideograph.isPrefixOf name then Name.ideograph? (name.drop ideograph.length)
  else if name.isEmpty then none
  else Name.Entry.first.find (name.map Char.toUpper).reverse Tables.names.toList

end FieldRules.Unicode
