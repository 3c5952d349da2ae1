import FieldRules.Regex.Flags
import FieldRules.Unicode.Alphanumeric
import FieldRules.Unicode.Blank
import FieldRules.Unicode.Digit
import FieldRules.Unicode.Fold

/-!
What one character must be: a character, any character, or one of a set.
-/

namespace FieldRules.Regex

inductive CharClass where
  | digit
  | space
  | word
  deriving DecidableEq, Repr

def CharClass.holds (ascii : Bool) : CharClass → Char → Bool
  | .digit, c => if ascii then c.isDigit else Unicode.isDigit c
  | .space, c =>
    if ascii then c = ' ' || (9 ≤ c.toNat && c.toNat ≤ 13) else Unicode.isBlank c
  | .word, c => (if ascii then c.isAlphanum else Unicode.isAlphanumeric c) || c = '_'

/-- A member of a set. Code points may be those of no character. -/
inductive SetItem where
  | code (n : Nat)
  | range (low high : Nat)
  | charClass (c : CharClass) (negated : Bool)
  deriving DecidableEq, Repr

inductive Single where
  /-- Any character that does not end a line. -/
  | dot
  | code (n : Nat) (negated : Bool)
  | set (items : List SetItem) (negated : Bool)
  deriving DecidableEq, Repr

/-- The last code point of the plane in which letters of a set stand for both cases. -/
def basicPlane : Nat := 0xffff

def Flags.lower (f : Flags) (c : Char) : Char := if f.ascii then c.toLower else Unicode.lower c

def Flags.variants (f : Flags) (l : Char) : List Char :=
  if f.ascii then [l] else l :: Unicode.companions l

def Flags.sources (f : Flags) (l : Char) : List Char :=
  if f.ascii then [l, l.toUpper].filter (·.toLower = l) else Unicode.sources l

namespace SetItem

def holdsExactly (f : Flags) : SetItem → Char → Bool
  | .code n, c => c.toNat = n
  | .range low high, c => low ≤ c.toNat && c.toNat ≤ high
  | .charClass k negated, c => k.holds f.ascii c != negated

/-- Whether a lower-case character belongs to the item in either case. Beyond the basic plane a
range holds what it holds in upper or lower case, and a single code point itself. -/
def holdsLower (f : Flags) : SetItem → Char → Bool
  | .code n, l =>
    if n ≤ basicPlane then n.isValidChar && (f.variants l).contains (f.lower (Char.ofNat n))
    else l.toNat = n
  | .range low high, l =>
    (f.variants l).any (fun m => (f.sources m).any fun c =>
      low ≤ c.toNat && c.toNat ≤ min high basicPlane) ||
    (basicPlane < high && (l :: (Unicode.upperForm l).take 1).any fun c =>
      low ≤ c.toNat && c.toNat ≤ high)
  | .charClass k negated, l => k.holds f.ascii l != negated

end SetItem

/-- A character belongs to a set in either case if its lower-case form does. -/
def setHolds (f : Flags) (items : List SetItem) (c : Char) : Bool :=
  if f.ignoreCase then items.any (·.holdsLower f (f.lower c)) else items.any (·.holdsExactly f c)

def codeHolds (f : Flags) (n : Nat) (c : Char) : Bool :=
  if f.ignoreCase && n.isValidChar then
    if f.ascii then c.toLower = (Char.ofNat n).toLower else Unicode.sameLetter (Char.ofNat n) c
  else c.toNat = n

def Single.holds (f : Flags) : Single → Char → Bool
  | .dot, c => f.dotAll || c ≠ '\n'
  | .code n negated, c => codeHolds f n c != negated
  | .set items negated, c => setHolds f items c != negated

end FieldRules.Regex
