import FieldRules.Unicode.Case

/-!
Letters compared in either case, one character with one character.
-/

namespace FieldRules.Unicode

/-- Lower-case letters that share their upper-case form with others, and those others. -/
def companionTable : List (Nat × List Nat) := [
  (0x69, [0x131]), (0x73, [0x17f]), (0xb5, [0x3bc]), (0x131, [0x69]), (0x17f, [0x73]),
  (0x345, [0x3b9, 0x1fbe]), (0x390, [0x1fd3]), (0x3b0, [0x1fe3]), (0x3b2, [0x3d0]),
  (0x3b5, [0x3f5]), (0x3b8, [0x3d1]), (0x3b9, [0x345, 0x1fbe]), (0x3ba, [0x3f0]), (0x3bc, [0xb5]),
  (0x3c0, [0x3d6]), (0x3c1, [0x3f1]), (0x3c2, [0x3c3]), (0x3c3, [0x3c2]), (0x3c6, [0x3d5]),
  (0x3d0, [0x3b2]), (0x3d1, [0x3b8]), (0x3d5, [0x3c6]), (0x3d6, [0x3c0]), (0x3f0, [0x3ba]),
  (0x3f1, [0x3c1]), (0x3f5, [0x3b5]), (0x432, [0x1c80]), (0x434, [0x1c81]), (0x43e, [0x1c82]),
  (0x441, [0x1c83]), (0x442, [0x1c84, 0x1c85]), (0x44a, [0x1c86]), (0x463, [0x1c87]),
  (0x1c80, [0x432]), (0x1c81, [0x434]), (0x1c82, [0x43e]), (0x1c83, [0x441]),
  (0x1c84, [0x442, 0x1c85]), (0x1c85, [0x442, 0x1c84]), (0x1c86, [0x44a]), (0x1c87, [0x463]),
  (0x1c88, [0xa64b]), (0x1e61, [0x1e9b]), (0x1e9b, [0x1e61]), (0x1fbe, [0x345, 0x3b9]),
  (0x1fd3, [0x390]), (0x1fe3, [0x3b0]), (0xa64b, [0x1c88]), (0xfb05, [0xfb06]), (0xfb06, [0xfb05])]

def companions (c : Char) : List Char :=
  ((companionTable.lookup c.toNat).getD []).map Char.ofNat

/-- A letter without case matches itself alone; another one matches what has its lower-case form
or that of a companion. -/
def sameLetter (p c : Char) : Bool :=
  if hasCase p then lower c == lower p || (companions (lower p)).contains (lower c) else c == p

/-- Characters with a lower-case form of which they are not the upper-case form. -/
def strayTable : List (Nat × Nat) := [
  (0x69, 0x130), (0x6b, 0x212a), (0xdf, 0x1e9e), (0xe5, 0x212b), (0x1c6, 0x1c5), (0x1c9, 0x1c8),
  (0x1cc, 0x1cb), (0x1f3, 0x1f2), (0x3b8, 0x3f4), (0x3c9, 0x2126)]

def sources (l : Char) : List Char :=
  [l, upper l].filter (lower · = l) ++
    (strayTable.filter (·.1 = l.toNat)).map fun stray => Char.ofNat stray.2

end FieldRules.Unicode
