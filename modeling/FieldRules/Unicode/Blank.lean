/-!
White space of every script.
-/

namespace FieldRules.Unicode

def isSeparatorControl (c : Char) : Bool := 0x1c ≤ c.toNat && c.toNat ≤ 0x1f

def isBlank (c : Char) : Bool :=
  let n := c.toNat
  (9 ≤ n && n ≤ 13) || n = 32 || isSeparatorControl c || n = 0x85 || n = 0xa0 || n = 0x1680 ||
    (0x2000 ≤ n && n ≤ 0x200a) || n = 0x2028 || n = 0x2029 || n = 0x202f || n = 0x205f || n = 0x3000

def isSpace (c : Char) : Bool := isBlank c && !isSeparatorControl c

end FieldRules.Unicode
