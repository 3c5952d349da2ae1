import FieldRules.Text

/-!
Flags of patterns: how letters are compared, what anchors and the dot mean, and how the pattern is
written.
-/

namespace FieldRules.Regex

structure Flags where
  ignoreCase : Bool := false
  /-- Line ends count as ends of the text. -/
  multiline : Bool := false
  /-- The dot matches line ends. -/
  dotAll : Bool := false
  /-- Blanks and comments in the pattern do not count. -/
  verbose : Bool := false
  /-- Classes and letters are those of ASCII. -/
  ascii : Bool := false
  /-- Classes and letters are those of all scripts, as they are unless `ascii` is asked for. -/
  unicode : Bool := false
  /-- Repetitions are refused. -/
  plain : Bool := false
  deriving DecidableEq, Repr

namespace Flags

def union (f g : Flags) : Flags where
  ignoreCase := f.ignoreCase || g.ignoreCase
  multiline := f.multiline || g.multiline
  dotAll := f.dotAll || g.dotAll
  verbose := f.verbose || g.verbose
  ascii := f.ascii || g.ascii
  unicode := f.unicode || g.unicode
  plain := f.plain || g.plain

def minus (f g : Flags) : Flags where
  ignoreCase := f.ignoreCase && !g.ignoreCase
  multiline := f.multiline && !g.multiline
  dotAll := f.dotAll && !g.dotAll
  verbose := f.verbose && !g.verbose
  ascii := f.ascii && !g.ascii
  unicode := f.unicode && !g.unicode
  plain := f.plain && !g.plain

def meets (f g : Flags) : Bool :=
  f.ignoreCase && g.ignoreCase || f.multiline && g.multiline || f.dotAll && g.dotAll ||
    f.verbose && g.verbose

def conflict (f : Flags) : Bool := f.ascii && f.unicode

def ofLetter? : Char → Option Flags
  | 'i' => some { ignoreCase := true }
  | 'm' => some { multiline := true }
  | 's' => some { dotAll := true }
  | 'x' => some { verbose := true }
  | 'a' => some { ascii := true }
  | 'u' => some { unicode := true }
  | 't' => some { plain := true }
  | _ => none

def within (outer on off : Flags) : Flags :=
  let asked := on.ascii || on.unicode
  let kept := { outer with
    ascii := outer.ascii && !asked
    unicode := outer.unicode && !asked }
  (kept.union on).minus off

def letters (f : Flags) : Text :=
  (if f.ignoreCase then ['i'] else []) ++ (if f.multiline then ['m'] else []) ++
    (if f.dotAll then ['s'] else []) ++ if f.verbose then ['x'] else []

end Flags

end FieldRules.Regex
