import FieldRules.Url.Authority

/-!
Absolute URLs: a scheme, perhaps an authority, a path. What follows the path is free.
-/

namespace FieldRules

structure Url where
  /-- In lower case; empty if there is none. -/
  scheme : Text
  authority : Text
  path : Text
  deriving DecidableEq, Repr

namespace Url

def isSchemeCharacter (c : Char) : Bool := c.isAlphanum || c = '+' || c = '-' || c = '.'

def isScheme (t : Text) : Bool := t.head?.any Char.isAlpha && t.all isSchemeCharacter

/-- The scheme before the first colon, in lower case, and the text after that colon. A text without
a scheme is all rest. -/
def splitScheme (t : Text) : Text × Text :=
  match t.cut ':' with
  | (scheme, some rest) => if isScheme scheme then (scheme.map Char.toLower, rest) else ([], t)
  | (_, none) => ([], t)

/-- The authority after two slashes, up to a slash, a question mark or a number sign. -/
def splitAuthority (t : Text) : Text × Text :=
  match t with
  | '/' :: '/' :: rest =>
    let ends (c : Char) : Bool := c = '/' || c = '?' || c = '#'
    (rest.takeWhile (!ends ·), rest.dropWhile (!ends ·))
  | _ => ([], t)

def ofText (t : Text) : Url :=
  let (scheme, rest) := splitScheme t
  let (authority, rest) := splitAuthority rest
  ⟨scheme, authority, rest.takeWhile fun c => c ≠ '?' && c ≠ '#'⟩

def pathSchemes : List String := ["mailto", "news", "urn", "file"]

/-- Spaces and control characters are dropped in front of a URL. -/
def isLeadingControl (c : Char) : Bool := c.toNat ≤ 32

def isComplete (u : Url) : Bool :=
  !u.scheme.isEmpty && Authority.isWellFormed u.authority &&
    if pathSchemes.any (·.toList = u.scheme) then !u.authority.isEmpty || !u.path.isEmpty
    else Authority.hasHost u.authority

/-- A URL without blanks that has a scheme, and the host that its scheme asks for. -/
def isUrl (t : Text) : Bool :=
  !t.any Unicode.isBlank && (ofText (t.dropWhile isLeadingControl)).isComplete

end Url

end FieldRules
