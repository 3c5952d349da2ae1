import FieldRules.Decimal.Integer
import FieldRules.Regex.Bracket
import FieldRules.Regex.Count
import FieldRules.Regex.Group
import FieldRules.Unicode.Blank

/-!
Patterns read one step at a time, with a stack of the groups that are still open.
-/

namespace FieldRules.Regex

inductive Enclosure where
  | pattern
  | enclosing
  | capture (n : Nat)
  | flagged (on off : Flags)
  | atomic
  | ahead (wanted : Bool)
  /-- The outermost one sets the limit for references. -/
  | behind (wanted outermost : Bool)
  /-- The first branch of a conditional. -/
  | satisfied (n : Nat)
  /-- The second branch, after the first. -/
  | otherwise (n : Nat) (yes : Node)
  deriving DecidableEq, Repr

inductive Item where
  | node (n : Node)
  | enclosed (nodes : List Node)
  deriving DecidableEq, Repr

def Item.nodes : Item → List Node
  | .node n => [n]
  | .enclosed nodes => nodes

/-- What can be repeated, if anything of it can: neither a place nor a repetition. -/
def Item.repeatable? : Item → Option Node
  | .node (.anchor _) | .node (.repetition _ _ _) => none
  | .node n | .enclosed [n] => some n
  | .enclosed nodes => some (.ofList nodes)

structure Level where
  enclosure : Enclosure
  /-- Blanks and comments do not count in it. -/
  verbose : Bool
  /-- Complete branches, the last first. -/
  branches : List (List Node) := []
  /-- Items of the branch that is not complete, the last first. -/
  items : List Item := []
  deriving DecidableEq, Repr

namespace Node

/-- Nodes that branches can begin with in common. -/
def isShareable : Node → Bool
  | .single _ | .anchor _ | .reference _ => true
  | _ => false

/-- What all branches begin with, and what is left of each of them. -/
def shared : List Node → List (List Node) → List Node × List Node × List (List Node)
  | [], others => ([], [], others)
  | n :: first, others =>
    if n.isShareable && others.all (·.head? = some n) then
      let (start, first, others) := shared first (others.map List.tail)
      (n :: start, first, others)
    else ([], n :: first, others)

def characters? : List Node → Option (List SetItem)
  | [.single (.code n false)] => some [.code n]
  | [.single (.set items false)] => some items
  | _ => none

/-- Branches, without what they begin with in common. Branches of one character each are a set. -/
def ofBranches (first : List Node) : List (List Node) → List Node
  | [] => first
  | second :: others =>
    let (start, first, others) := shared first (second :: others)
    match (first :: others).mapM characters? with
    | some sets => start ++ [.single (.set sets.flatten.eraseDups false)]
    | none => start ++ [ofChoices (ofList first) (others.map ofList)]

end Node

namespace Level

def branch (l : Level) : List Node := l.items.reverse.flatMap Item.nodes

def nodes (l : Level) : List Node :=
  match l.branches.reverse with
  | [] => l.branch
  | first :: others => Node.ofBranches first (others ++ [l.branch])

def node (l : Level) : Node := .ofList l.nodes

def add (l : Level) (n : Node) : Level := { l with items := .node n :: l.items }

end Level

structure Draft where
  flags : Flags
  level : Level
  /-- The groups around the innermost open one, the nearest first. -/
  outer : List Level := []
  names : List (Text × Nat) := []
  /-- The groups from number one on, with the widths of those that are closed. -/
  widths : List (Option Width) := []
  /-- Inside a look behind, only groups below this number may be referred to. -/
  fence : Option Nat := none
  /-- Groups that conditions ask for by number. -/
  conditions : List Nat := []
  /-- A look behind has no one width, or too large a width. -/
  flawed : Bool := false
  hasRepetitions : Bool := false
  deriving DecidableEq, Repr

namespace Draft

def lengthLimit : Nat := 4294967295

def groupLimit : Nat := 1073741823

abbrev Step := Except Refusal (Draft × List Token)

def start (f : Flags) : Draft := { flags := f, level := ⟨.pattern, f.verbose, [], []⟩ }

def add (d : Draft) (n : Node) : Draft := { d with level := d.level.add n }

def width? (d : Draft) (n : Nat) : Option Width :=
  match n with
  | 0 => none
  | n + 1 => d.widths[n]?.join

def width (d : Draft) (n : Node) : Width := n.width fun g => (d.width? g).getD (.exactly 0)

/-- Inside a look behind, groups may be referred to that were closed before it. -/
def isWithinFence (d : Draft) (n : Nat) : Bool :=
  match d.fence with
  | none => true
  | some fence => n < fence && (d.width? n).isSome

def refer (d : Draft) (n : Nat) (ts : List Token) : Step :=
  if (d.width? n).isSome && d.isWithinFence n then .ok (d.add (.reference n), ts)
  else .error .malformed

/-- Repeats the last item. A question mark after the counts makes the repetition lazy, a plus sign
possessive. -/
def repeated (d : Draft) (bounds : Bounds) (ts : List Token) : Step :=
  match d.level.items with
  | [] => .error .malformed
  | item :: items =>
    match item.repeatable? with
    | none => .error .malformed
    | some body =>
      let (greed, rest) : Greed × List Token := match ts with
        | .plain '?' :: rest => (.lazy, rest)
        | .plain '+' :: rest => (.possessive, rest)
        | ts => (.greedy, ts)
      let items := .node (.repetition bounds greed body) :: items
      .ok ({ d with level := { d.level with items }, hasRepetitions := true }, rest)

def condition (d : Draft) (text : Text) : Except Refusal Nat :=
  if Unicode.isIdentifier text then
    match d.names.lookup text with
    | some n => .ok n
    | none => .error .malformed
  else
    match Decimal.integer? (text.strip Unicode.isSpace) with
    | some (.ofNat (n + 1)) => if n + 1 < groupLimit then .ok (n + 1) else .error .malformed
    | _ => .error .malformed

def nest (d : Draft) (enclosure : Enclosure) (verbose : Bool) (ts : List Token) : Step :=
  .ok ({ d with level := ⟨enclosure, verbose, [], []⟩, outer := d.level :: d.outer }, ts)

def isAtStart (d : Draft) : Bool :=
  d.outer.isEmpty && d.level.branches.isEmpty && d.level.items.isEmpty

def openGroup (d : Draft) (group : Group) (ts : List Token) : Step :=
  let verbose := d.level.verbose
  match group with
  | .comment => .ok (d, ts)
  | .settings flags =>
    if d.isAtStart then
      let flags := d.flags.union flags
      .ok ({ d with flags, level := { d.level with verbose := flags.verbose } }, ts)
    else .error .malformed
  | .reference name =>
    match d.names.lookup name with
    | some n => d.refer n ts
    | none => .error .malformed
  | .capture name =>
    let n := d.widths.length + 1
    let opened := { d with widths := d.widths ++ [none] }
    match name with
    | none => opened.nest (.capture n) verbose ts
    | some name =>
      if (d.names.lookup name).isSome then .error .malformed
      else nest { opened with names := (name, n) :: d.names } (.capture n) verbose ts
  | .enclosing => d.nest .enclosing verbose ts
  | .flagged on off =>
    d.nest (.flagged on off) ((verbose || on.verbose) && !off.verbose) ts
  | .atomic => d.nest .atomic verbose ts
  | .ahead wanted => d.nest (.ahead wanted) verbose ts
  | .behind wanted =>
    nest { d with fence := some (d.fence.getD (d.widths.length + 1)) }
      (.behind wanted d.fence.isNone) verbose ts
  | .conditional text => do
    let n ← d.condition text
    let d := if Unicode.isIdentifier text then d else { d with conditions := n :: d.conditions }
    if d.isWithinFence n then d.nest (.satisfied n) verbose ts else .error .malformed

def nextBranch (d : Draft) (ts : List Token) : Step :=
  let l := d.level
  match l.enclosure with
  | .satisfied n =>
    .ok ({ d with level := { l with enclosure := .otherwise n l.node, items := [] } }, ts)
  | .otherwise _ _ => .error .malformed
  | _ => .ok ({ d with level := { l with branches := l.branch :: l.branches, items := [] } }, ts)

def close (d : Draft) (around : Level) (outer : List Level) (ts : List Token) : Step :=
  let l := d.level
  let d := { d with level := around, outer }
  match l.enclosure with
  | .pattern => .error .malformed
  | .enclosing =>
    .ok ({ d with level := { around with items := .enclosed l.nodes :: around.items } }, ts)
  | .capture n =>
    .ok (add { d with widths := d.widths.set (n - 1) (some (d.width l.node)) } (.capture n l.node),
      ts)
  | .flagged on off => .ok (d.add (.flagged on off l.node), ts)
  | .atomic => .ok (d.add (.atomic l.node), ts)
  | .ahead wanted => .ok (d.add (.ahead wanted l.node), ts)
  | .behind wanted outermost =>
    let fence := if outermost then none else d.fence
    match (d.width l.node).fixed? with
    | some length =>
      .ok (add { d with fence, flawed := d.flawed || lengthLimit < length }
        (.behind wanted length l.node), ts)
    | none => .ok (add { d with fence, flawed := true } (.behind wanted 0 l.node), ts)
  | .satisfied n => .ok (d.add (.conditional n l.node .empty), ts)
  | .otherwise n yes => .ok (d.add (.conditional n yes l.node), ts)

def isBlank (c : Char) : Bool := " \t\n\r\x0b\x0c".toList.contains c

def afterComment (ts : List Token) : List Token :=
  ts.dropWhile fun t => t ≠ .plain '\n' && t ≠ .dangling

def readPlain (d : Draft) (c : Char) (ts : List Token) : Step :=
  if d.level.verbose && isBlank c then .ok (d, ts)
  else if d.level.verbose && c = '#' then .ok (d, afterComment ts)
  else match c with
    | '|' => d.nextBranch ts
    | ')' =>
      match d.outer with
      | [] => .error .malformed
      | around :: outer => d.close around outer ts
    | '[' => do
      let (s, rest) ← Single.readBracket ts
      return (d.add (.single s), rest)
    | '*' => d.repeated ⟨0, none⟩ ts
    | '+' => d.repeated ⟨1, none⟩ ts
    | '?' => d.repeated ⟨0, some 1⟩ ts
    | '\x7b' => do
      match ← Bounds.readBraces ts with
      | some (bounds, rest) => d.repeated bounds rest
      | none => return (d.add (.single (.code c.toNat false)), ts)
    | '.' => .ok (d.add (.single .dot), ts)
    | '(' => do
      let (group, rest) ← Group.read ts
      d.openGroup group rest
    | '^' => .ok (d.add (.anchor .start), ts)
    | '$' => .ok (d.add (.anchor .finish), ts)
    | c => .ok (d.add (.single (.code c.toNat false)), ts)

def readEscape (d : Draft) (c : Char) (ts : List Token) : Step := do
  let (escape, rest) ← Escape.read c ts
  match escape with
  | .single s => return (d.add (.single s), rest)
  | .anchor a => return (d.add (.anchor a), rest)
  | .reference n => d.refer n rest

def step (d : Draft) (t : Token) (ts : List Token) : Step :=
  match t with
  | .plain c => d.readPlain c ts
  | .escaped c => d.readEscape c ts
  | .dangling => .error .malformed

def check (d : Draft) : Except Refusal Unit :=
  if d.flags.conflict then .error (.broken .lettersOfTwoKinds) else .ok ()

def finish (d : Draft) : Except Refusal Draft := do
  if !d.outer.isEmpty then throw .malformed
  d.check
  if d.flawed || d.conditions.any (d.widths.length < ·) || (d.flags.plain && d.hasRepetitions) then
    throw .malformed
  return d

/-- Reads tokens to their end, in steps of which each takes one token at least. A closing
parenthesis without an opening one ends the pattern. -/
def run : (room : Nat) → Draft → List Token → Except Refusal Draft
  | _, d, [] => d.finish
  | 0, _, _ => .error .malformed
  | room + 1, d, t :: ts =>
    if t = .plain ')' && d.outer.isEmpty then do
      d.check
      throw .malformed
    else
      match d.step t ts with
      | .ok (d, rest) => run room d rest
      | .error e => .error e

def ofText (f : Flags) (t : Text) : Except Refusal Draft :=
  let ts := Token.ofText t
  run ts.length (start f) ts

end Draft

end FieldRules.Regex
