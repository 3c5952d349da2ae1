import FieldRules.Regex.Node

/-!
Search for a pattern in a text. A pattern is matched from a place on, with what has to match after
it as a continuation; where that fails, the next way to match is tried.
-/

namespace FieldRules.Regex

structure Cursor where
  /-- What stands before, the nearest first. -/
  before : Text
  after : Text
  index : Nat
  deriving DecidableEq, Repr

namespace Cursor

def next? (c : Cursor) : Option (Char × Cursor) :=
  match c.after with
  | [] => none
  | a :: after => some (a, ⟨a :: c.before, after, c.index + 1⟩)

def back? : Nat → Cursor → Option Cursor
  | 0, c => some c
  | n + 1, c =>
    match c.before with
    | [] => none
    | b :: before => back? n ⟨before, b :: c.after, c.index - 1⟩

def isWord (ascii : Bool) : Text → Bool
  | [] => false
  | c :: _ => CharClass.word.holds ascii c

/-- Whether an anchor holds here. In an empty text there is neither an edge nor a place without
one. -/
def holds (f : Flags) (c : Cursor) : Anchor → Bool
  | .start => c.before.isEmpty || (f.multiline && c.before.head? = some '\n')
  | .finish => c.after.isEmpty || c.after = ['\n'] || (f.multiline && c.after.head? = some '\n')
  | .textStart => c.before.isEmpty
  | .textEnd => c.after.isEmpty
  | .edge => isWord f.ascii c.before != isWord f.ascii c.after
  | .noEdge =>
    !(c.before.isEmpty && c.after.isEmpty) && isWord f.ascii c.before == isWord f.ascii c.after

end Cursor

/-- Where a group started last, and where it ended last. -/
structure Captured where
  start : Option Cursor := none
  stop : Option Nat := none
  deriving DecidableEq, Repr

def Captured.text? (g : Captured) : Option Text :=
  match g.start, g.stop with
  | some c, some stop => if c.index ≤ stop then some (c.after.take (stop - c.index)) else none
  | _, _ => none

structure State where
  cursor : Cursor
  /-- The groups from number one on. -/
  groups : List Captured
  deriving DecidableEq, Repr

namespace State

def moved (s : State) (c : Cursor) : State := { s with cursor := c }

def group? (s : State) (n : Nat) : Option Text := s.groups[n - 1]?.bind Captured.text?

def opened (s : State) (n : Nat) : State :=
  { s with groups := s.groups.modify (n - 1) fun g => { g with start := some s.cursor } }

def closed (s : State) (n : Nat) : State :=
  { s with groups := s.groups.modify (n - 1) fun g => { g with stop := some s.cursor.index } }

def step? (f : Flags) (c : Single) (s : State) : Option State :=
  match s.cursor.next? with
  | none => none
  | some (a, cursor) => if c.holds f a then some (s.moved cursor) else none

def after? (f : Flags) : Text → State → Option State
  | [], s => some s
  | a :: t, s =>
    match s.cursor.next? with
    | none => none
    | some (b, cursor) =>
      if if f.ignoreCase then f.lower a = f.lower b else a = b then after? f t (s.moved cursor)
      else none

end State

abbrev Continuation := State → Option State

namespace Matcher

def exactly (body : Continuation → Continuation) (k : Continuation) : (n : Nat) → Continuation
  | 0, s => k s
  | n + 1, s => body (exactly body k n) s

/-- At most `most` repetitions, as many as possible first. One that does not move is the last one,
so `room` need not be larger than what is left of the text and one. -/
def greedy (body : Continuation → Continuation) (k : Continuation) :
    (room : Nat) → (most last : Option Nat) → Continuation
  | 0, _, _, s => k s
  | room + 1, most, last, s =>
    if most = some 0 || last = some s.cursor.index then k s
    else match body (greedy body k room (most.map (· - 1)) (some s.cursor.index)) s with
      | some r => some r
      | none => k s

def lazily (body : Continuation → Continuation) (k : Continuation) :
    (room : Nat) → (most last : Option Nat) → Continuation
  | 0, _, _, s => k s
  | room + 1, most, last, s =>
    match k s with
    | some r => some r
    | none =>
      if most = some 0 || last = some s.cursor.index then none
      else body (lazily body k room (most.map (· - 1)) (some s.cursor.index)) s

def room (s : State) : Nat := s.cursor.after.length + 1

def repeated (body : Continuation → Continuation) (bounds : Bounds) (greed : Greed)
    (k : Continuation) (s : State) : Option State :=
  let more := bounds.most.map (· - bounds.least)
  match greed with
  | .greedy => exactly body (fun s => greedy body k (room s) more none s) bounds.least s
  | .lazy => exactly body (fun s => lazily body k (room s) more none s) bounds.least s
  | .possessive =>
    match exactly body (fun s => greedy body some (room s) more none s) bounds.least s with
    | some s' => k s'
    | none => none

/-- The places that at most `most` characters with the property `p` lead to, the last one first. -/
def reach (p : Char → Bool) (most : Option Nat) (before : Text) (index : Nat)
    (earlier : List Cursor) : (after : Text) → List Cursor
  | [] => ⟨before, [], index⟩ :: earlier
  | c :: after =>
    if most = some 0 || !p c then ⟨before, c :: after, index⟩ :: earlier
    else reach p (most.map (· - 1)) (c :: before) (index + 1)
      (⟨before, c :: after, index⟩ :: earlier) after

/-- The first of these places from which the rest matches; the first `skipped` are passed over. -/
def firstMatch (p : Char → Bool) (k : Cursor → Option State) (skipped : Nat) (most : Option Nat)
    (before : Text) (index : Nat) : (after : Text) → Option State
  | [] => if skipped = 0 then k ⟨before, [], index⟩ else none
  | c :: after =>
    match if skipped = 0 then k ⟨before, c :: after, index⟩ else none with
    | some r => some r
    | none =>
      if most = some 0 || !p c then none
      else firstMatch p k (skipped - 1) (most.map (· - 1)) (c :: before) (index + 1) after

def repeatedSingle (p : Char → Bool) (bounds : Bounds) (greed : Greed) (k : Continuation)
    (s : State) : Option State :=
  let ⟨before, after, index⟩ := s.cursor
  let longest (_ : Unit) :=
    let reached := reach p bounds.most before index [] after
    reached.take (reached.length - bounds.least)
  match greed with
  | .greedy => (longest ()).findSome? fun c => k (s.moved c)
  | .lazy => firstMatch p (fun c => k (s.moved c)) bounds.least bounds.most before index after
  | .possessive => (longest ()).head?.bind fun c => k (s.moved c)

end Matcher

/-- Matches a pattern from a state on, and then what `k` asks for. -/
def Node.run : Node → Flags → (k : Continuation) → Continuation
  | .empty, _, k, s => k s
  | .single c, f, k, s =>
    match s.step? f c with
    | some s' => k s'
    | none => none
  | .anchor a, f, k, s => if s.cursor.holds f a then k s else none
  | .reference n, f, k, s =>
    match (s.group? n).bind fun t => s.after? f t with
    | some s' => k s'
    | none => none
  | .sequence a b, f, k, s => a.run f (b.run f k) s
  | .choice a b, f, k, s =>
    match a.run f k s with
    | some r => some r
    | none => b.run f k s
  | .capture n body, f, k, s => body.run f (fun s => k (s.closed n)) (s.opened n)
  | .flagged on off body, f, k, s => body.run (f.within on off) k s
  | .repetition bounds greed (.single c), f, k, s =>
    Matcher.repeatedSingle (c.holds f) bounds greed k s
  | .repetition bounds greed body, f, k, s => Matcher.repeated (body.run f) bounds greed k s
  | .atomic body, f, k, s =>
    match body.run f some s with
    | some s' => k s'
    | none => none
  | .ahead wanted body, f, k, s =>
    match body.run f some s, wanted with
    | some s', true => k (s'.moved s.cursor)
    | none, false => k s
    | _, _ => none
  | .behind wanted length body, f, k, s =>
    match (s.cursor.back? length).bind fun c => body.run f some (s.moved c), wanted with
    | some s', true => k (s'.moved s.cursor)
    | none, false => k s
    | _, _ => none
  | .conditional n yes no, f, k, s =>
    if (s.group? n).isSome then yes.run f k s else no.run f k s

def Node.foundFrom (node : Node) (f : Flags) (groups : Nat) (before : Text) (index : Nat) :
    Text → Bool
  | [] => found []
  | c :: t => found (c :: t) || foundFrom node f groups (c :: before) (index + 1) t
where
  found (after : Text) : Bool :=
    (node.run f some ⟨⟨before, after, index⟩, List.replicate groups {}⟩).isSome

end FieldRules.Regex
