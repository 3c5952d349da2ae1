import FieldRules.Proofs.Regex.Delimited
import FieldRules.Proofs.Run.Alone

/-! Patterns of characters that stand for themselves. Such a pattern is in the texts that have it as a
part. Between the two anchors it is the whole text, or all of it before a last line end. -/
namespace FieldRules
namespace Regex

def IsLiteral (c : Char) : Prop := c ∉ ".^$*+?\x7b\x7d[]\\|()".toList

instance (c : Char) : Decidable (IsLiteral c) := by unfold IsLiteral; infer_instance

def IsSimple (c : Char) : Prop := IsLiteral c ∨ c = '^' ∨ c = '$'

instance (c : Char) : Decidable (IsSimple c) := by unfold IsSimple; infer_instance

private theorem IsSimple.ne {c a : Char} (h : IsSimple c) (ha : ¬ IsSimple a) : c ≠ a := by
  rintro rfl
  exact ha h

namespace Node

def ofSimple (c : Char) : Node :=
  if c = '^' then .anchor .start else if c = '$' then .anchor .finish
  else .single (.code c.toNat false)

private theorem ofSimple_literal {c : Char} (h : IsLiteral c) :
    ofSimple c = .single (.code c.toNat false) := by
  have hstart : c ≠ '^' := by
    rintro rfl
    revert h
    decide
  have hfinish : c ≠ '$' := by
    rintro rfl
    revert h
    decide
  rw [ofSimple, if_neg hstart, if_neg hfinish]

end Node

/-! ### Reading -/

private theorem Token.ofText_of_notMem {t : Text} (h : '\\' ∉ t) : ofText t = t.map .plain := by
  fun_induction ofText t <;> simp_all

namespace Draft

def adding (d : Draft) : List Node → Draft := List.foldl add d

private theorem adding_level (d : Draft) (ns : List Node) :
    d.adding ns = { d with level := { d.level with
      items := (ns.map Item.node).reverse ++ d.level.items } } := by
  induction ns generalizing d with
  | nil => rfl
  | cons n ns ih =>
    change (d.add n).adding ns = _
    rw [ih]
    simp [add, Level.add]

/-- A simple character adds its node and nothing else. -/
theorem readPlain_simple {d : Draft} (hd : d.level.verbose = false) {c : Char} (h : IsSimple c)
    (ts : List Token) : d.readPlain c ts = .ok (d.add (.ofSimple c), ts) := by
  unfold readPlain
  simp only [hd, Bool.false_and, Bool.false_eq_true, if_false]
  rcases h with h | rfl | rfl
  · rw [Node.ofSimple_literal h]
    split <;> first | rfl | exact absurd (by decide) h
  · rfl
  · rfl

/-- The nodes come in the order of the characters, and no group is opened or closed. -/
theorem run_simple {body : Text} {d : Draft} {room : Nat} (h : ∀ c ∈ body, IsSimple c)
    (hd : d.level.verbose = false) (hroom : body.length ≤ room) :
    run room d (body.map .plain) = (d.adding (body.map .ofSimple)).finish := by
  induction body generalizing d room with
  | nil => cases room <;> rfl
  | cons c body ih =>
    obtain ⟨hc, hbody⟩ := List.forall_mem_cons.1 h
    cases room with
    | zero => cases hroom
    | succ room =>
      have hnext : d.step (.plain c) (body.map .plain) =
          .ok (d.add (.ofSimple c), body.map .plain) := readPlain_simple hd hc _
      have hclose : ¬ ((Token.plain c = .plain ')' && d.outer.isEmpty) = true) := by
        simp [hc.ne (by decide : ¬ IsSimple ')')]
      rw [List.map_cons, run_cons, if_neg hclose, hnext]
      exact ih hbody hd (Nat.le_of_succ_le_succ hroom)

private theorem ofText_simple {body : Text} (h : ∀ c ∈ body, IsSimple c) :
    ofText {} body = .ok ((start {}).adding (body.map .ofSimple)) := by
  have hplain : '\\' ∉ body := fun hm => (h _ hm).ne (by decide) rfl
  rw [ofText, Token.ofText_of_notMem hplain, run_simple h rfl (by simp), adding_level]
  rfl

end Draft

def ofSimple (body : Text) : Regex :=
  ⟨body, { unicode := true }, 0, .ofList (body.map .ofSimple)⟩

/-- A literal body compiles to one branch with its characters in order. -/
private theorem ofBody_simple {body : Text} (h : ∀ c ∈ body, IsSimple c) :
    ofBody {} body = .ok (ofSimple body) := by
  have hnode : ((Draft.start {}).adding (body.map .ofSimple)).level.node =
      .ofList (body.map .ofSimple) := by
    rw [Draft.adding_level]
    simp [Draft.start, Level.node, Level.nodes, Level.branch, Item.nodes, List.flatMap_map,
      ← List.map_eq_flatMap]
  rw [ofBody, Draft.ofText_simple h]
  change Except.ok (Regex.mk body _ _ _) = _
  rw [hnode, Draft.adding_level]
  rfl

/-! ### Matching -/

/-- A pattern is found if it matches behind some part at the front of the text. -/
theorem Node.foundFrom_iff {node : Node} {f : Flags} {groups : Nat} {before t : Text} {i : Nat} :
    node.foundFrom f groups before i t ↔ ∃ front rest, front ++ rest = t ∧
      foundFrom.found node f groups (front.reverse ++ before) (i + front.length) rest := by
  induction t generalizing before i with
  | nil =>
    constructor
    · intro h
      exact ⟨[], [], rfl, h⟩
    · rintro ⟨front, rest, ht, h⟩
      obtain ⟨rfl, rfl⟩ := List.append_eq_nil_iff.1 ht
      exact h
  | cons c t ih =>
    rw [foundFrom, Bool.or_eq_true, ih]
    constructor
    · rintro (h | ⟨front, rest, rfl, h⟩)
      · exact ⟨[], c :: t, rfl, h⟩
      · refine ⟨c :: front, rest, rfl, ?_⟩
        simpa [Nat.add_assoc, Nat.add_comm 1] using h
    · rintro ⟨front, rest, ht, h⟩
      rcases front with _ | ⟨a, front⟩
      · cases ht
        exact .inl h
      · cases ht
        refine .inr ⟨front, rest, rfl, ?_⟩
        simpa [Nat.add_assoc, Nat.add_comm 1] using h

section
variable {f : Flags} {k : Continuation} {before after s : Text} {i : Nat} {groups : List Captured}

private theorem Cursor.holds_start (hf : f.multiline = false) {c : Cursor} :
    c.holds f .start ↔ c.before = [] := by
  simp [holds, hf]

private theorem Cursor.holds_finish (hf : f.multiline = false) {c : Cursor} :
    c.holds f .finish ↔ c.after = [] ∨ c.after = ['\n'] := by
  simp [holds, hf]

private theorem Node.run_anchor (a : Anchor) (ns : List Node) {st : State} :
    ((ofList (.anchor a :: ns)).run f k st).isSome ↔
      st.cursor.holds f a ∧ ((ofList ns).run f k st).isSome := by
  change (ite (st.cursor.holds f a = true) ((ofList ns).run f k st) none).isSome ↔ _
  split <;> simp [*]

private theorem Single.holds_code (hf : f.ignoreCase = false) {c a : Char} :
    holds f (.code c.toNat false) a ↔ a = c := by
  simp [holds, codeHolds, hf, Char.toNat_inj]

/-- Literals match themselves, and what follows them has to match behind them. -/
theorem Node.run_literal (hf : f.ignoreCase = false) (h : ∀ c ∈ s, IsLiteral c) (ns : List Node) :
    ((ofList (s.map ofSimple ++ ns)).run f k ⟨⟨before, after, i⟩, groups⟩).isSome ↔
      ∃ rest, s ++ rest = after ∧
        ((ofList ns).run f k ⟨⟨s.reverse ++ before, rest, i + s.length⟩, groups⟩).isSome := by
  induction s generalizing before after i with
  | nil => simp
  | cons c s ih =>
    obtain ⟨hc, hs⟩ := List.forall_mem_cons.1 h
    change ((ofSimple c).run f ((ofList (s.map ofSimple ++ ns)).run f k) _).isSome ↔ _
    rw [ofSimple_literal hc, run]
    rcases after with _ | ⟨a, after⟩
    · simp [State.step?, Cursor.next?]
    · by_cases hac : a = c
      · have hstep : State.step? f (.code c.toNat false) ⟨⟨before, a :: after, i⟩, groups⟩ =
            some ⟨⟨a :: before, after, i + 1⟩, groups⟩ :=
          if_pos ((Single.holds_code hf).2 hac)
        rw [hstep]
        change ((ofList (s.map ofSimple ++ ns)).run f k _).isSome ↔ _
        rw [ih hs]
        subst hac
        simp [Nat.add_assoc, Nat.add_comm 1]
      · have hstep : State.step? f (.code c.toNat false) ⟨⟨before, a :: after, i⟩, groups⟩ = none :=
          if_neg fun h => hac ((Single.holds_code hf).1 h)
        rw [hstep]
        simp [Ne.symm hac]

end

/-- A pattern of literals is in the texts that have it as a part. -/
theorem search_literal {s t : Text} (h : ∀ c ∈ s, IsLiteral c) :
    (ofSimple s).search t ↔ s <:+: t := by
  have hfound : ∀ before rest i, Node.foundFrom.found (.ofList (s.map .ofSimple)) { unicode := true }
      0 before i rest ↔ s <+: rest := by
    intro before rest i
    have hcase : ({ unicode := true } : Flags).ignoreCase = false := rfl
    have hnil : s.map Node.ofSimple = s.map Node.ofSimple ++ [] := (List.append_nil _).symm
    rw [hnil]
    refine (Node.run_literal hcase h []).trans ?_
    simp [Node.ofList, Node.run, List.IsPrefix]
  rw [search, ofSimple, Node.foundFrom_iff]
  simp only [hfound]
  constructor
  · rintro ⟨front, rest, rfl, h⟩
    exact h.isInfix.trans (List.suffix_append front rest).isInfix
  · rintro ⟨front, rest, rfl⟩
    exact ⟨front, s ++ rest, (List.append_assoc ..).symm, List.prefix_append s rest⟩

/-- The pattern of literals between the anchors is in the text of these characters, with or without a
line end behind them. -/
theorem search_anchored {s t : Text} (h : ∀ c ∈ s, IsLiteral c) :
    (ofSimple ('^' :: (s ++ ['$']))).search t ↔ t = s ∨ t = s ++ ['\n'] := by
  have hnodes : ('^' :: (s ++ ['$'])).map Node.ofSimple =
      .anchor .start :: (s.map Node.ofSimple ++ [.anchor .finish]) := by
    rw [List.map_cons, List.map_append]
    rfl
  have hfound : ∀ before rest i, Node.foundFrom.found
      (.ofList (.anchor .start :: (s.map .ofSimple ++ [.anchor .finish]))) { unicode := true }
        0 before i rest ↔ before = [] ∧ (rest = s ∨ rest = s ++ ['\n']) := by
    intro before rest i
    have hcase : ({ unicode := true } : Flags).ignoreCase = false := rfl
    have hline : ({ unicode := true } : Flags).multiline = false := rfl
    refine (Node.run_anchor .start _).trans ?_
    simp only [Node.run_literal hcase h, Node.run_anchor, Cursor.holds_start hline,
      Cursor.holds_finish hline]
    constructor
    · rintro ⟨hstart, _, rfl, hend | hend, -⟩
      · exact ⟨hstart, .inl (by rw [hend, List.append_nil])⟩
      · exact ⟨hstart, .inr (by rw [hend])⟩
    · rintro ⟨hstart, rfl | rfl⟩
      · exact ⟨hstart, [], List.append_nil _, .inl rfl, rfl⟩
      · exact ⟨hstart, _, rfl, .inr rfl, rfl⟩
  rw [search, ofSimple, hnodes, Node.foundFrom_iff]
  simp only [hfound, List.append_nil, List.reverse_eq_nil_iff]
  constructor
  · rintro ⟨front, rest, rfl, rfl, h⟩
    exact h
  · intro h
    exact ⟨[], t, rfl, rfl, h⟩

/-! ### Judging -/

/-- A simple pattern without letters behind it is read as its body. It opens no group, so that there
is room for it. -/
theorem regex_simple {opening : Char} (ho : isDelimiter opening) {body : Text}
    (h : ∀ c ∈ body, IsSimple c) (s : Surroundings) :
    s.regex (opening :: (body ++ [closing opening])) = .ok (some (ofSimple body)) := by
  obtain ⟨hword, hblank, hescape⟩ := isDelimiter_iff.1 ho
  let d : Delimited := ⟨opening, body, [], hword, hblank, hescape, by simp⟩
  have flat : '(' ∉ d.body := fun hm => absurd (h _ hm) (by decide)
  exact (d.regex_text_of_flat s flat).trans (d.ofDelimited_eq_some_iff.2 (ofBody_simple h))

end Regex

def matching (opening : Char) (body : Text) : Value :=
  .list [.text ("regex:".toList ++ opening :: (body ++ [Regex.closing opening]))]

def mismatch : Text := "The value does not match the required pattern.".toList

section
variable {registry : Registry} (hr : Checker.regex ∈ registry.inUse.checkers)
  {data : FieldMap Value} (s : Surroundings) {field t : Text} (ht : (data.held field).asText = .ok t)
  {opening : Char} (ho : Regex.isDelimiter opening)
include hr ht ho

private theorem says_matching_iff {body : Text} (h : ∀ c ∈ body, Regex.IsSimple c)
    {messages : List Text} :
    Says registry data s field (matching opening body) messages ↔
      (if (Regex.ofSimple body).search t then [] else [mismatch]) = messages := by
  have hcheck : Checker.check field (data.held field) data s .regex
      (opening :: (body ++ [Regex.closing opening])) =
        .silent (Checker.writeMessage .regex (opening :: (body ++ [Regex.closing opening])))
          (.ok ((Regex.ofSimple body).search t)) := by
    simp only [Checker.check, Trial.matchesPattern, Regex.regex_simple ho h, ht, Except.map]
  refine (says_token_iff (by decide) hr rfl hcheck).trans ?_
  simp only [Except.ok.injEq]
  rfl

/-- Whatever the delimiters, which may be part of the literals, the literals pass if and only if the
text of the value has them as a part; and between the two anchors if and only if they are this text, or
this text without one last line end. Every other value gets the one message. -/
theorem regex_passes_of_literal {literals : Text} (h : ∀ c ∈ literals, Regex.IsLiteral c) :
    ((Says registry data s field (matching opening literals) [] ↔ literals <:+: t) ∧
      (Says registry data s field (matching opening literals) [mismatch] ↔ ¬ literals <:+: t)) ∧
    ((Says registry data s field (matching opening ('^' :: (literals ++ ['$']))) [] ↔
        t = literals ∨ t = literals ++ ['\n']) ∧
      (Says registry data s field (matching opening ('^' :: (literals ++ ['$']))) [mismatch] ↔
        ¬ (t = literals ∨ t = literals ++ ['\n']))) := by
  have hplain : ∀ c ∈ literals, Regex.IsSimple c := fun c hc => .inl (h c hc)
  have hanchored : ∀ c ∈ '^' :: (literals ++ ['$']), Regex.IsSimple c := by
    intro c hc
    rcases List.mem_cons.1 hc with rfl | hc
    · exact .inr (.inl rfl)
    rcases List.mem_append.1 hc with hc | hc
    · exact hplain c hc
    · exact .inr (.inr (List.mem_singleton.1 hc))
  simp only [says_matching_iff hr s ht ho hplain, says_matching_iff hr s ht ho hanchored,
    ← Regex.search_literal h, ← Regex.search_anchored h]
  simp

end

/-- A text with a line end, one where the match begins at the second of two equal characters, and a
number. -/
def paths : FieldMap Value :=
  ⟨[("line".toList, .text "a/b\n".toList), ("deep".toList, .text "aa/b".toList),
    ("count".toList, .int 1001)], by decide⟩

/-- The delimiter is one of the literals, and a number is judged by its text. -/
theorem paths_matched :
    let whole := '^' :: ("a/b".toList ++ ['$'])
    (Says .standard paths .offline "line".toList (matching '/' whole) [] ∧
      Says .standard paths .offline "deep".toList (matching '/' whole) [mismatch]) ∧
    (Says .standard paths .offline "deep".toList (matching '/' "a/b".toList) [] ∧
      Says .standard paths .offline "count".toList (matching '<' "01".toList) []) ∧
    Says .standard paths .offline "count".toList (matching '<' "11".toList) [mismatch] := by
  intro whole
  have hr : Checker.regex ∈ Registry.standard.inUse.checkers := by decide
  have hline : (paths.held "line".toList).asText = .ok "a/b\n".toList := rfl
  have hdeep : (paths.held "deep".toList).asText = .ok "aa/b".toList := rfl
  have hcount : (paths.held "count".toList).asText = .ok "1001".toList := by decide +kernel
  have hslash : Regex.isDelimiter '/' := by decide +kernel
  have hangle : Regex.isDelimiter '<' := by decide +kernel
  have hpath : ∀ c ∈ "a/b".toList, Regex.IsLiteral c := by simp [Regex.IsLiteral]
  have hinner : ∀ c ∈ "01".toList, Regex.IsLiteral c := by simp [Regex.IsLiteral]
  have houter : ∀ c ∈ "11".toList, Regex.IsLiteral c := by simp [Regex.IsLiteral]
  refine ⟨⟨?_, ?_⟩, ⟨?_, ?_⟩, ?_⟩
  · exact (regex_passes_of_literal hr .offline hline hslash hpath).2.1.2 (.inr rfl)
  · exact (regex_passes_of_literal hr .offline hdeep hslash hpath).2.2.2 (by decide)
  · exact (regex_passes_of_literal hr .offline hdeep hslash hpath).1.1.2 (by decide)
  · exact (regex_passes_of_literal hr .offline hcount hangle hinner).1.1.2 (by decide)
  · exact (regex_passes_of_literal hr .offline hcount hangle houter).1.2.2 (by decide)

end FieldRules
