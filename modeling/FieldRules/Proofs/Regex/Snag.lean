import FieldRules.Proofs.Regex.Counts
import FieldRules.Proofs.Regex.Delimited
import FieldRules.Proofs.Regex.Parts

/-! Where the reading of a pattern breaks off: at a count that is too much, and at the end of a pattern
that asks for letters of two kinds. -/
namespace FieldRules.Regex
namespace Draft

/-- A draft with the tokens behind it at which reading breaks off. -/
inductive Snag : Draft × List Token → Fault → Prop where
  | count {d : Draft} {ts : List Token} {fault : Fault} (counts : Overflows ts fault) :
      Snag (d, .plain '\x7b' :: ts) fault
  | letters {d : Draft} {ts : List Token} (closed : d.outer = []) (ended : ∀ t ∈ ts.head?, t = .plain ')')
      (conflict : d.flags.conflict) : Snag (d, ts) .lettersOfTwoKinds

/-- What a step that goes on has done: it has taken a token and perhaps more, and flags are set by
settings alone. -/
structure Moved (d : Draft) (t : Token) (ts : List Token) (d' : Draft) (rest : List Token) : Prop where
  left : rest <:+ ts
  flags : d'.flags = d.flags ∨ ∃ ts' g rest', t = .plain '(' ∧ ts = .plain '?' :: ts' ∧
    Group.Gathered {} ts' g rest' ∧ d'.flags = d.flags.union g

inductive Outcome (d : Draft) (t : Token) (ts : List Token) : Step → Prop where
  | moved {d' : Draft} {rest : List Token} (h : Moved d t ts d' rest) : Outcome d t ts (.ok (d', rest))
  | malformed : Outcome d t ts (.error .malformed)
  | broken {fault : Fault} (h : Snag (d, t :: ts) fault) : Outcome d t ts (.error (.broken fault))

inductive Quiet (d : Draft) (ts : List Token) : Step → Prop where
  | moved {d' : Draft} {rest : List Token} (left : rest <:+ ts) (flags : d'.flags = d.flags) :
      Quiet d ts (.ok (d', rest))
  | malformed : Quiet d ts (.error .malformed)

section
variable {d : Draft} {ts rest : List Token} {x : Step}

private theorem Quiet.outcome (h : Quiet d ts x) (t : Token) : Outcome d t ts x := by
  cases h with
  | moved left flags => exact .moved ⟨left, .inl flags⟩
  | malformed => exact .malformed

private theorem Quiet.of_suffix (h : Quiet d rest x) (left : rest <:+ ts) : Quiet d ts x := by
  cases h with
  | moved left' flags => exact .moved (left'.trans left) flags
  | malformed => exact .malformed

private theorem Quiet.of_reads {α : Type} {y : Except Refusal (α × List Token)} (h : Reads ts y)
    (f : α → Node) : Quiet d ts (y >>= fun p => pure (d.add (f p.1), p.2)) := by
  cases h with
  | part a left => exact .moved left rfl
  | malformed => exact .malformed

private theorem quiet_add (n : Node) (left : rest <:+ ts) : Quiet d ts (.ok (d.add n, rest)) :=
  .moved left rfl

variable (d ts)

private theorem quiet_refer (n : Nat) : Quiet d ts (d.refer n ts) := by
  unfold refer
  split
  · exact .moved List.suffix_rfl rfl
  · exact .malformed

private theorem quiet_repeated (bounds : Bounds) : Quiet d ts (d.repeated bounds ts) := by
  unfold repeated
  split
  · exact .malformed
  · split
    · exact .malformed
    · dsimp only
      split
      · exact .moved (List.suffix_cons _ _) rfl
      · exact .moved (List.suffix_cons _ _) rfl
      · exact .moved List.suffix_rfl rfl

private theorem quiet_nextBranch : Quiet d ts (d.nextBranch ts) := by
  unfold nextBranch
  dsimp only
  split
  · exact .moved List.suffix_rfl rfl
  · exact .malformed
  · exact .moved List.suffix_rfl rfl

private theorem quiet_close (around : Level) (outer : List Level) :
    Quiet d ts (d.close around outer ts) := by
  unfold close
  dsimp only
  split
  case h_1 => exact .malformed
  case h_7 =>
    split
    · exact .moved List.suffix_rfl rfl
    · exact .moved List.suffix_rfl rfl
  all_goals exact .moved List.suffix_rfl rfl

private theorem quiet_readEscape (c : Char) : Quiet d ts (d.readEscape c ts) := by
  have hreads := Escape.read_reads c ts
  unfold readEscape
  cases hread : Escape.read c ts with
  | error problem =>
    rw [hread] at hreads
    cases hreads
    exact .malformed
  | ok found =>
    obtain ⟨escape, rest⟩ := found
    have left := hreads.left hread
    cases escape with
    | single s => exact .moved left rfl
    | anchor a => exact .moved left rfl
    | reference n => exact (quiet_refer d rest n).of_suffix left

end

section
variable {d : Draft} {ts rest : List Token} {group : Group}

private theorem quiet_nest {e : Draft} (left : rest <:+ ts) (flags : e.flags = d.flags)
    (enclosure : Enclosure) (verbose : Bool) : Quiet d ts (e.nest enclosure verbose rest) :=
  .moved left flags

/-- A condition that names no group is malformed. -/
theorem condition_error {text : Text} {problem : Refusal} (h : d.condition text = .error problem) :
    problem = .malformed := by
  unfold condition at h
  split at h
  · split at h <;> cases h
    rfl
  · split at h
    · split at h <;> cases h
      rfl
    · cases h
      rfl

private theorem quiet_conditional (left : rest <:+ ts) (text : Text) :
    Quiet d ts (d.openGroup (.conditional text) rest) := by
  cases hcondition : d.condition text with
  | error problem =>
    obtain rfl := condition_error hcondition
    simp only [openGroup, hcondition, bind, Except.bind]
    exact .malformed
  | ok n =>
    have hopened (e : Draft) (flags : e.flags = d.flags) :
        Quiet d ts (if e.isWithinFence n then e.nest (.satisfied n) d.level.verbose rest
          else .error .malformed) := by
      split
      · exact quiet_nest left flags _ _
      · exact .malformed
    simp only [openGroup, hcondition, bind, Except.bind]
    split
    · exact hopened d rfl
    · exact hopened { d with conditions := n :: d.conditions } rfl

/-- A group that is read is opened, or is none to be opened. -/
theorem outcome_openGroup (hread : Group.read ts = .ok (group, rest)) :
    Outcome d (.plain '(') ts (d.openGroup group rest) := by
  have left : rest <:+ ts := (Group.read_reads ts).left hread
  cases group with
  | comment => exact (Quiet.moved left rfl).outcome _
  | settings g =>
    obtain ⟨ts', rfl, hgathered⟩ := Group.gathered_of_read hread
    unfold openGroup
    dsimp only
    split
    · exact .moved ⟨left, .inr ⟨ts', g, rest, rfl, rfl, hgathered, rfl⟩⟩
    · exact .malformed
  | reference name =>
    unfold openGroup
    dsimp only
    split
    · exact ((quiet_refer d rest _).of_suffix left).outcome _
    · exact .malformed
  | capture name =>
    cases name with
    | none => exact (quiet_nest left (by rfl) _ _).outcome _
    | some name =>
      unfold openGroup
      dsimp only
      split
      · exact .malformed
      · exact (quiet_nest left (by rfl) _ _).outcome _
  | conditional text => exact (quiet_conditional left text).outcome _
  | _ => exact (quiet_nest left (by rfl) _ _).outcome _

private theorem outcome_readPlain (c : Char) : Outcome d (.plain c) ts (d.readPlain c ts) := by
  unfold readPlain
  split
  · exact (Quiet.moved List.suffix_rfl rfl).outcome _
  split
  · exact (Quiet.moved (List.dropWhile_suffix _) rfl).outcome _
  split
  · exact (quiet_nextBranch d ts).outcome _
  · split
    · exact .malformed
    · exact (quiet_close d ts _ _).outcome _
  · exact (Quiet.of_reads (Single.readBracket_reads ts) Node.single).outcome _
  · exact (quiet_repeated d ts _).outcome _
  · exact (quiet_repeated d ts _).outcome _
  · exact (quiet_repeated d ts _).outcome _
  · cases hread : Bounds.readBraces ts with
    | error problem =>
      cases problem with
      | malformed => exact .malformed
      | broken fault => exact .broken (.count (Bounds.readBraces_eq_broken_iff.1 hread))
    | ok found =>
      cases found with
      | none => exact (quiet_add _ List.suffix_rfl).outcome _
      | some found =>
        exact ((quiet_repeated d found.2 found.1).of_suffix (Bounds.readBraces_left hread)).outcome _
  · exact (quiet_add _ List.suffix_rfl).outcome _
  · have hreads := Group.read_reads ts
    cases hread : Group.read ts with
    | error problem =>
      rw [hread] at hreads
      cases hreads
      exact .malformed
    | ok found => exact outcome_openGroup hread
  · exact (quiet_add _ List.suffix_rfl).outcome _
  · exact (quiet_add _ List.suffix_rfl).outcome _
  · exact (quiet_add _ List.suffix_rfl).outcome _

variable (d ts)

/-- One step breaks off exactly at a snag, and moves on as the moves describe otherwise. -/
theorem step_outcome (t : Token) : Outcome d t ts (d.step t ts) := by
  cases t with
  | plain c => exact outcome_readPlain c
  | escaped c => exact (quiet_readEscape d ts c).outcome _
  | dangling => exact .malformed

end

/-! ### Breaking off -/

/-- At the end of a pattern that asks for letters of two kinds, no step is taken. -/
theorem step_of_snag {d : Draft} {t : Token} {ts : List Token} {fault : Fault}
    (h : Snag (d, t :: ts) fault) (hend : ¬ (t = .plain ')' ∧ d.outer = [])) :
    d.step t ts = .error (.broken fault) := by
  cases h with
  | count counts =>
    have hread := Bounds.readBraces_eq_broken_iff.2 counts
    have hblank : isBlank '\x7b' = false := by decide
    simp [step, readPlain, hblank, hread, bind, Except.bind]
  | letters closed ended conflict => exact absurd ⟨ended t rfl, closed⟩ hend

end Draft
end FieldRules.Regex
