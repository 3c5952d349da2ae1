import FieldRules.Regex
import Mathlib.Logic.Relation

/-! Reading a pattern under more flags than it was given. Flags other than the verbose one change
nothing about the steps, so that a draft under more flags is the same draft with these flags. -/
namespace FieldRules.Regex

namespace Draft

def plus (f : Flags) (d : Draft) : Draft := { d with flags := d.flags.union f }

def Step.plus (f : Flags) (x : Step) : Step := x.map (Prod.map (Draft.plus f) id)

variable {f : Flags} (d : Draft) (ts : List Token)

private theorem plus_refer (n : Nat) : (d.plus f).refer n ts = (d.refer n ts).plus f := by
  have hd : (((d.plus f).width? n).isSome && (d.plus f).isWithinFence n) =
      ((d.width? n).isSome && d.isWithinFence n) := rfl
  rw [refer, refer, hd]
  split <;> rfl

private theorem plus_repeated (bounds : Bounds) :
    (d.plus f).repeated bounds ts = (d.repeated bounds ts).plus f := by
  have hd : (d.plus f).level = d.level := rfl
  unfold repeated
  rw [hd]
  split
  · rfl
  · split <;> rfl

private theorem plus_nest (enclosure : Enclosure) (verbose : Bool) :
    (d.plus f).nest enclosure verbose ts = (d.nest enclosure verbose ts).plus f := rfl

private theorem plus_nextBranch : (d.plus f).nextBranch ts = (d.nextBranch ts).plus f := by
  have hd : (d.plus f).level = d.level := rfl
  cases h : d.level.enclosure <;> simp only [nextBranch, hd, h] <;> rfl

private theorem plus_close (around : Level) (outer : List Level) :
    (d.plus f).close around outer ts = (d.close around outer ts).plus f := by
  have hd : (d.plus f).level = d.level := rfl
  unfold close
  simp only [hd]
  cases d.level.enclosure with
  | behind wanted outermost =>
    have hwidth : ∀ n, width { d.plus f with level := around, outer := outer } n =
      width { d with level := around, outer := outer } n := fun n => rfl
    simp only [hwidth]
    split <;> rfl
  | _ => rfl

private theorem union_comm (f g h : Flags) : (f.union g).union h = (f.union h).union g := by
  simp only [Flags.union, Flags.mk.injEq]
  refine ⟨?_, ?_, ?_, ?_, ?_, ?_, ?_⟩ <;> exact Bool.or_right_comm _ _ _

/-- Only the verbose flag of the whole pattern changes how the pattern is read from there on. -/
theorem plus_openGroup (hf : f.verbose = false) (group : Group) :
    (d.plus f).openGroup group ts = (d.openGroup group ts).plus f := by
  cases group with
  | comment => rfl
  | settings flags =>
    have hd : (d.plus f).isAtStart = d.isAtStart := rfl
    have hflags : (d.plus f).flags.union flags = (d.flags.union flags).union f :=
      union_comm d.flags f flags
    have hverbose : ((d.flags.union flags).union f).verbose = (d.flags.union flags).verbose := by
      simp [Flags.union, hf]
    unfold openGroup
    simp only [hd, hflags, hverbose]
    split <;> rfl
  | reference name =>
    have hd : (d.plus f).names = d.names := rfl
    unfold openGroup
    simp only [hd]
    split
    · exact plus_refer d ts _
    · rfl
  | capture name =>
    have hd : (d.plus f).names = d.names := rfl
    cases name with
    | none => exact plus_nest { d with widths := d.widths ++ [none] } ts _ _
    | some name =>
      simp only [openGroup, hd]
      split
      · rfl
      · exact plus_nest { d with widths := d.widths ++ [none], names := _ } ts _ _
  | conditional text =>
    have hfence : ∀ (e : Draft) (n : Nat),
        (if (e.plus f).isWithinFence n then
          (e.plus f).nest (.satisfied n) d.level.verbose ts else .error .malformed) =
        Step.plus f (if e.isWithinFence n then
          e.nest (.satisfied n) d.level.verbose ts else .error .malformed) := by
      intro e n
      have he : (e.plus f).isWithinFence n = e.isWithinFence n := rfl
      rw [he]
      split
      · exact plus_nest e ts _ _
      · rfl
    have hd : (d.plus f).condition text = d.condition text := rfl
    simp only [openGroup, hd]
    cases d.condition text with
    | error e => rfl
    | ok n =>
      simp only [bind, Except.bind]
      split
      · exact hfence d n
      · exact hfence { d with conditions := n :: d.conditions } n
  | behind wanted =>
    exact plus_nest { d with fence := some (d.fence.getD (d.widths.length + 1)) } ts _ _
  | _ => exact plus_nest d ts _ _

private theorem plus_readPlain (hf : f.verbose = false) (c : Char) :
    (d.plus f).readPlain c ts = (d.readPlain c ts).plus f := by
  have hlevel : (d.plus f).level = d.level := rfl
  have houter : (d.plus f).outer = d.outer := rfl
  unfold readPlain
  simp only [hlevel, houter]
  split
  · rfl
  split
  · rfl
  split
  · exact plus_nextBranch d ts
  · split
    · rfl
    · exact plus_close d ts _ _
  · cases Single.readBracket ts <;> rfl
  · exact plus_repeated d ts _
  · exact plus_repeated d ts _
  · exact plus_repeated d ts _
  · cases Bounds.readBraces ts with
    | error e => rfl
    | ok found =>
      cases found with
      | none => rfl
      | some found => exact plus_repeated d found.2 found.1
  · rfl
  · cases Group.read ts with
    | error e => rfl
    | ok found => exact plus_openGroup d found.2 hf found.1
  · rfl
  · rfl
  · rfl

private theorem plus_readEscape (c : Char) :
    (d.plus f).readEscape c ts = (d.readEscape c ts).plus f := by
  unfold readEscape
  cases Escape.read c ts with
  | error e => rfl
  | ok found =>
    obtain ⟨escape, rest⟩ := found
    cases escape with
    | reference n => exact plus_refer d rest n
    | _ => rfl

/-- A step under more flags is the same step. -/
theorem plus_step (hf : f.verbose = false) (t : Token) :
    (d.plus f).step t ts = (d.step t ts).plus f := by
  cases t with
  | plain c => exact plus_readPlain d ts hf c
  | escaped c => exact plus_readEscape d ts c
  | dangling => rfl

/-! ### Runs -/

/-- One step on, with the tokens that are left. -/
def Moves (x y : Draft × List Token) : Prop :=
  ∃ t ts, x.2 = t :: ts ∧ x.1.step t ts = .ok y

/-- A run takes a step, if there is room for one and the pattern is not ended by a parenthesis. -/
theorem run_cons (room : Nat) (d : Draft) (t : Token) (ts : List Token) :
    run (room + 1) d (t :: ts) =
      if t = .plain ')' && d.outer.isEmpty then d.check >>= fun _ => .error .malformed
      else d.step t ts >>= fun x => run room x.1 x.2 := by
  rw [run]
  split
  · rfl
  · cases d.step t ts <;> rfl

/-- Flags that are set stay set. -/
theorem flags_of_step {d d' : Draft} {t : Token} {ts rest : List Token} {g : Flags}
    (hg : g.verbose = false) (hset : d.flags.union g = d.flags) (h : d.step t ts = .ok (d', rest)) :
    d'.flags.union g = d'.flags := by
  have hplus : d.plus g = d := by rw [Draft.plus, hset]
  have hstep := plus_step d ts hg t
  rw [hplus, h] at hstep
  have hd : d' = d'.plus g := congrArg Prod.fst (Except.ok.inj hstep)
  exact (congrArg flags hd).symm

private theorem check_eq_error {d : Draft} (h : d.flags.conflict) :
    d.check = .error (.broken .lettersOfTwoKinds) := by
  rw [check, if_pos h]

private theorem conflict_iff (g : Flags) :
    g.conflict ↔ g.union { ascii := true, unicode := true } = g := by
  cases g
  simp [Flags.conflict, Flags.union]

/-- Once letters of both kinds are asked for, the pattern is not read to its end. -/
theorem run_of_conflict (room : Nat) {d : Draft} (ts : List Token) (h : d.flags.conflict) (e : Draft) :
    run room d ts ≠ .ok e := by
  have hfinish : ∀ {d : Draft}, d.flags.conflict → d.finish ≠ .ok e := by
    intro d h he
    rw [finish, check_eq_error h] at he
    split at he <;> cases he
  induction room generalizing d ts with
  | zero =>
    cases ts with
    | nil => exact hfinish h
    | cons t ts => simp [run]
  | succ room ih =>
    cases ts with
    | nil => exact hfinish h
    | cons t ts =>
      rw [run_cons, check_eq_error h]
      split
      · simp [bind, Except.bind]
      · cases hs : d.step t ts with
        | error e => simp [bind, Except.bind]
        | ok x => exact ih x.2 ((conflict_iff _).2 (flags_of_step rfl ((conflict_iff _).1 h) hs))

abbrev plusUnicode (d : Draft) : Draft := d.plus { unicode := true }

/-- The letter for wide classes disturbs a check only beside the one for narrow classes. -/
private theorem check_plusUnicode {d : Draft} (h : d.flags.ascii = false) :
    d.plusUnicode.check = d.check := by
  have hd : d.plusUnicode.flags.conflict = d.flags.conflict := by
    simp [plus, Flags.conflict, Flags.union, h]
  rw [check, check, hd]

private theorem finish_plusUnicode {d : Draft} (h : d.flags.ascii = false) :
    d.plusUnicode.finish = d.finish.map plusUnicode := by
  have hplain : d.plusUnicode.flags.plain = d.flags.plain := by simp [plus, Flags.union]
  have hrest : d.plusUnicode.outer = d.outer ∧ d.plusUnicode.flawed = d.flawed ∧
    d.plusUnicode.conditions = d.conditions ∧ d.plusUnicode.widths = d.widths ∧
    d.plusUnicode.hasRepetitions = d.hasRepetitions := ⟨rfl, rfl, rfl, rfl, rfl⟩
  obtain ⟨houter, hflawed, hconditions, hwidths, hrepetitions⟩ := hrest
  rw [finish, finish, check_plusUnicode h, hplain, houter, hflawed, hconditions, hwidths, hrepetitions]
  split
  · rfl
  · cases d.check with
    | error e => rfl
    | ok u => simp only [bind, Except.bind]; split <;> rfl

/-- Where letters of ASCII are never asked for, asking for those of all scripts changes nothing. -/
theorem run_plusUnicode (room : Nat) {d : Draft} {ts : List Token}
    (h : ∀ y, Relation.ReflTransGen Moves (d, ts) y → y.1.flags.ascii = false) :
    run room d.plusUnicode ts = (run room d ts).map plusUnicode := by
  have hd : d.flags.ascii = false := h _ .refl
  induction room generalizing d ts with
  | zero =>
    cases ts with
    | nil => exact finish_plusUnicode hd
    | cons t ts => rfl
  | succ room ih =>
    cases ts with
    | nil => exact finish_plusUnicode hd
    | cons t ts =>
      have houter : d.plusUnicode.outer = d.outer := rfl
      rw [run_cons, run_cons, check_plusUnicode hd, houter, plus_step d ts rfl t]
      split
      · cases d.check <;> rfl
      · cases hs : d.step t ts with
        | error e => rfl
        | ok x =>
          have hx : ∀ y, Relation.ReflTransGen Moves x y → y.1.flags.ascii = false :=
            fun y hy => h y (.head ⟨t, ts, rfl, hs⟩ hy)
          exact ih hx (hx x .refl)

/-- Where letters of ASCII are asked for on the way, asking for those of all scripts as well leaves
nothing that is read. -/
theorem run_plusUnicode_of_ascii {x y : Draft × List Token} (h : Relation.ReflTransGen Moves x y)
    (hy : y.1.flags.ascii) (room : Nat) (e : Draft) : run room x.1.plusUnicode x.2 ≠ .ok e := by
  induction h using Relation.ReflTransGen.head_induction_on generalizing room with
  | refl => exact run_of_conflict room y.2 (by simp [plus, Flags.conflict, Flags.union, hy]) e
  | @head x z hxz _ ih =>
    obtain ⟨t, ts, hts, hs⟩ := hxz
    rw [hts]
    cases room with
    | zero => simp [run]
    | succ room =>
      rw [run_cons, plus_step x.1 ts rfl t, hs]
      split
      · cases check _ <;> simp [bind, Except.bind]
      · exact ih room

end Draft

/-- Reading the body under the flags comes to a setting that asks for letters of ASCII. -/
def AsksForAscii (f : Flags) (body : Text) : Prop :=
  ∃ y, Relation.ReflTransGen Draft.Moves (Draft.start f, Token.ofText body) y ∧ y.1.flags.ascii

private theorem start_union_unicode (f : Flags) :
    Draft.start (f.union { unicode := true }) = (Draft.start f).plusUnicode := by
  simp [Draft.start, Draft.plus, Flags.union]

/-- Letters of all scripts are meant anyway, unless the body asks for those of ASCII. -/
theorem ofBody_union_unicode {f : Flags} {body : Text} (h : ¬ AsksForAscii f body) :
    ofBody (f.union { unicode := true }) body = ofBody f body := by
  have hnone : ∀ y, Relation.ReflTransGen Draft.Moves (Draft.start f, Token.ofText body) y →
      y.1.flags.ascii = false :=
    fun y hy => Bool.eq_false_iff.2 fun ha => h ⟨y, hy, ha⟩
  rw [ofBody, ofBody, Draft.ofText, Draft.ofText, start_union_unicode, Draft.run_plusUnicode _ hnone]
  cases Draft.run (Token.ofText body).length (Draft.start f) (Token.ofText body) with
  | error e => rfl
  | ok d => simp [Except.map, bind, Except.bind, Draft.plus, Flags.union]

/-- A body that asks for letters of ASCII is not read where those of all scripts are asked for. -/
theorem ofBody_union_unicode_of_ascii {f : Flags} {body : Text} (h : AsksForAscii f body)
    (r : Regex) : ofBody (f.union { unicode := true }) body ≠ .ok r := by
  obtain ⟨y, hy, ha⟩ := h
  have hrun := Draft.run_plusUnicode_of_ascii hy ha (Token.ofText body).length
  rw [ofBody, Draft.ofText, start_union_unicode]
  cases hd : Draft.run (Token.ofText body).length (Draft.start f).plusUnicode (Token.ofText body) with
  | error e => simp [bind, Except.bind]
  | ok d => exact absurd hd (hrun d)

end FieldRules.Regex
