import FieldRules.Proofs.Number
import FieldRules.Proofs.Regex.Snag
import FieldRules.Proofs.Run.Events
import Mathlib.Data.List.Infix

/-! Patterns that break off. Reading a pattern comes to a snag or to an answer; what comes to no snag
can be seen from its text where counts are small and letters of one kind. A rule with a pattern that
breaks off is answered with its message, and is told of as a check that failed. -/
namespace FieldRules.Regex
namespace Draft

def ComesTo (x : Draft × List Token) (fault : Fault) : Prop :=
  ∃ y, Relation.ReflTransGen Moves x y ∧ Snag y fault

section
variable {d : Draft} {t : Token} {ts : List Token} {fault : Fault}

private theorem comesTo_nil : ComesTo (d, []) fault ↔ Snag (d, []) fault := by
  constructor
  · rintro ⟨y, hreach, hsnag⟩
    rcases hreach.cases_head with rfl | ⟨z, ⟨t, ts, hts, -⟩, -⟩
    · exact hsnag
    · cases hts
  · exact fun h => ⟨_, .refl, h⟩

private theorem comesTo_cons : ComesTo (d, t :: ts) fault ↔
    Snag (d, t :: ts) fault ∨ ∃ z, d.step t ts = .ok z ∧ ComesTo z fault := by
  constructor
  · rintro ⟨y, hreach, hsnag⟩
    rcases hreach.cases_head with rfl | ⟨z, ⟨t', ts', hts, hstep⟩, hrest⟩
    · exact .inl hsnag
    · cases hts
      exact .inr ⟨z, hstep, y, hrest, hsnag⟩
  · rintro (h | ⟨z, hstep, y, hrest, hsnag⟩)
    · exact ⟨_, .refl, h⟩
    · exact ⟨y, hrest.head ⟨t, ts, rfl, hstep⟩, hsnag⟩

private theorem check_eq_broken_iff :
    d.check = .error (.broken fault) ↔ d.flags.conflict ∧ fault = .lettersOfTwoKinds := by
  rw [check]
  split
  · rename_i h
    simp [h, eq_comm]
  · rename_i h
    simp [h]

/-- At the end of a pattern, only the letters that it asks for are looked at. -/
theorem finish_eq_broken_iff : d.finish = .error (.broken fault) ↔ Snag (d, []) fault := by
  have hsnag : Snag (d, []) fault ↔ d.outer = [] ∧ d.flags.conflict ∧ fault = .lettersOfTwoKinds := by
    constructor
    · rintro (_ | ⟨closed, ended, conflict⟩)
      exact ⟨closed, conflict, rfl⟩
    · rintro ⟨closed, conflict, rfl⟩
      exact .letters closed (by simp) conflict
  rw [hsnag, ← check_eq_broken_iff, finish]
  cases houter : d.outer with
  | cons l outer => simp [throw, throwThe, MonadExceptOf.throw, bind, Except.bind]
  | nil =>
    simp only [List.isEmpty_nil, Bool.not_true, Bool.false_eq_true, if_false, true_and]
    cases d.check with
    | error problem => simp [bind, Except.bind]
    | ok u =>
      simp only [bind, Except.bind, pure, Except.pure]
      split <;> simp [throw, throwThe, MonadExceptOf.throw]

/-- So is it at a closing parenthesis with no group to close. -/
theorem end_eq_broken_iff (hend : t = .plain ')') (closed : d.outer = []) :
    (d.check >>= fun _ => (.error .malformed : Except Refusal Draft)) = .error (.broken fault) ↔
      ComesTo (d, t :: ts) fault := by
  subst hend
  have hstep : d.step (.plain ')') ts = .error .malformed := by
    have hblank : isBlank ')' = false := by decide
    simp [step, readPlain, hblank, closed]
  have hsnag : Snag (d, .plain ')' :: ts) fault ↔ d.flags.conflict ∧ fault = .lettersOfTwoKinds := by
    constructor
    · rintro (_ | ⟨closed, ended, conflict⟩)
      exact ⟨conflict, rfl⟩
    · rintro ⟨conflict, rfl⟩
      exact .letters closed (by simp) conflict
  rw [comesTo_cons, hstep, hsnag, ← check_eq_broken_iff]
  cases d.check <;> simp [bind, Except.bind]

end

/-- With room for all tokens, a run breaks off at a snag that it comes to, and nowhere else. The
induction is on the room; a step uses one token at least. -/
theorem run_eq_broken_iff {room : Nat} {d : Draft} {ts : List Token} {fault : Fault}
    (h : ts.length ≤ room) : run room d ts = .error (.broken fault) ↔ ComesTo (d, ts) fault := by
  induction room generalizing d ts with
  | zero =>
    obtain rfl := List.length_eq_zero_iff.1 (Nat.le_zero.1 h)
    rw [comesTo_nil, ← finish_eq_broken_iff, run]
  | succ room ih =>
    cases ts with
    | nil => rw [comesTo_nil, ← finish_eq_broken_iff, run]
    | cons t ts =>
      rw [run_cons]
      split
      · rename_i hend
        obtain ⟨ht, closed⟩ := Bool.and_eq_true_iff.1 hend
        exact end_eq_broken_iff (of_decide_eq_true ht) (List.isEmpty_iff.1 closed)
      · rename_i hend
        have hgo : ¬ (t = .plain ')' ∧ d.outer = []) := by simpa using hend
        have hsnag : ∀ {f}, Snag (d, t :: ts) f → d.step t ts = .error (.broken f) :=
          fun hs => step_of_snag hs hgo
        rw [comesTo_cons]
        cases hstep : d.step t ts with
        | ok z =>
          obtain ⟨d', rest⟩ := z
          have houtcome := step_outcome d ts t
          rw [hstep] at houtcome hsnag
          cases houtcome with
          | moved hmoved =>
            have hlength : rest.length ≤ room :=
              hmoved.left.length_le.trans (Nat.le_of_succ_le_succ h)
            simpa [bind, Except.bind, mt hsnag] using ih hlength
        | error problem =>
          have houtcome := step_outcome d ts t
          rw [hstep] at houtcome hsnag
          simp only [bind, Except.bind, Except.error.injEq, reduceCtorEq, false_and, exists_false,
            or_false]
          constructor
          · rintro rfl
            cases houtcome with
            | broken hs => exact hs
          · intro hs
            exact Except.error.inj (hsnag hs)

end Draft

def BreaksOff (f : Flags) (body : Text) (fault : Fault) : Prop :=
  Draft.ComesTo (Draft.start f, Token.ofText body) fault

/-- Compiling breaks off exactly when reading the body comes to a snag. -/
private theorem ofBody_eq_broken_iff {f : Flags} {body : Text} {fault : Fault} :
    ofBody f body = .error (.broken fault) ↔ BreaksOff f body fault := by
  rw [BreaksOff, ← Draft.run_eq_broken_iff (Nat.le_refl _), ofBody, Draft.ofText]
  cases Draft.run (Token.ofText body).length (Draft.start f) (Token.ofText body) <;>
    simp [bind, Except.bind, pure, Except.pure]

private theorem Delimited.ofDelimited_text_eq_error_iff (d : Delimited) {fault : Fault} :
    ofDelimited d.text = .error fault ↔ BreaksOff (Flags.named d.letters) d.body fault := by
  rw [← ofBody_eq_broken_iff, d.ofDelimited_text]
  split <;> simp_all

/-! ### Patterns that do not -/

namespace Token

private theorem flatMap_text_map_plain (ds : Text) : (ds.map plain).flatMap text = ds := by
  induction ds with
  | nil => rfl
  | cons c ds ih => rw [List.map_cons, List.flatMap_cons, ih, text, List.singleton_append]

private theorem infix_of_map_plain {ds t : Text} (h : ds.map plain <:+: ofText t) : ds <:+: t := by
  obtain ⟨before, after, h⟩ := h
  refine ⟨before.flatMap text, after.flatMap text, ?_⟩
  rw [← flatMap_text_ofText t, ← h, List.flatMap_append, List.flatMap_append, flatMap_text_map_plain]

private theorem mem_of_plain_mem {c : Char} {t : Text} (h : plain c ∈ ofText t) : c ∈ t := by
  rw [← flatMap_text_ofText t]
  exact List.mem_flatMap_of_mem h List.mem_cons_self

end Token

/-- No number that is too much for a count, and letters of one kind. -/
structure Tame (letters body : Text) : Prop where
  numbers : ∀ ds, ds <:+: body → (∀ c ∈ ds, c.isDigit) →
    ds.length ≤ 4300 ∧ Nat.ofDigitChars 10 ds 0 < 4294967295
  scripts : ['(', '?'] <:+: body → 'a' ∈ body → 'u' ∉ body ∧ 'u' ∉ letters

/-- Counts of which one is too much have a number in digits that is too much. -/
theorem exists_of_overflows {ts : List Token} {fault : Fault} (h : Overflows ts fault) :
    ∃ ds : Text, ds.map .plain <:+: ts ∧ (∀ c ∈ ds, c.isDigit) ∧ Excess ds fault := by
  obtain ⟨least, most, hcounts, hexcess⟩ := h
  cases hcounts with
  | one digits given behind =>
    have hexcess : Excess least fault := by simpa using hexcess
    exact ⟨least, ⟨[], _, rfl⟩, digits, hexcess⟩
  | @two _ most rest digits digits' behind =>
    rcases hexcess with hexcess | ⟨-, ds, hds, hexcess⟩
    · exact ⟨least, ⟨[], _, rfl⟩, digits, hexcess⟩
    · obtain rfl := Option.some.inj hds
      exact ⟨most, ⟨least.map .plain ++ [.plain ','], .plain '\x7d' :: rest, by simp⟩, digits', hexcess⟩

namespace Draft

/-- A flag that is set after a step was set before, or stands for a letter behind the step. -/
theorem Moved.asked {d d' : Draft} {t : Token} {ts rest : List Token} {flag : Flags → Bool} {c : Char}
    (h : Moved d t ts d' rest) (hunion : ∀ f g, flag (f.union g) → flag f ∨ flag g)
    (hgathered : ∀ {ts' g rest'}, Group.Gathered {} ts' g rest' → flag g → .plain c ∈ ts')
    (hset : flag d'.flags) :
    flag d.flags ∨ t = .plain '(' ∧ ∃ ts', ts = .plain '?' :: ts' ∧ .plain c ∈ ts' := by
  rcases h.flags with hflags | ⟨ts', g, rest', ht, hts, hg, hflags⟩
  · exact .inl (hflags ▸ hset)
  · rw [hflags] at hset
    rcases hunion _ _ hset with hold | hnew
    · exact .inl hold
    · exact .inr ⟨ht, ts', hts, hgathered hg hnew⟩

/-- What reading keeps to: a part of the body is left, and letters are asked for by the flags at the end
or by a setting in the body. -/
structure Kept (letters body : Text) (x : Draft × List Token) : Prop where
  left : x.2 <:+ Token.ofText body
  ascii : x.1.flags.ascii → ['(', '?'] <:+: body ∧ 'a' ∈ body
  unicode : x.1.flags.unicode → 'u' ∈ letters ∨ 'u' ∈ body

section
variable {letters body : Text}

private theorem kept_start : Kept letters body (start (Flags.named letters), Token.ofText body) where
  left := List.suffix_rfl
  ascii h := by cases h
  unicode h := .inl (of_decide_eq_true h)

/-- A move takes tokens off the front and adds only flags that the body or its letters name. -/
private theorem kept_of_moves {x y : Draft × List Token} (h : Kept letters body x) (hxy : Moves x y) :
    Kept letters body y := by
  obtain ⟨d, us⟩ := x
  obtain ⟨d', rest⟩ := y
  obtain ⟨t, ts, rfl, hstep⟩ := hxy
  have houtcome := step_outcome d ts t
  rw [hstep] at houtcome
  cases houtcome with
  | moved hmoved =>
    have hts : ts <:+ Token.ofText body := (List.suffix_cons t ts).trans h.left
    refine ⟨hmoved.left.trans hts, ?_, ?_⟩
    · intro hascii
      have hnone {ts' g rest'} (hg : Group.Gathered {} ts' g rest') (ha : g.ascii) : .plain 'a' ∈ ts' :=
        (hg.ascii ha).resolve_left Bool.false_ne_true
      rcases hmoved.asked (fun _ _ => Bool.or_eq_true_iff.1) hnone hascii with hold | ⟨rfl, ts', rfl, hmem⟩
      · exact h.ascii hold
      · refine ⟨Token.infix_of_map_plain (List.IsInfix.trans ⟨[], ts', rfl⟩ h.left.isInfix), ?_⟩
        exact Token.mem_of_plain_mem (hts.subset (List.mem_cons_of_mem _ hmem))
    · intro hunicode
      have hnone {ts' g rest'} (hg : Group.Gathered {} ts' g rest') (hu : g.unicode) : .plain 'u' ∈ ts' :=
        (hg.unicode hu).resolve_left Bool.false_ne_true
      rcases hmoved.asked (fun _ _ => Bool.or_eq_true_iff.1) hnone hunicode with hold | ⟨-, ts', rfl, hmem⟩
      · exact h.unicode hold
      · exact .inr (Token.mem_of_plain_mem (hts.subset (List.mem_cons_of_mem _ hmem)))

private theorem kept_of_reachable {x : Draft × List Token}
    (h : Relation.ReflTransGen Moves (start (Flags.named letters), Token.ofText body) x) :
    Kept letters body x := by
  induction h with
  | refl => exact kept_start
  | tail _ hstep ih => exact kept_of_moves ih hstep

private theorem not_snag_of_kept {x : Draft × List Token} (tame : Tame letters body)
    (h : Kept letters body x) (fault : Fault) : ¬ Snag x fault := by
  intro hsnag
  cases hsnag with
  | count counts =>
    obtain ⟨ds, hds, digits, hexcess⟩ := exists_of_overflows counts
    have hbody : ds <:+: body := Token.infix_of_map_plain
      (hds.trans ((List.suffix_cons _ _).trans h.left).isInfix)
    obtain ⟨hlength, hvalue⟩ := tame.numbers ds hbody digits
    cases hexcess with
    | long length => exact Nat.not_lt.2 hlength length
    | large _ value => exact Nat.not_le.2 hvalue value
  | letters closed ended conflict =>
    obtain ⟨hascii, hunicode⟩ := Bool.and_eq_true_iff.1 conflict
    obtain ⟨hinside, ha⟩ := h.ascii hascii
    obtain ⟨hbody, hletters⟩ := tame.scripts hinside ha
    exact (h.unicode hunicode).elim hletters hbody

end
end Draft

/-- In a tame body every count is small enough and the letters are of one kind, so no snag is met. -/
private theorem not_breaksOff_of_tame {letters body : Text} (tame : Tame letters body) (fault : Fault) :
    ¬ BreaksOff (Flags.named letters) body fault := by
  rintro ⟨y, hreach, hsnag⟩
  exact Draft.not_snag_of_kept tame (Draft.kept_of_reachable hreach) fault hsnag

/-- A delimited pattern breaks off where there is no room for its body, or else where reading the body
comes to a snag. -/
inductive Delimited.Breaks (d : Delimited) (s : Surroundings) : Fault → Prop where
  | deep {problem : Text}
      (full : s.stack.patternProblem? (Flags.named d.letters) d.body = some problem) :
      d.Breaks s (@Fault.nestingTooDeep problem)
  | snag {fault : Fault} (room : s.stack.patternProblem? (Flags.named d.letters) d.body = none)
      (snag : BreaksOff (Flags.named d.letters) d.body fault) : d.Breaks s fault

private theorem Delimited.regex_text_eq_error_iff (d : Delimited) (s : Surroundings) {fault : Fault} :
    s.regex d.text = .error fault ↔ d.Breaks s fault := by
  rw [d.regex_text]
  cases hroom : s.stack.patternProblem? (Flags.named d.letters) d.body with
  | some problem =>
    constructor
    · rintro ⟨⟩
      exact .deep hroom
    · rintro (full | ⟨room, -⟩)
      · rw [hroom] at full
        cases full
        rfl
      · simp [hroom] at room
  | none =>
    rw [d.ofDelimited_text_eq_error_iff]
    constructor
    · exact .snag hroom
    · rintro (full | ⟨-, snag⟩)
      · simp [hroom] at full
      · exact snag

/-- A text breaks off exactly when it delimits a body that does. -/
private theorem regex_eq_error_iff {s : Surroundings} {t : Text} {fault : Fault} :
    s.regex t = .error fault ↔
    ∃ d : Delimited, d.text = t ∧ d.Breaks s fault := by
  constructor
  · intro h
    cases hparts : parts? t with
    | none => simp [Surroundings.regex, ofDelimited, hparts] at h
    | some parts =>
      obtain ⟨d, rfl, -⟩ := Delimited.exists_of_parts? hparts
      exact ⟨d, rfl, (d.regex_text_eq_error_iff s).1 h⟩
  · rintro ⟨d, rfl, h⟩
    exact (d.regex_text_eq_error_iff s).2 h

private theorem exists_answer_iff {s : Surroundings} {t : Text} : (∃ answer, s.regex t = .ok answer) ↔
    ∀ d : Delimited, d.text = t → ∀ fault, ¬ d.Breaks s fault := by
  constructor
  · rintro ⟨answer, hanswer⟩ d hd fault hbreak
    rw [regex_eq_error_iff.2 ⟨d, hd, hbreak⟩] at hanswer
    cases hanswer
  · intro hnone
    cases h : s.regex t with
    | ok answer => exact ⟨answer, rfl⟩
    | error fault =>
      obtain ⟨d, hd, hbreak⟩ := regex_eq_error_iff.1 h
      exact absurd hbreak (hnone d hd fault)

private theorem exists_answer_of_tame {d : Delimited} {s : Surroundings}
    (room : s.stack.patternProblem? (Flags.named d.letters) d.body = none)
    (tame : Tame d.letters d.body) : ∃ answer, s.regex d.text = .ok answer := by
  refine exists_answer_iff.2 fun d' hd' fault hbreak => ?_
  obtain rfl := Delimited.text_injective hd'
  cases hbreak with
  | deep full => simp [room] at full
  | snag _ snag => exact not_breaksOff_of_tame tame fault snag

end Regex

/-! ### Rules with patterns -/

inductive PatternOutcome (field pattern text : Text) (r : Rule) :
    Except Fault (Option Regex) → Attempt → Prop where
  | searched {regex : Regex} {a : Attempt} (told : a.told = [])
      (returned : a.trial.verdict = .returned
        (if regex.search text then [] else [Checker.regex.failureMessage pattern])) :
      PatternOutcome field pattern text r (.ok (some regex)) a
  | refused {a : Attempt} (told : a.told = [.patternInvalid field pattern])
      (returned : a.trial.verdict = .returned [Checker.regex.failureMessage pattern]) :
      PatternOutcome field pattern text r (.ok none) a
  | broken {fault : Fault} {a : Attempt} (told : a.told = [.checkerFailed field r.name fault.message])
      (broken : a.trial.verdict = .broken fault)
      (contribution : a.contribution = [Checker.regex.failureMessage pattern]) :
      PatternOutcome field pattern text r (.error fault) a

private theorem patternOutcome_trial {data : FieldMap Value} (s : Surroundings) {field text : Text}
    (r : Rule)
    (pattern : Text) (held : data.held field = .text text) :
    let o : Occurrence := ⟨field, r, .regex, pattern⟩
    PatternOutcome field pattern text r (s.regex pattern) ⟨o, o.trial data s⟩ := by
  intro o
  have htrial : o.trial data s = Trial.matchesPattern
      (.ok (Checker.regex.failureMessage pattern)) field pattern (data.held field) s := rfl
  rw [htrial, held, Trial.matchesPattern]
  cases hp : s.regex pattern with
  | error fault => exact .broken rfl rfl rfl
  | ok regex? =>
    cases regex? with
    | none => exact .refused rfl rfl
    | some regex =>
      have hverdict : (Trial.silent (.ok (Checker.regex.failureMessage pattern))
          ((Value.text text).asText.map regex.search)).verdict = .returned
            (if regex.search text then [] else [Checker.regex.failureMessage pattern]) := by
        rw [Value.asText_text, Trial.silent, Except.map]
        cases regex.search text <;> rfl
      refine .searched ?_ hverdict
      rw [Attempt.told, hverdict]
      rfl

/-- A pattern is read or has no reading, unless there is no room for its body on the stack, or reading
the body comes to a snag: a count that is too much, or the end of a body that asks for letters of ASCII
and for those of all scripts. Then it breaks off. With room, small numbers and letters of one kind leave
no snag. A pattern without a reading fails a text with the message of its rule and is told of as a pattern
that cannot be used; a pattern that breaks off fails it with the same message, but as a check that
failed. -/
theorem regex_breaks_off_iff (s : Surroundings) (pattern : Text) :
    ((∃ answer, s.regex pattern = .ok answer) ↔
      ∀ d : Regex.Delimited, d.text = pattern → ∀ fault, ¬ d.Breaks s fault) ∧
    (∀ fault, s.regex pattern = .error fault ↔
      ∃ d : Regex.Delimited, d.text = pattern ∧ d.Breaks s fault) ∧
    (∀ d : Regex.Delimited, d.text = pattern →
      s.stack.patternProblem? (.named d.letters) d.body = none → Regex.Tame d.letters d.body →
      ∃ answer, s.regex pattern = .ok answer) ∧
    ∀ (field text : Text) (r : Rule) (data : FieldMap Value), data.held field = .text text →
      let o : Occurrence := ⟨field, r, .regex, pattern⟩
      PatternOutcome field pattern text r (s.regex pattern) ⟨o, o.trial data s⟩ := by
  refine ⟨Regex.exists_answer_iff, fun _ => Regex.regex_eq_error_iff, ?_,
    fun _ _ r _ held => patternOutcome_trial s r pattern held⟩
  rintro d rfl room tame
  exact Regex.exists_answer_of_tame room tame

def countedData : FieldMap Value := ⟨[("code".toList, .text "aaa".toList)], by decide⟩

def countedRule : Rule := ⟨"regex".toList, some "/a\x7b4294967295\x7d/".toList⟩

/-- A count of 4294967295 breaks off, so that the text is not judged: there is no pattern and no
refusal of one, and what is told is that the check failed. -/
theorem large_count_breaks_off :
    let pattern := "/a\x7b4294967295\x7d/".toList
    let o : Occurrence := ⟨"code".toList, countedRule, .regex, pattern⟩
    Plan.occurrence .standard "code".toList countedRule = .ok o ∧
    (¬ ∃ answer, Surroundings.offline.regex pattern = .ok answer) ∧
    Attempt.told ⟨o, o.trial countedData .offline⟩ =
      [.checkerFailed "code".toList "regex".toList "the repetition number is too large".toList] := by
  have hbreak : Surroundings.offline.regex "/a\x7b4294967295\x7d/".toList =
      .error .repetitionTooLarge := by
    decide +kernel
  refine ⟨rfl, ?_, by decide +kernel⟩
  rintro ⟨answer, h⟩
  rw [hbreak] at h
  cases h

end FieldRules
