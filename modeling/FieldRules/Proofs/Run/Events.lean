import FieldRules.Logger
import FieldRules.Proofs.Run.Course
import FieldRules.Proofs.Trial

/-! What a run tells mirrors what it does: the rules of each field, what stood in the way of a rule, and
the report. A logger passes on what reaches its level and leaves the run as it is. -/
namespace FieldRules

/-- What a check tells itself: that its pattern cannot be used, or that it asked for an address and got
no answer or an error. -/
inductive Announcement (data : FieldMap Value) (s : Surroundings) : Occurrence → Event → Prop where
  | pattern {field pattern : Text} {r : Rule} (refused : s.regex pattern = .ok none) :
      Announcement data s ⟨field, r, .regex, pattern⟩ (.patternInvalid field pattern)
  | status {field url : Text} {r : Rule} {argument : Option Text} {request : Request} {code : Int}
      (text : (data.held field).asText = .ok url) (isUrl : Url.isUrl url)
      (asked : s.request url = .ok request) (answer : s.respond request = .status code)
      (failed : 400 ≤ code) :
      Announcement data s ⟨field, r, .activeUrl, argument⟩ (.unreachable field url (.status code))
  | problem {field url problem : Text} {r : Rule} {argument : Option Text} {request : Request}
      (text : (data.held field).asText = .ok url) (isUrl : Url.isUrl url)
      (asked : s.request url = .ok request) (answer : s.respond request = .unreachable problem) :
      Announcement data s ⟨field, r, .activeUrl, argument⟩ (.unreachable field url (.problem problem))

inductive Notice (data : FieldMap Value) (s : Surroundings) (o : Occurrence) : Event → Prop where
  | announced {e : Event} (announcement : Announcement data s o e) : Notice data s o e
  | failed {fault : Fault} (broken : (o.trial data s).verdict = .broken fault) :
      Notice data s o (.checkerFailed o.field o.rule.name fault.message)

/-- A check that tells nothing, or one thing and then returns. -/
def Occurrence.TellsOnce (data : FieldMap Value) (s : Surroundings) (o : Occurrence) : Prop :=
  (o.trial data s).events = [] ∧ (∀ e, ¬ Announcement data s o e) ∨
    ∃ e, (o.trial data s).events = [e] ∧ (∀ e', Announcement data s o e' ↔ e' = e) ∧
      ∃ messages, (o.trial data s).verdict = .returned messages

section
variable {data : FieldMap Value} {s : Surroundings} {field : Text} {r : Rule}

private theorem Occurrence.tellsOnce_regex (pattern : Text) :
    Occurrence.TellsOnce data s ⟨field, r, .regex, pattern⟩ := by
  have htrial : Occurrence.trial data s ⟨field, r, .regex, pattern⟩ =
      Trial.matchesPattern (.ok (Checker.regex.failureMessage pattern)) field pattern
        (data.held field) s := rfl
  rw [Occurrence.TellsOnce, htrial, Trial.matchesPattern]
  cases hp : s.regex pattern with
  | error fault =>
    refine .inl ⟨rfl, ?_⟩
    rintro e ⟨refused⟩
    simp [hp] at refused
  | ok regex? =>
    cases regex? with
    | none =>
      refine .inr ⟨.patternInvalid field pattern, rfl, fun e => ?_, _, rfl⟩
      constructor
      · rintro ⟨refused⟩
        rfl
      · rintro rfl
        exact .pattern hp
    | some regex =>
      refine .inl ⟨rfl, ?_⟩
      rintro e ⟨refused⟩
      simp [hp] at refused

/-- Without an address to ask, with an answer below 400 and with a failure of another kind nothing is
told. -/
theorem announcement_activeUrl_iff {argument : Option Text} {e : Event} :
    Announcement data s ⟨field, r, .activeUrl, argument⟩ e ↔
      ∃ url request, (data.held field).asText = .ok url ∧ Url.isUrl url ∧
        s.request url = .ok request ∧ ((∃ code, s.respond request = .status code ∧ 400 ≤ code ∧
            e = .unreachable field url (.status code)) ∨
          ∃ problem, s.respond request = .unreachable problem ∧
            e = .unreachable field url (.problem problem)) := by
  constructor
  · rintro (_ | ⟨text, isUrl, asked, answer, failed⟩ | ⟨text, isUrl, asked, answer⟩)
    · exact ⟨_, _, text, isUrl, asked, .inl ⟨_, answer, failed, rfl⟩⟩
    · exact ⟨_, _, text, isUrl, asked, .inr ⟨_, answer, rfl⟩⟩
  · rintro ⟨url, request, text, isUrl, asked, ⟨code, answer, failed, rfl⟩ | ⟨problem, answer, rfl⟩⟩
    · exact .status text isUrl asked answer failed
    · exact .problem text isUrl asked answer

private theorem Occurrence.tellsOnce_activeUrl (argument : Option Text) :
    Occurrence.TellsOnce data s ⟨field, r, .activeUrl, argument⟩ := by
  simp only [Occurrence.TellsOnce, Occurrence.trial_activeUrl, announcement_activeUrl_iff]
  rcases Trial.isActive_cases (.ok (Checker.activeUrl.failureMessage argument)) field (data.held field) s
    with ⟨url, text, isUrl, heq⟩ | ⟨hno, result, -, heq⟩
  · rw [heq]
    cases asked : s.request url with
    | error fault => exact .inl ⟨by rw [Trial.reach_error asked]; rfl, by simp [text, asked]⟩
    | ok request =>
      cases answer : s.respond request with
      | status code =>
        rcases Int.lt_or_le code 400 with low | high
        · rw [Trial.reach_passed asked answer low]
          refine .inl ⟨rfl, ?_⟩
          simp [text, asked, answer, Int.not_le.2 low]
        · rw [Trial.reach_status asked answer high]
          refine .inr ⟨_, rfl, fun e => ?_, _, rfl⟩
          simp [text, isUrl, asked, answer, high]
      | unreachable problem =>
        rw [Trial.reach_unreachable asked answer]
        refine .inr ⟨_, rfl, fun e => ?_, _, rfl⟩
        simp [text, isUrl, asked, answer]
      | broken problem =>
        rw [Trial.reach_broken asked answer]
        refine .inl ⟨rfl, ?_⟩
        simp [text, asked, answer]
  · rw [heq]
    refine .inl ⟨rfl, ?_⟩
    rintro e ⟨url, request, text, isUrl, -⟩
    exact hno url text isUrl

variable (data s) in
/-- No check tells more than one thing of a field. -/
private theorem Occurrence.tellsOnce (o : Occurrence) : o.TellsOnce data s := by
  obtain ⟨field, r, c, argument⟩ := o
  cases c with
  | regex => exact Occurrence.tellsOnce_regex argument
  | activeUrl => exact Occurrence.tellsOnce_activeUrl argument
  | _ =>
    refine .inl ⟨rfl, ?_⟩
    rintro e ⟨⟩

private theorem notice_iff {o : Occurrence} {e : Event} :
    Notice data s o e ↔ Announcement data s o e ∨
      ∃ fault, (o.trial data s).verdict = .broken fault ∧
        e = .checkerFailed o.field o.rule.name fault.message := by
  constructor
  · rintro (announcement | broken)
    · exact .inl announcement
    · exact .inr ⟨_, broken, rfl⟩
  · rintro (announcement | ⟨fault, broken, rfl⟩)
    · exact .announced announcement
    · exact .failed broken

/-- An attempt is told of once at most, and just as its notices say. -/
theorem Attempt.told_iff (o : Occurrence) :
    (Attempt.told ⟨o, o.trial data s⟩).length ≤ 1 ∧
      ∀ e, e ∈ Attempt.told ⟨o, o.trial data s⟩ ↔ Notice data s o e := by
  simp only [notice_iff, Attempt.told]
  rcases Occurrence.tellsOnce data s o with ⟨hevents, hno⟩ | ⟨e, hevents, hone, messages, hverdict⟩
  · cases hverdict : (o.trial data s).verdict with
    | returned messages => simp [hevents, hno]
    | broken fault => simp [hevents, hno]
  · simp [hevents, hone, hverdict]

end

/-- A run tells, field by field, which rules it has read, and of each rule it applies what its notices
say, which is one thing at most: that its pattern cannot be used, that the address it asked for failed,
or that its check broke off. A run that returns tells its report last; a run that is refused tells what
comes before the offence. A logger lets through what reaches its level, in the same order; at the level
of debugging this is everything, and at no level does the run come to anything else. -/
theorem validate_events_mirror (registry : Registry) (rules data : FieldMap Value) (s : Surroundings) :
    let run := validate registry rules data s
    let told (o : Occurrence) := Attempt.told ⟨o, o.trial data s⟩
    (∃ fields offence, Course registry.inUse rules.entries fields offence ∧
      (∀ e, offence = some e ↔ run.outcome = .error e) ∧
      (∀ o, (told o).length ≤ 1 ∧ ∀ e, e ∈ told o ↔ Notice data s o e) ∧
      run.events =
        (fields.flatMap fun f =>
          .rulesParsed f.definition (f.rules.map Rule.text) :: f.occurrences.flatMap told) ++
        match run.outcome with
        | .ok r => [.complete r.passed r.fieldsChecked r.rulesChecked r.count r.errors.names]
        | .error _ => []) ∧
    ∀ (l : Logger) (settings : Settings) (level : Nat),
      let listening := { l.configure settings with level }
      (listening.watch run).outcome = run.outcome ∧
      (listening.watch run).events =
        run.events.filter (fun e => listening.effectiveLevel ≤ e.level.number) ∧
      (listening.effectiveLevel ≤ Level.debug.number → (listening.watch run).events = run.events) := by
  intro run told
  refine ⟨⟨_, _, Plan.course_ofEntries registry.inUse rules.entries, ?_, ?_, ?_⟩, ?_⟩
  · intro e
    exact Run.outcome_eq_error_iff.symm
  · exact Attempt.told_iff
  · exact Run.told_steady (Occurrence.trial data s)
  · intro l settings level listening
    have hpass : (listening.watch run).events =
        run.events.filter (fun e => listening.effectiveLevel ≤ e.level.number) := by
      simp [Logger.watch, Logger.accepted, listening, Logger.configure]
    refine ⟨rfl, hpass, fun hlow => ?_⟩
    rw [hpass, List.filter_eq_self]
    intro e _
    have hdebug : Level.debug.number ≤ e.level.number := by cases e.level <;> decide
    exact decide_eq_true (Nat.le_trans hlow hdebug)

def spoiltRegistry : Registry :=
  ⟨[.min, .regex, .activeUrl, .faulty "explode".toList "boom".toList], by decide⟩

def spoiltRules : FieldMap Value :=
  ⟨[("site".toList, .text "regex:(|explode|active_url".toList),
    ("age".toList, .text "min:1|min:one".toList),
    ("late".toList, .text "min:1".toList)], by decide⟩

def spoiltData : FieldMap Value := ⟨[("site".toList, .text "http://a.example".toList)], by decide⟩

def spoiltRun : Run := validate spoiltRegistry spoiltRules spoiltData .offline

def listener (level : Nat) : Logger :=
  { Logger.unset.configure ⟨.zero false, [], false, "info".toList⟩ with level }

/-- Each rule of the first field has its trouble. The second field has a rule that cannot be applied,
and nothing is told of the third. Who listens for errors hears of the check that broke off. -/
theorem spoiltRun_mirrored :
    ((listener 10).watch spoiltRun).events = [
      .rulesParsed "regex:(|explode|active_url".toList
        ["regex:(".toList, "explode".toList, "active_url".toList],
      .patternInvalid "site".toList "(".toList,
      .checkerFailed "site".toList "explode".toList "boom".toList,
      .unreachable "site".toList "http://a.example".toList (.problem []),
      .rulesParsed "min:1|min:one".toList ["min:1".toList, "min:one".toList]] ∧
    ((listener 40).watch spoiltRun).events =
      [.checkerFailed "site".toList "explode".toList "boom".toList] ∧
    ((listener 10).watch spoiltRun).outcome = ((listener 40).watch spoiltRun).outcome := by
  obtain ⟨-, hlisten⟩ := validate_events_mirror spoiltRegistry spoiltRules spoiltData .offline
  obtain ⟨hlow, -, hall⟩ := hlisten .unset ⟨.zero false, [], false, "info".toList⟩ 10
  obtain ⟨hhigh, hfiltered, -⟩ := hlisten .unset ⟨.zero false, [], false, "info".toList⟩ 40
  have hevents : spoiltRun.events = [
      .rulesParsed "regex:(|explode|active_url".toList
        ["regex:(".toList, "explode".toList, "active_url".toList],
      .patternInvalid "site".toList "(".toList,
      .checkerFailed "site".toList "explode".toList "boom".toList,
      .unreachable "site".toList "http://a.example".toList (.problem []),
      .rulesParsed "min:1|min:one".toList ["min:1".toList, "min:one".toList]] := by
    decide +kernel
  refine ⟨(hall (by decide)).trans hevents, hfiltered.trans ?_, hlow.trans hhigh.symm⟩
  rw [← spoiltRun, hevents]
  decide

end FieldRules
