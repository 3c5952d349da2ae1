import FieldRules.Proofs.Run.Course
import FieldRules.Proofs.Trial

/-! The requests of a run: one for each rule `active_url` that comes to a value whose text is a URL, and
no other, whatever is answered. -/
namespace FieldRules

def Settings.requestTo (settings : Settings) (url : Text) : Request :=
  ⟨url, true, settings.timeout, settings.userAgent⟩

/-- The request that a rule makes: `active_url`, if the text of its field is a URL, asks for just this
text. -/
def Occurrence.request? (data : FieldMap Value) (settings : Settings) (o : Occurrence) :
    Option Request :=
  match o.checker, (data.held o.field).asText with
  | .activeUrl, .ok url => if Url.isUrl url then some (settings.requestTo url) else none
  | _, _ => none

section
variable {field url : Text} {v : Value} {data : FieldMap Value} {settings : Settings}
  {s : Surroundings}

private theorem Surroundings.request_eq (h : s.settings = .ok settings) :
    s.request url = .ok (settings.requestTo url) := by
  rw [request, h]
  rfl

/-- An address is asked once, and a value passes by an answer below 400 and by nothing else. -/
theorem Trial.reach_spec (h : s.settings = .ok settings) (message field url : Text) :
    let t := Trial.reach (.ok message) field url s
    t.requests = [settings.requestTo url] ∧
      (t.verdict = .returned [] ↔
        ∃ code, s.respond (settings.requestTo url) = .status code ∧ code < 400) := by
  intro t
  have asked : s.request url = _ := Surroundings.request_eq h
  cases answer : s.respond (settings.requestTo url) with
  | status code =>
    rcases Int.lt_or_le code 400 with low | high
    · simp [t, Trial.reach_passed asked answer low, Verdict.ofResult, low]
    · simp [t, Trial.reach_status asked answer high, Verdict.ofResult, Int.not_lt.2 high]
  | unreachable problem => simp [t, Trial.reach_unreachable asked answer, Verdict.ofResult]
  | broken problem => simp [t, Trial.reach_broken asked answer, Verdict.ofResult]

/-- The check passes exactly when the value reads as a URL and the answer is a status below 400. -/
private theorem Trial.isActive_spec (h : s.settings = .ok settings) (message field : Text) (v : Value) :
    (Trial.isActive (.ok message) field v s).verdict = .returned [] ↔
      ∃ url code, v.asText = .ok url ∧ Url.isUrl url ∧
        s.respond (settings.requestTo url) = .status code ∧ code < 400 := by
  rcases Trial.isActive_cases (.ok message) field v s
    with ⟨url, text, isUrl, heq⟩ | ⟨hno, result, hresult, heq⟩
  · rw [heq, (Trial.reach_spec h message field url).2]
    simp [text, isUrl]
  · rw [heq]
    constructor
    · intro h
      rcases result with fault | _ | _
      · cases h
      · cases h
      · exact absurd rfl hresult
    · rintro ⟨url, code, text, isUrl, -⟩
      exact absurd isUrl (hno url text)

/-- An occurrence asks at most once, and only for a value that is a URL. -/
private theorem Occurrence.requests_trial (h : s.settings = .ok settings) (o : Occurrence) :
    (o.trial data s).requests = (o.request? data settings).toList := by
  obtain ⟨field, r, c, argument⟩ := o
  cases c with
  | regex =>
    simp only [Occurrence.trial, Checker.check, Trial.matchesPattern, Occurrence.request?]
    split <;> rfl
  | activeUrl =>
    rw [Occurrence.trial_activeUrl, Occurrence.request?]
    rcases Trial.isActive_cases (.ok (Checker.activeUrl.failureMessage argument)) field
      (data.held field) s with ⟨url, text, isUrl, heq⟩ | ⟨hno, result, -, heq⟩
    · rw [heq, (Trial.reach_spec h _ field url).1]
      simp [text, isUrl]
    · rw [heq]
      cases text : (data.held field).asText with
      | error fault => rfl
      | ok url => simp [Trial.silent, hno url text]
  | _ => rfl

private theorem Attempt.contribution_activeUrl_iff (h : s.settings = .ok settings) {o : Occurrence}
    (ho : o.checker = .activeUrl) :
    Attempt.contribution ⟨o, o.trial data s⟩ = [] ↔
      ∃ url code, (data.held o.field).asText = .ok url ∧ Url.isUrl url ∧
        s.respond (settings.requestTo url) = .status code ∧ code < 400 := by
  obtain ⟨field, r, c, argument⟩ := o
  subst ho
  rw [Occurrence.trial_activeUrl,
    ← Trial.isActive_spec h (Checker.activeUrl.failureMessage argument) field, Attempt.contribution]
  cases (Trial.isActive (.ok (Checker.activeUrl.failureMessage argument)) field (data.held field)
    s).verdict <;> simp

end

/-- The requests of a field do not depend on what is answered. -/
theorem FieldPlan.requests_eq {data : FieldMap Value} {settings : Settings} {s : Nat → Surroundings}
    (h : ∀ place, (s place).settings = .ok settings) (place : Nat) (f : FieldPlan) :
    f.requests (fun place => Occurrence.trial data (s place)) place =
      f.occurrences.filterMap (·.request? data settings) := by
  obtain ⟨field, definition, rules, occurrences⟩ := f
  simp only [requests]
  induction occurrences generalizing place with
  | nil => rfl
  | cons o os ih =>
    rw [Attempt.inTurn, List.flatMap_cons, ih, Occurrence.requests_trial (h place),
      List.filterMap_cons]
    cases o.request? data settings <;> rfl

/-- Under settings that can be read a run makes one request for each rule `active_url` that it applies
to a field whose text is a URL, in the order of the rules and to just this text, without its body and
with the timeout and the user agent of the settings, and it makes no other, whatever is answered, be it
another answer at each place of the run. A run that returns has the messages of its rules, each at its
place. A rule `active_url` adds no message if and only if the text is a URL and is answered at that place
with a status below 400, and so a value that passes `active_url` passes `url` as well. In surroundings
that stay as they are the run is the plain one. -/
theorem validate_requests (registry : Registry) (rules data : FieldMap Value) (settings : Settings)
    (around : Nat → Surroundings) :
    let s (place : Nat) : Surroundings := { around place with settings := .ok settings }
    let run := validateAmid registry rules data s
    (∃ fields offence, Course registry.inUse rules.entries fields offence ∧
      (∀ e, offence = some e ↔ run.outcome = .error e) ∧
      (run.requests = fields.flatMap fun f => f.occurrences.filterMap (·.request? data settings)) ∧
      ∀ report, run.outcome = .ok report → report.errors.entries =
        (Plan.messages (fun place => Occurrence.trial data (s place)) 0 fields).filter
          (!·.2.isEmpty)) ∧
    (∀ place (o : Occurrence), o.checker = .activeUrl →
      (Attempt.contribution ⟨o, o.trial data (s place)⟩ = [] ↔
        ∃ url code, (data.held o.field).asText = .ok url ∧ Url.isUrl url ∧
          (around place).respond ⟨url, true, settings.timeout, settings.userAgent⟩ = .status code ∧
            code < 400)) ∧
    (∀ place field v argument argument',
      (Checker.activeUrl.check field v data (s place) argument).verdict = .returned [] →
      (Checker.url.check field v data (s place) argument').verdict = .returned []) ∧
    ∀ still, (∀ place, s place = still) → run = validate registry rules data still := by
  intro s run
  have hsettings (place : Nat) : (s place).settings = .ok settings := rfl
  refine ⟨⟨_, _, Plan.course_ofEntries registry.inUse rules.entries, ?_, ?_, ?_⟩, ?_, ?_, ?_⟩
  · intro e
    exact Run.outcome_eq_error_iff.symm
  · have hasked : run.requests = _ := Run.told_and_asked.2
    simp only [FieldPlan.requests_eq hsettings] at hasked
    rw [hasked]
    conv_rhs => rw [← Plan.map_snd_placed 0 (Plan.ofEntries registry.inUse rules.entries).fields,
      List.flatMap_map]
    rfl
  · intro report hreport
    exact Run.entries_of_ok hreport
  · intro place o ho
    exact Attempt.contribution_activeUrl_iff (hsettings place) ho
  · intro place field v argument argument' hpasses
    obtain ⟨url, code, text, isUrl, -⟩ := (Trial.isActive_spec (hsettings place)
      (Checker.activeUrl.failureMessage argument) field v).1 hpasses
    simp only [Checker.check, Checker.onText, text, Except.map, isUrl]
    rfl
  · intro still hstill
    have hsteady : s = fun _ => still := funext hstill
    simp only [run, hsteady]
    rfl

def probedRegistry : Registry := ⟨[.min, .url, .activeUrl], by decide⟩

def probedRules : FieldMap Value :=
  ⟨[("site".toList, .text "active_url|url|active_url".toList),
    ("note".toList, .text "active_url".toList),
    ("age".toList, .text "min:one".toList),
    ("late".toList, .text "active_url".toList)], by decide⟩

def probedData : FieldMap Value :=
  ⟨[("site".toList, .text "http://a.example".toList), ("note".toList, .text "a.example".toList),
    ("late".toList, .text "http://b.example".toList)], by decide⟩

def probeSettings : Settings := ⟨.zero false, "probe".toList, false, "info".toList⟩

/-- The first rule of a run finds what it asks for, and no other does. -/
def probed (place : Nat) : Surroundings where
  settings := .ok probeSettings
  respond _ := List.getD [.status 204] place (.status 404)
  addresses := .never

/-- Two rules ask for one address and get two answers; a text that is no URL and a field behind the
offence ask for none. -/
theorem probed_requests :
    let site : Value := .text "http://a.example".toList
    let reached (place : Nat) :=
      (Checker.activeUrl.check "site".toList site probedData (probed place) none).verdict
    (validateAmid probedRegistry probedRules probedData probed).requests =
        List.replicate 2 ⟨"http://a.example".toList, true, .zero false, "probe".toList⟩ ∧
    reached 0 = .returned [] ∧ reached 2 = .returned ["This field must be an active URL.".toList] ∧
    (Checker.url.check "site".toList site probedData (probed 0) none).verdict = .returned [] := by
  intro site reached
  obtain ⟨-, -, hurl, -⟩ :=
    validate_requests probedRegistry probedRules probedData probeSettings probed
  have hactive : reached 0 = .returned [] := by decide +kernel
  exact ⟨by decide +kernel, hactive, by decide +kernel, hurl 0 _ _ _ _ hactive⟩

end FieldRules
