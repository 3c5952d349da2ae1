import FieldRules.Proofs.Date.Wide
import FieldRules.Proofs.Run.Independence

/-! Which date formats have an answer for every text. A format that names a part of a date twice has none,
whatever the text. Of the others, only a native format with a code point that is no character is without
an answer, and only for a text that it has read. -/
namespace FieldRules

namespace WideFormat
variable {f : WideFormat} {d : Directive} {text : WideText}

/-- With a part that is named twice no text can be read. -/
theorem read_of_repeats (h : f.Repeats d) :
    ∃ e again, f.RepeatsFirst e ∧ again.name = e.letter ∧
      ∀ text, f.read text = .error (.repeated again) := by
  obtain ⟨ds, hnames, hd⟩ := h
  obtain ⟨items, hitems, rfl⟩ := WidePattern.names_iff.1 hnames
  cases hagain : WidePattern.redefinition? items with
  | none => exact absurd (Pattern.redefinition?_eq_none_iff.1 hagain) hd.not_nodup
  | some again =>
    obtain ⟨e, hname, he⟩ := Pattern.namedAgain_of_redefinition? hagain
    refine ⟨e, again, ⟨_, hnames, he⟩, hname, fun text => ?_⟩
    simp only [read, WidePattern.read, hitems, hagain]

private theorem exists_repeats_of_read {again : Redefinition}
    (h : f.read text = .error (.repeated again)) :
    ∃ d, f.Repeats d := by
  unfold read WidePattern.read at h
  split at h
  · cases h
  · rename_i items hitems
    split at h
    · rename_i again hagain
      obtain ⟨d, -, hd⟩ := Pattern.namedAgain_of_redefinition? hagain
      exact ⟨d, _, WidePattern.names_of_items? hitems, hd.duplicate⟩
    · split at h
      · split at h <;> cases h
      · cases h

/-- A format that names a part twice answers no text, and the fault is the same for each. -/
private theorem roundTrips_of_repeats (h : f.Repeats d) :
    ∃ e again, f.RepeatsFirst e ∧ again.name = e.letter ∧
      ∀ text, f.roundTrips text = .error (.repeatedDirective again) := by
  obtain ⟨e, again, he, hname, hread⟩ := read_of_repeats h
  exact ⟨e, again, he, hname, fun text => by rw [roundTrips, hread]⟩

/-- The check passes when the text is read and written back unchanged. -/
private theorem roundTrips_eq_true_iff :
    f.roundTrips text = .ok true ↔ ∃ t, f.read text = .ok t ∧ f.render t = .ok text := by
  unfold roundTrips
  cases f.read text with
  | ok t => cases hrender : f.render t <;> simp [hrender, Except.map]
  | error problem => cases problem <;> simp

/-- Without a part that is named twice, only writing breaks off. -/
private theorem roundTrips_eq_error_iff_render (h : ∀ d, ¬ f.Repeats d) {fault : Fault} :
    f.roundTrips text = .error fault ↔ ∃ t, f.read text = .ok t ∧ f.render t = .error fault := by
  unfold roundTrips
  cases hread : f.read text with
  | ok t => cases hrender : f.render t <;> simp [hrender, Except.map]
  | error problem =>
    cases problem with
    | mismatch => simp
    | «repeated» again =>
      obtain ⟨d, hd⟩ := exists_repeats_of_read hread
      exact absurd hd (h d)

/-- Only a native format hands its pattern on to be encoded. -/
private theorem render_eq_error_iff {t : DateTime} {fault : Fault} :
    f.render t = .error fault ↔ f.isNative ∧ f.directives.encode = .error fault := by
  cases f with
  | lettered p ps => simp [render, isNative]
  | native p =>
    rw [render, directives]
    cases p.encode <;> simp [isNative, Except.map]

/-! ### Formats that are accepted -/

section
variable {pattern : WideText} (h : ofPattern pattern = .ok f)
include h

/-- A format is native as it stands, or its pattern has no percent sign and is read as pieces. -/
private theorem ofPattern_cases : f = .native pattern ∨
    ∃ ps, .char '%' ∉ pattern ∧ pieces? pattern = .ok ps ∧ f = .lettered pattern ps := by
  unfold ofPattern at h
  split at h
  · cases h
    exact .inl rfl
  · rename_i hplain
    cases hpieces : pieces? pattern with
    | error c =>
      rw [hpieces] at h
      cases h
    | ok ps =>
      rw [hpieces] at h
      cases h
      exact .inr ⟨ps, by simpa using hplain, rfl, rfl⟩

private theorem directives_of_isNative (native : f.isNative) : f.directives = pattern := by
  rcases ofPattern_cases h with rfl | ⟨ps, -, -, rfl⟩
  · rfl
  · cases native

/-- Letters repeat a part if two of them read it. -/
theorem repeats_lettered_iff {ps : List (Letter ⊕ CodePoint)} (hf : f = .lettered pattern ps) :
    f.Repeats d ↔ List.Duplicate d ((letters ps).map Letter.directive) := by
  subst hf
  rcases ofPattern_cases h with hnative | ⟨qs, hplain, hpieces, hf⟩
  · cases hnative
  · cases hf
    have hnames := names_directives (percent_notMem hpieces hplain)
    constructor
    · rintro ⟨ds, hds, hd⟩
      rwa [hnames.unique hds]
    · exact fun hd => ⟨_, hnames, hd⟩

/-- Without a part that is named twice, only a native format breaks off, and only where it has read the
text and its pattern cannot be encoded. -/
private theorem roundTrips_eq_error_iff (hnone : ∀ d, ¬ f.Repeats d) {fault : Fault} :
    f.roundTrips text = .error fault ↔
      f.isNative ∧ pattern.encode = .error fault ∧ ∃ t, f.read text = .ok t := by
  simp only [roundTrips_eq_error_iff_render hnone, render_eq_error_iff]
  constructor
  · rintro ⟨t, hread, native, hencode⟩
    exact ⟨native, directives_of_isNative h native ▸ hencode, t, hread⟩
  · rintro ⟨native, hencode, t, hread⟩
    exact ⟨t, hread, native, (directives_of_isNative h native).symm ▸ hencode⟩

private theorem exists_answer_iff : (∃ answer, f.roundTrips text = .ok answer) ↔
    (∀ d, ¬ f.Repeats d) ∧
      ¬ (f.isNative ∧ (∃ s, .lone s ∈ pattern) ∧ ∃ t, f.read text = .ok t) := by
  constructor
  · rintro ⟨answer, hanswer⟩
    have hnone : ∀ d, ¬ f.Repeats d := by
      intro d hd
      obtain ⟨e, again, -, -, hall⟩ := roundTrips_of_repeats hd
      cases hanswer.symm.trans (hall text)
    refine ⟨hnone, ?_⟩
    rintro ⟨native, hlone, hread⟩
    obtain ⟨fault, hencode⟩ := WideText.exists_encode_error_iff.2 hlone
    cases hanswer.symm.trans ((roundTrips_eq_error_iff h hnone).2 ⟨native, hencode, hread⟩)
  · rintro ⟨hnone, hwritten⟩
    cases htrip : f.roundTrips text with
    | ok answer => exact ⟨answer, rfl⟩
    | error fault =>
      obtain ⟨native, hencode, hread⟩ := (roundTrips_eq_error_iff h hnone).1 htrip
      exact absurd ⟨native, WideText.exists_encode_error_iff.1 ⟨fault, hencode⟩, hread⟩ hwritten

end
end WideFormat

/-! ### Rules that ask for dates -/

def dateAttempt (format : DateFormat) (field : Text) (r : Rule) (data : FieldMap Value)
    (s : Surroundings) : Attempt :=
  let o : Occurrence := ⟨field, r, .dateFormat, format⟩
  ⟨o, o.trial data s⟩

inductive DateOutcome (format : DateFormat) (field : Text) (r : Rule) :
    Except Fault Bool → Attempt → Prop where
  | answered {answer : Bool} {a : Attempt} (told : a.told = [])
      (returned : a.trial.verdict =
        .returned (if answer then [] else [Checker.dateFormat.failureMessage format])) :
      DateOutcome format field r (.ok answer) a
  | broken {fault : Fault} {a : Attempt} (told : a.told = [.checkerFailed field r.name fault.message])
      (broken : a.trial.verdict = .broken fault)
      (contribution : a.contribution = [Checker.dateFormat.failureMessage format]) :
      DateOutcome format field r (.error fault) a

private theorem dateOutcome_attempt {field text : Text} {data : FieldMap Value}
    (format : DateFormat) (r : Rule)
    (s : Surroundings) (h : data.held field = .text text) :
    DateOutcome format field r (format.roundTrips text) (dateAttempt format field r data s) := by
  have htrial : (dateAttempt format field r data s).trial =
      .silent (.ok (Checker.dateFormat.failureMessage format)) (format.roundTrips text) := by
    have hheld : (dateAttempt format field r data s).trial =
        .silent (.ok (Checker.dateFormat.failureMessage format))
          ((data.held field).asText >>= format.roundTrips) := rfl
    rw [hheld, h]
    rfl
  cases hanswer : format.roundTrips text with
  | ok answer =>
    rw [hanswer] at htrial
    refine .answered ?_ ?_
    · rw [Attempt.told, htrial]
      cases answer <;> rfl
    · rw [htrial]
      cases answer <;> rfl
  | error fault =>
    rw [hanswer] at htrial
    refine .broken ?_ ?_ ?_
    · rw [Attempt.told, htrial]
      rfl
    · rw [htrial]
      rfl
    · rw [Attempt.contribution, htrial]
      rfl

private theorem DateFormat.ofPattern_of_parse {raw : Text} {format : DateFormat}
    (h : Checker.dateFormat.parse (some raw) = .ok format) : ofPattern raw = .ok format := by
  cases raw with
  | nil => cases h
  | cons c raw =>
    change Checker.parseDateFormat (c :: raw) = .ok format at h
    unfold Checker.parseDateFormat at h
    split at h
    · rename_i f hf
      cases h
      exact hf
    · cases h

/-- Under a format that is accepted, a text has an answer, be it yes or no, unless the format names a part
of a date twice, or it is native, has a code point that is no character, and has read the text. The answer
is yes if the text is read and written back as it was. A format that names a part twice breaks off on every
text, at the first part that is named again; a format of letters does if two of its letters read the same
part. Any other format breaks off at the code points that cannot be written. A rule with the format tells
nothing of a text with an answer, and its check fails where the format breaks off. -/
theorem dateFormat_answers_iff {pattern : WideText} {f : WideFormat}
    (h : WideFormat.ofPattern pattern = .ok f) :
    (∀ text, (∃ answer, f.roundTrips text = .ok answer) ↔ (∀ d, ¬ f.Repeats d) ∧
      ¬ (f.isNative ∧ (∃ s, .lone s ∈ pattern) ∧ ∃ t, f.read text = .ok t)) ∧
    (∀ text, f.roundTrips text = .ok true ↔ ∃ t, f.read text = .ok t ∧ f.render t = .ok text) ∧
    (∀ d, f.Repeats d → ∃ e again, f.RepeatsFirst e ∧ again.name = e.letter ∧
      ∀ text, f.roundTrips text = .error (.repeatedDirective again)) ∧
    ((∀ d, ¬ f.Repeats d) → ∀ text fault, f.roundTrips text = .error fault ↔
      f.isNative ∧ pattern.encode = .error fault ∧ ∃ t, f.read text = .ok t) ∧
    (∀ ps, f = .lettered pattern ps →
      ∀ d, f.Repeats d ↔ List.Duplicate d ((WideFormat.letters ps).map Letter.directive)) ∧
    ∀ raw format, .ofText raw = pattern → Checker.dateFormat.parse (some raw) = .ok format →
      ∀ field r text data s, data.held field = .text text →
        DateOutcome format field r (f.roundTrips (.ofText text))
          (dateAttempt format field r data s) := by
  refine ⟨fun text => WideFormat.exists_answer_iff h, fun text => WideFormat.roundTrips_eq_true_iff,
    fun d hd => WideFormat.roundTrips_of_repeats hd,
    fun hnone text fault => WideFormat.roundTrips_eq_error_iff h hnone,
    fun ps hf d => WideFormat.repeats_lettered_iff h hf, ?_⟩
  rintro raw format rfl hparse field r text data s hheld
  have hformat := DateFormat.ofPattern_of_parse hparse
  rw [WideFormat.ofPattern_ofText, hformat] at h
  cases h
  rw [WideFormat.roundTrips_ofFormat]
  exact dateOutcome_attempt format r s hheld

def dayPieces : List (Letter ⊕ CodePoint) :=
  [.inl .Y, .inr (.char '-'), .inl .m, .inr (.char '-'), .inl .d]

/-- Year, month and day in this order answer every text. -/
theorem day_format_answers :
    WideFormat.ofPattern (.ofText "Y-m-d".toList) = .ok (.lettered (.ofText "Y-m-d".toList) dayPieces) ∧
    ∀ text, ∃ answer,
      WideFormat.roundTrips (.lettered (.ofText "Y-m-d".toList) dayPieces) text = .ok answer := by
  have haccepted : WideFormat.ofPattern (.ofText "Y-m-d".toList) =
    .ok (.lettered (.ofText "Y-m-d".toList) dayPieces) := rfl
  obtain ⟨hanswers, -, -, -, hletters, -⟩ := dateFormat_answers_iff haccepted
  refine ⟨haccepted, fun text => (hanswers text).2 ⟨fun d hd => ?_, ?_⟩⟩
  · exact ((hletters _ rfl d).1 hd).not_nodup (by decide)
  · rintro ⟨native, -⟩
    cases native

def twoDays : DateFormat := .lettered "d/d".toList [.inl .d, .inr '/', .inl .d]

def twoDaysData : FieldMap Value := ⟨[("a".toList, .text "01/01".toList)], by decide⟩

/-- A day given twice is an accepted format that breaks off on a text. -/
theorem twoDays_unanswered :
    Checker.dateFormat.parse (some "d/d".toList) = .ok twoDays ∧
    twoDays.roundTrips "01/01".toList = .error (.repeatedDirective ⟨'d', 2, 1, 46⟩) ∧
    (dateAttempt twoDays "a".toList ⟨"date_format".toList, some "d/d".toList⟩ twoDaysData .offline).told =
      [.checkerFailed "a".toList "date_format".toList
        "redefinition of group name 'd' as group 2; was group 1 at position 46".toList] :=
  ⟨rfl, rfl, by decide +kernel⟩

/-- The last code point of the format cannot be written; the text ends in it as well. -/
example :
    let lone : Surrogate := ⟨0xd800, by decide⟩
    (WideFormat.native (WideText.ofText "%Y".toList ++ [.lone lone])).roundTrips
      (WideText.ofText "2020".toList ++ [.lone lone]) = .error (.loneSurrogates 0xd800 2 1) := rfl

end FieldRules
