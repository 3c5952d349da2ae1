import FieldRules.Proofs.Json.Grammar

/-! The reader of JSON texts accepts what the grammar derives. Each of its states is given the texts
that still take it to the end of a document; one step takes one character off such a text, and a run
therefore ends well exactly on these texts. -/
namespace FieldRules.Json

variable {most : Nat}

/-- A text of the first kind and then one of the second. -/
def Followed (P Q : Text → Prop) (t : Text) : Prop := ∃ a b, t = a ++ b ∧ P a ∧ Q b

private theorem followed_cons {P Q : Text → Prop} {c : Char} {t : Text} :
    Followed P Q (c :: t) ↔ Followed (fun a => P (c :: a)) Q t ∨ P [] ∧ Q (c :: t) := by
  constructor
  · rintro ⟨_ | ⟨d, a⟩, b, ht, ha, hb⟩
    · exact .inr ⟨ha, by rwa [ht]⟩
    · obtain ⟨rfl, rfl⟩ := List.cons.inj ht
      exact .inl ⟨a, b, rfl, ha, hb⟩
  · rintro (⟨a, b, rfl, ha, hb⟩ | ⟨hnil, ht⟩)
    · exact ⟨c :: a, b, rfl, ha, hb⟩
    · exact ⟨[], c :: t, rfl, hnil, ht⟩

private theorem followed_nil {P Q : Text → Prop} : Followed P Q [] ↔ P [] ∧ Q [] := by
  constructor
  · rintro ⟨a, b, ht, ha, hb⟩
    obtain ⟨rfl, rfl⟩ := List.append_eq_nil_iff.1 ht.symm
    exact ⟨ha, hb⟩
  · rintro ⟨ha, hb⟩
    exact ⟨[], [], rfl, ha, hb⟩

private theorem followed_congr {P P' Q : Text → Prop} {t : Text} (h : ∀ a, P a ↔ P' a) :
    Followed P Q t ↔ Followed P' Q t := by
  simp only [Followed, h]

private theorem followed_and {p : Prop} {P Q : Text → Prop} {t : Text} :
    Followed (fun a => p ∧ P a) Q t ↔ p ∧ Followed P Q t := by
  constructor
  · rintro ⟨a, b, ht, ⟨hp, ha⟩, hb⟩
    exact ⟨hp, a, b, ht, ha, hb⟩
  · rintro ⟨hp, a, b, ht, ha, hb⟩
    exact ⟨a, b, ht, ⟨hp, ha⟩, hb⟩

private theorem followed_or {P P' Q : Text → Prop} {t : Text} :
    Followed (fun a => P a ∨ P' a) Q t ↔ Followed P Q t ∨ Followed P' Q t := by
  constructor
  · rintro ⟨a, b, ht, ha | ha, hb⟩
    · exact .inl ⟨a, b, ht, ha, hb⟩
    · exact .inr ⟨a, b, ht, ha, hb⟩
  · rintro (⟨a, b, ht, ha, hb⟩ | ⟨a, b, ht, ha, hb⟩)
    · exact ⟨a, b, ht, .inl ha, hb⟩
    · exact ⟨a, b, ht, .inr ha, hb⟩

private theorem followed_blanks_cons {Q : Text → Prop} {c : Char} {t : Text} :
    Followed Blanks Q (c :: t) ↔ isBlank c ∧ Followed Blanks Q t ∨ Q (c :: t) := by
  rw [followed_cons]
  refine or_congr ?_ (and_iff_right blanks_nil)
  simp only [Followed, blanks_cons]
  constructor
  · rintro ⟨a, b, ht, ⟨hc, ha⟩, hb⟩
    exact ⟨hc, a, b, ht, ha, hb⟩
  · rintro ⟨hc, a, b, ht, ha, hb⟩
    exact ⟨a, b, ht, ⟨hc, ha⟩, hb⟩

/-! ### What a state still asks for -/

def room (most : Nat) (inside : List Container) : Nat := most - inside.length

/-- What may follow a value: the other parts of the arrays and objects around it, and their ends. -/
inductive Closes (most : Nat) : List Container → Text → Prop where
  | finished {t : Text} (blanks : Blanks t) : Closes most [] t
  | close {k : Container} {outside : List Container} {w t : Text} (blanks : Blanks w)
      (rest : Closes most outside t) : Closes most (k :: outside) (w ++ k.closer :: t)
  | part {k : Container} {outside : List Container} {w w' p t : Text} (before : Blanks w)
      (after : Blanks w') (part : Derives Decimal.digitLimit k.part (room most (k :: outside)) p)
      (rest : Closes most (k :: outside) t) : Closes most (k :: outside) (w ++ ',' :: (w' ++ (p ++ t)))

def Comes (most : Nat) (p : Production) (inside : List Container) : Text → Prop :=
  Followed (Derives Decimal.digitLimit p (room most inside)) (Closes most inside)

def Shuts (most : Nat) (k : Container) (outside : List Container) : Text → Prop :=
  Followed Blanks fun t => ∃ rest, t = k.closer :: rest ∧ Closes most outside rest

def Fractional (t : Text) : Prop := Followed Fraction Exponent t

def Completes : Place → Text → Prop
  | .minus => Unsigned Decimal.digitLimit
  | .zero => Fractional
  | .whole n => fun t => ∃ ds u, t = ds ++ u ∧ Digits ds ∧ Fractional u ∧
      (u = [] → n + ds.length ≤ Decimal.digitLimit)
  | .point => fun t => ∃ c u, t = c :: u ∧ c.isDigit ∧ Followed Digits Exponent u
  | .fraction => Followed Digits Exponent
  | .exponent => fun t => ∃ s c ds, t = s ++ c :: ds ∧ Sign s ∧ c.isDigit ∧ Digits ds
  | .exponentSign => fun t => ∃ c ds, t = c :: ds ∧ c.isDigit ∧ Digits ds
  | .exponentDigits => Digits
  | .name rest => fun t => t = rest
  | _ => fun _ => False

def FollowsString (most : Nat) (isKey : Bool) (inside : List Container) : Text → Prop :=
  if isKey then
    Followed Blanks fun t => ∃ rest, t = ':' :: rest ∧ Followed Blanks (Comes most .value inside) rest
  else Closes most inside

def Unquotes (most : Nat) (P : Text → Prop) (isKey : Bool) (inside : List Container) : Text → Prop :=
  Followed P fun t => ∃ rest, t = '"' :: rest ∧ FollowsString most isKey inside rest

def Finishes (most : Nat) (s : State) : Text → Prop :=
  match s.place with
  | .value => Followed Blanks (Comes most .value s.inside)
  | .firstItem => fun t => Shuts most .array s.inside.tail t ∨ Followed Blanks (Comes most .value s.inside) t
  | .firstKey => fun t => Shuts most .object s.inside.tail t ∨ Followed Blanks (Comes most .member s.inside) t
  | .key => Followed Blanks (Comes most .member s.inside)
  | .colon => FollowsString most true s.inside
  | .done => Closes most s.inside
  | .string isKey => Unquotes most Characters isKey s.inside
  | .escape isKey => Unquotes most (fun t => Characters ('\\' :: t)) isKey s.inside
  | .hexadecimal left isKey =>
    Unquotes most (fun t => ∃ code u, t = code ++ u ∧ code.length = max left 1 ∧
      (∀ c ∈ code, isHexadecimal c) ∧ Characters u) isKey s.inside
  | place => Followed (Completes place) (Closes most s.inside)

def Leads (most : Nat) (x : Except Refusal State) (t : Text) : Prop := ∃ s, x = .ok s ∧ Finishes most s t

@[simp] private theorem leads_ok {s : State} {t : Text} : Leads most (.ok s) t ↔ Finishes most s t := by
  simp [Leads]

@[simp] private theorem leads_error {e : Refusal} {t : Text} : ¬ Leads most (.error e) t := by
  simp [Leads]

/-! ### After a value -/

private theorem closes_nil {inside : List Container} : Closes most inside [] ↔ inside = [] := by
  constructor
  · intro h
    generalize ht : ([] : Text) = t at h
    cases h with
    | finished => rfl
    | close => simp at ht
    | part => simp at ht
  · rintro rfl
    exact .finished blanks_nil

private theorem closes_blank {inside : List Container} {c : Char} {t : Text} (hc : isBlank c)
    (h : Closes most inside t) : Closes most inside (c :: t) := by
  have hcons {w : Text} (hw : Blanks w) : Blanks (c :: w) := blanks_cons.2 ⟨hc, hw⟩
  cases h with
  | finished hw => exact .finished (hcons hw)
  | close hw rest => exact .close (hcons hw) rest
  | part hw hw' part rest => exact .part (hcons hw) hw' part rest

private theorem closes_cons {inside : List Container} {c : Char} {t : Text} :
    Closes most inside (c :: t) ↔ isBlank c ∧ Closes most inside t ∨ ∃ k outside, inside = k :: outside ∧
      (c = ',' ∧ Followed Blanks (Comes most k.part inside) t ∨ c = k.closer ∧ Closes most outside t) := by
  constructor
  · intro h
    generalize ht : c :: t = u at h
    cases h with
    | finished hw =>
      subst ht
      obtain ⟨hc, hw⟩ := blanks_cons.1 hw
      exact .inl ⟨hc, .finished hw⟩
    | @close k outside w u hw rest =>
      rcases w with _ | ⟨d, w⟩
      · obtain ⟨rfl, rfl⟩ := List.cons.inj ht
        exact .inr ⟨k, outside, rfl, .inr ⟨rfl, rest⟩⟩
      · obtain ⟨rfl, rfl⟩ := List.cons.inj ht
        obtain ⟨hc, hw⟩ := blanks_cons.1 hw
        exact .inl ⟨hc, .close hw rest⟩
    | @part k outside w w' p u hw hw' part rest =>
      rcases w with _ | ⟨d, w⟩
      · obtain ⟨rfl, rfl⟩ := List.cons.inj ht
        exact .inr ⟨k, outside, rfl, .inl ⟨rfl, w', _, rfl, hw', p, u, rfl, part, rest⟩⟩
      · obtain ⟨rfl, rfl⟩ := List.cons.inj ht
        obtain ⟨hc, hw⟩ := blanks_cons.1 hw
        exact .inl ⟨hc, .part hw hw' part rest⟩
  · rintro (⟨hc, h⟩ | ⟨k, outside, rfl, ⟨rfl, w', _, rfl, hw', p, u, rfl, part, rest⟩ | ⟨rfl, rest⟩⟩)
    · exact closes_blank hc h
    · exact .part blanks_nil hw' part rest
    · exact .close blanks_nil rest

private theorem following_iff {inside : List Container} {c : Char} {t : Text} :
    Leads most (following inside c) t ↔ Closes most inside (c :: t) := by
  rw [closes_cons]
  by_cases hc : isBlank c
  · have hcomma : c ≠ ',' := by rintro rfl; contradiction
    have hcloser (k : Container) : c ≠ k.closer := by rintro rfl; cases k <;> contradiction
    simp [following, hc, hcomma, hcloser, Finishes]
  · rcases inside with _ | ⟨_ | _, outside⟩
    · simp [following, hc, malformed]
    · by_cases hcomma : c = ','
      · subst hcomma
        simp [following, hc, Finishes, Container.part, Container.closer]
      · by_cases hend : c = ']'
        · subst hend
          simp [following, hc, Finishes, Container.closer]
        · simp [following, hc, malformed, Container.closer, hcomma, hend]
    · by_cases hcomma : c = ','
      · subst hcomma
        simp [following, hc, Finishes, Container.part, Container.closer]
      · by_cases hend : c = '\x7d'
        · subst hend
          simp [following, hc, Finishes, Container.closer]
        · simp [following, hc, malformed, Container.closer, hcomma, hend]

/-! ### Numbers and names -/

private theorem exponent_cons {c : Char} {t : Text} :
    Exponent (c :: t) ↔ (c = 'e' ∨ c = 'E') ∧ Completes .exponent t := by
  constructor
  · intro h
    cases h with
    | digits mark sign first others => exact ⟨mark, _, _, _, rfl, sign, first, others⟩
  · rintro ⟨mark, s, d, ds, rfl, sign, first, others⟩
    exact .digits mark sign first others

private theorem fraction_cons {c : Char} {t : Text} :
    Fraction (c :: t) ↔ c = '.' ∧ ∃ d ds, t = d :: ds ∧ d.isDigit ∧ Digits ds := by
  constructor
  · intro h
    cases h with
    | digits first others => exact ⟨rfl, _, _, rfl, first, others⟩
  · rintro ⟨rfl, d, ds, rfl, first, others⟩
    exact .digits first others

private theorem digitsThenExponent_cons {c : Char} {t : Text} :
    Completes .fraction (c :: t) ↔
      c.isDigit ∧ Completes .fraction t ∨ (c = 'e' ∨ c = 'E') ∧ Completes .exponent t := by
  rw [Completes, followed_cons, and_iff_right digits_nil, exponent_cons]
  refine or_congr_left ?_
  simp only [Followed, digits_cons]
  constructor
  · rintro ⟨a, b, ht, ⟨hc, ha⟩, hb⟩
    exact ⟨hc, a, b, ht, ha, hb⟩
  · rintro ⟨hc, a, b, ht, ha, hb⟩
    exact ⟨a, b, ht, ⟨hc, ha⟩, hb⟩

private theorem fractional_cons {c : Char} {t : Text} :
    Fractional (c :: t) ↔ c = '.' ∧ Completes .point t ∨ (c = 'e' ∨ c = 'E') ∧ Completes .exponent t := by
  rw [Fractional, followed_cons, and_iff_right .absent, exponent_cons]
  refine or_congr_left ?_
  simp only [Followed, fraction_cons]
  constructor
  · rintro ⟨_, b, rfl, ⟨rfl, d, ds, rfl, hd, hds⟩, hb⟩
    exact ⟨rfl, d, _, rfl, hd, ds, b, rfl, hds, hb⟩
  · rintro ⟨rfl, d, _, rfl, hd, ds, b, rfl, hds, hb⟩
    exact ⟨d :: ds, b, rfl, ⟨rfl, d, ds, rfl, hd, hds⟩, hb⟩

private theorem fractional_nil : Fractional [] := followed_nil.2 ⟨.absent, .absent⟩

private theorem whole_cons {n : Nat} {c : Char} {t : Text} :
    Completes (.whole n) (c :: t) ↔ c.isDigit ∧ Completes (.whole (n + 1)) t ∨ Fractional (c :: t) := by
  simp only [Completes]
  constructor
  · rintro ⟨_ | ⟨d, ds⟩, u, ht, hds, hu, hlen⟩
    · exact .inr (ht ▸ hu)
    · obtain ⟨rfl, rfl⟩ := List.cons.inj ht
      obtain ⟨hd, hds⟩ := digits_cons.1 hds
      refine .inl ⟨hd, ds, u, rfl, hds, hu, fun hnil => ?_⟩
      have := hlen hnil
      simp only [List.length_cons] at this
      omega
  · rintro (⟨hc, ds, u, rfl, hds, hu, hlen⟩ | h)
    · refine ⟨c :: ds, u, rfl, digits_cons.2 ⟨hc, hds⟩, hu, fun hnil => ?_⟩
      have := hlen hnil
      simp only [List.length_cons]
      omega
    · exact ⟨[], c :: t, rfl, digits_nil, h, fun hnil => by cases hnil⟩

private theorem unsigned_cons {c : Char} {t : Text} :
    Unsigned Decimal.digitLimit (c :: t) ↔
      c = '0' ∧ Fractional t ∨ c ≠ '0' ∧ c.isDigit ∧ Completes (.whole 1) t := by
  have hlimit : 1 ≤ Decimal.digitLimit := by decide
  simp only [Unsigned, Completes, Fractional, Followed]
  constructor
  · rintro ⟨_, f, e, ht, hw, hf, he, hlen⟩
    cases hw with
    | zero =>
      obtain ⟨rfl, rfl⟩ := List.cons.inj ht
      exact .inl ⟨rfl, f, e, rfl, hf, he⟩
    | digits first nonzero others =>
      obtain ⟨rfl, rfl⟩ := List.cons.inj ht
      refine .inr ⟨nonzero, first, _, _, rfl, others, ⟨f, e, rfl, hf, he⟩, fun hnil => ?_⟩
      have := hlen hnil
      simp only [List.length_cons] at this
      omega
  · rintro (⟨rfl, f, e, rfl, hf, he⟩ | ⟨hne, hc, ds, _, rfl, hds, ⟨f, e, rfl, hf, he⟩, hlen⟩)
    · exact ⟨['0'], f, e, rfl, .zero, hf, he, fun _ => hlimit⟩
    · refine ⟨c :: ds, f, e, rfl, .digits hc hne hds, hf, he, fun hnil => ?_⟩
      have := hlen hnil
      simp only [List.length_cons]
      omega

private theorem unsigned_nil {n : Nat} : ¬ Unsigned n [] := by
  rintro ⟨w, f, e, ht, hw, -⟩
  cases hw <;> simp at ht

/-! ### Strings -/

private theorem characters_cons {c : Char} {t : Text} :
    Characters (c :: t) ↔
      c ≠ '"' ∧ c ≠ '\\' ∧ 0x20 ≤ c.toNat ∧ Characters t ∨ c = '\\' ∧ Characters ('\\' :: t) := by
  constructor
  · intro h
    cases h with
    | plain quote backslash printable others => exact .inl ⟨quote, backslash, printable, others⟩
    | short letter others => exact .inr ⟨rfl, .short letter others⟩
    | code length hexadecimal others => exact .inr ⟨rfl, .code length hexadecimal others⟩
  · rintro (⟨quote, backslash, printable, others⟩ | ⟨rfl, h⟩)
    · exact .plain quote backslash printable others
    · exact h

private theorem characters_escape {c : Char} {t : Text} :
    Characters ('\\' :: c :: t) ↔ isShortEscape c ∧ Characters t ∨
      c = 'u' ∧ ∃ code u, t = code ++ u ∧ code.length = 4 ∧ (∀ c ∈ code, isHexadecimal c) ∧
        Characters u := by
  have hletter : isShortEscape c ↔ c ∈ "\"\\/bfnrt".toList := List.contains_iff_mem
  rw [hletter]
  constructor
  · intro h
    cases h with
    | plain quote backslash => exact absurd rfl backslash
    | short letter others => exact .inl ⟨letter, others⟩
    | code length hexadecimal others => exact .inr ⟨rfl, _, _, rfl, length, hexadecimal, others⟩
  · rintro (⟨letter, others⟩ | ⟨rfl, code, u, rfl, length, hexadecimal, others⟩)
    · exact .short letter others
    · exact .code length hexadecimal others

private theorem not_characters_backslash : ¬ Characters ['\\'] := by
  intro h
  cases h with
  | plain quote backslash => exact backslash rfl

section
variable {inside : List Container} {isKey : Bool} {c : Char} {t : Text}

private theorem finishes_afterString :
    Finishes most ⟨if isKey then .colon else .done, inside⟩ t ↔ FollowsString most isKey inside t := by
  cases isKey <;> rfl

private theorem step_string : Leads most (step most ⟨.string isKey, inside⟩ c) t ↔
    Finishes most ⟨.string isKey, inside⟩ (c :: t) := by
  simp only [Finishes, Unquotes]
  rw [followed_cons, followed_congr fun a => characters_cons, followed_or]
  simp only [followed_and, List.cons.injEq, Characters.nil, true_and]
  by_cases hq : c = '"'
  · subst hq
    simp [step, finishes_afterString]
  by_cases hb : c = '\\'
  · subst hb
    simp [step, Finishes, Unquotes]
  by_cases hp : c.toNat < 32
  · simp [step, hq, hb, hp, malformed, Nat.not_le.2 hp]
  · simp [step, hq, hb, hp, Finishes, Unquotes, Nat.not_lt.1 hp]

private theorem step_escape : Leads most (step most ⟨.escape isKey, inside⟩ c) t ↔
    Finishes most ⟨.escape isKey, inside⟩ (c :: t) := by
  simp only [Finishes, Unquotes]
  rw [followed_cons, followed_congr fun a => characters_escape, followed_or]
  simp only [followed_and, not_characters_backslash, false_and, or_false]
  by_cases hs : isShortEscape c
  · have hu : c ≠ 'u' := by rintro rfl; contradiction
    simp [step, hs, hu, Finishes, Unquotes]
  · by_cases hu : c = 'u'
    · subst hu
      simp [step, hs, Finishes, Unquotes]
    · simp [step, hs, hu, malformed]

private theorem step_hexadecimal {left : Nat} :
    Leads most (step most ⟨.hexadecimal left isKey, inside⟩ c) t ↔
    Finishes most ⟨.hexadecimal left isKey, inside⟩ (c :: t) := by
  have hcode (n : Nat) (a : Text) :
      (∃ code u, c :: a = code ++ u ∧ code.length = n + 1 ∧ (∀ d ∈ code, isHexadecimal d) ∧
        Characters u) ↔ isHexadecimal c ∧ ∃ code u, a = code ++ u ∧ code.length = n ∧
        (∀ d ∈ code, isHexadecimal d) ∧ Characters u := by
    constructor
    · rintro ⟨_ | ⟨d, code⟩, u, ha, hlen, hall, hu⟩
      · cases hlen
      · obtain ⟨rfl, rfl⟩ := List.cons.inj ha
        obtain ⟨hd, hall⟩ := List.forall_mem_cons.1 hall
        exact ⟨hd, code, u, rfl, by simpa using hlen, hall, hu⟩
    · rintro ⟨hd, code, u, rfl, hlen, hall, hu⟩
      exact ⟨c :: code, u, rfl, by simp [hlen], List.forall_mem_cons.2 ⟨hd, hall⟩, hu⟩
  have hnil : ¬ ∃ code u : Text, [] = code ++ u ∧ code.length = max left 1 ∧
      (∀ d ∈ code, isHexadecimal d) ∧ Characters u := by
    rintro ⟨code, u, ha, hlen, -⟩
    obtain ⟨rfl, rfl⟩ := List.append_eq_nil_iff.1 ha.symm
    simp only [List.length_nil] at hlen
    omega
  simp only [Finishes, Unquotes]
  rw [followed_cons]
  simp only [hnil, false_and, or_false]
  obtain ⟨n, hn⟩ : ∃ n, max left 1 = n + 1 := ⟨max left 1 - 1, by omega⟩
  simp only [hn]
  rw [followed_congr fun a => hcode n a, followed_and]
  by_cases hc : isHexadecimal c
  · by_cases hl : left ≤ 1
    · obtain rfl : n = 0 := by omega
      simp [step, hc, hl, Finishes, Unquotes]
    · have hleft : max (left - 1) 1 = n := by omega
      simp [step, hc, hl, Finishes, Unquotes, hleft]
  · simp [step, hc, malformed]

/-! ### A step inside a number or a name -/

theorem ne_of_isDigit {d : Char} (hc : c.isDigit) (hd : ¬ d.isDigit) : c ≠ d := by
  rintro rfl
  exact hd hc

/-- Of all characters blanks, commas and the ends of arrays and objects may follow a value. -/
theorem not_closes_cons (hb : ¬ isBlank c) (hc : c ≠ ',') (ha : c ≠ ']') (ho : c ≠ '\x7d') :
    ¬ Closes most inside (c :: t) := by
  rw [closes_cons]
  rintro (⟨h, -⟩ | ⟨_ | _, outside, -, ⟨h, -⟩ | ⟨h, -⟩⟩)
  · exact hb h
  · exact hc h
  · exact ha h
  · exact hc h
  · exact ho h

private theorem not_closes_digit (hc : c.isDigit) : ¬ Closes most inside (c :: t) := by
  have hb : ¬ isBlank c := by
    rw [isBlank_iff]
    rintro (rfl | rfl | rfl | rfl) <;> contradiction
  exact not_closes_cons hb (ne_of_isDigit hc (by decide)) (ne_of_isDigit hc (by decide))
    (ne_of_isDigit hc (by decide))

private theorem not_closes_fraction : ¬ Closes most inside ('.' :: t) :=
  not_closes_cons (by decide) (by decide) (by decide) (by decide)

private theorem not_closes_exponent (hc : c = 'e' ∨ c = 'E') : ¬ Closes most inside (c :: t) := by
  rcases hc with rfl | rfl <;>
    exact not_closes_cons (by decide) (by decide) (by decide) (by decide)

private theorem afterWhole_iff : Leads most (afterWhole inside c) t ↔
    (c = '.' ∧ Finishes most ⟨.point, inside⟩ t ∨ (c = 'e' ∨ c = 'E') ∧ Finishes most ⟨.exponent, inside⟩ t) ∨
      Closes most inside (c :: t) := by
  by_cases hp : c = '.'
  · subst hp
    simp [afterWhole, not_closes_fraction]
  by_cases he : c = 'e' ∨ c = 'E'
  · simp [afterWhole, hp, he, not_closes_exponent he]
  · simp [afterWhole, hp, he, following_iff]

private theorem followed_fractional : Followed (fun a => Fractional (c :: a)) (Closes most inside) t ↔
    c = '.' ∧ Finishes most ⟨.point, inside⟩ t ∨
      (c = 'e' ∨ c = 'E') ∧ Finishes most ⟨.exponent, inside⟩ t := by
  rw [followed_congr fun a => fractional_cons, followed_or, followed_and, followed_and]
  rfl

private theorem step_zero :
    Leads most (step most ⟨.zero, inside⟩ c) t ↔ Finishes most ⟨.zero, inside⟩ (c :: t) := by
  simp only [Finishes, Completes]
  rw [followed_cons, followed_fractional, and_iff_right fractional_nil]
  exact afterWhole_iff

private theorem whole_nil {n : Nat} : Completes (.whole n) [] ↔ n ≤ Decimal.digitLimit := by
  simp only [Completes]
  constructor
  · rintro ⟨ds, u, ht, -, -, hlen⟩
    obtain ⟨rfl, rfl⟩ := List.append_eq_nil_iff.1 ht.symm
    exact hlen rfl
  · intro h
    exact ⟨[], [], rfl, digits_nil, fractional_nil, fun _ => h⟩

private theorem step_whole {n : Nat} : Leads most (step most ⟨.whole n, inside⟩ c) t ↔
    Finishes most ⟨.whole n, inside⟩ (c :: t) := by
  have hsplit : Finishes most ⟨.whole n, inside⟩ (c :: t) ↔
      (c.isDigit ∧ Finishes most ⟨.whole (n + 1), inside⟩ t ∨
        (c = '.' ∧ Finishes most ⟨.point, inside⟩ t ∨
          (c = 'e' ∨ c = 'E') ∧ Finishes most ⟨.exponent, inside⟩ t)) ∨
        n ≤ Decimal.digitLimit ∧ Closes most inside (c :: t) := by
    simp only [Finishes]
    rw [followed_cons, followed_congr fun a => whole_cons, followed_or, followed_and, whole_nil,
      followed_fractional]
    rfl
  rw [hsplit]
  by_cases hd : c.isDigit
  · have hp := ne_of_isDigit hd (d := '.') (by decide)
    have he := ne_of_isDigit hd (d := 'e') (by decide)
    have he' := ne_of_isDigit hd (d := 'E') (by decide)
    simp [step, hd, hp, he, he', not_closes_digit hd]
  by_cases hg : c = '.' ∨ c = 'e' ∨ c = 'E' ∨ n ≤ Decimal.digitLimit
  · simp only [step, hd, if_pos hg, Bool.false_eq_true, if_false, afterWhole_iff, false_and, false_or]
    refine or_congr_right (and_iff_right_of_imp fun h => ?_).symm
    rcases hg with rfl | hg | hg | hg
    · exact absurd h not_closes_fraction
    · exact absurd h (not_closes_exponent (.inl hg))
    · exact absurd h (not_closes_exponent (.inr hg))
    · exact hg
  · have hno := hg
    simp only [not_or] at hno
    simp [step, hd, hno, malformed]

private theorem step_point :
    Leads most (step most ⟨.point, inside⟩ c) t ↔ Finishes most ⟨.point, inside⟩ (c :: t) := by
  have hcons (a : Text) : Completes .point (c :: a) ↔ c.isDigit ∧ Completes .fraction a := by
    simp [Completes]
  have hnil : ¬ Completes .point [] := by simp [Completes]
  simp only [Finishes]
  rw [followed_cons, followed_congr hcons, followed_and]
  by_cases hd : c.isDigit <;> simp [step, hd, hnil, malformed, Finishes]

private theorem step_fraction : Leads most (step most ⟨.fraction, inside⟩ c) t ↔
    Finishes most ⟨.fraction, inside⟩ (c :: t) := by
  have hnil : Completes .fraction [] := followed_nil.2 ⟨digits_nil, .absent⟩
  simp only [Finishes]
  rw [followed_cons, followed_congr fun a => digitsThenExponent_cons, followed_or, followed_and,
    followed_and, and_iff_right hnil]
  by_cases hd : c.isDigit
  · have he := ne_of_isDigit hd (d := 'e') (by decide)
    have he' := ne_of_isDigit hd (d := 'E') (by decide)
    simp [step, hd, he, he', not_closes_digit hd, Finishes]
  by_cases he : c = 'e' ∨ c = 'E'
  · simp [step, hd, he, not_closes_exponent he, Finishes]
  · simp [step, hd, he, following_iff]

private theorem step_exponent : Leads most (step most ⟨.exponent, inside⟩ c) t ↔
    Finishes most ⟨.exponent, inside⟩ (c :: t) := by
  have hcons (a : Text) : Completes .exponent (c :: a) ↔
      (c = '+' ∨ c = '-') ∧ Completes .exponentSign a ∨ c.isDigit ∧ Digits a := by
    simp only [Completes]
    constructor
    · rintro ⟨_, d, ds, ha, sign, hd, hds⟩
      cases sign with
      | absent => obtain ⟨rfl, rfl⟩ := List.cons.inj ha; exact .inr ⟨hd, hds⟩
      | plus => obtain ⟨rfl, rfl⟩ := List.cons.inj ha; exact .inl ⟨.inl rfl, d, ds, rfl, hd, hds⟩
      | minus => obtain ⟨rfl, rfl⟩ := List.cons.inj ha; exact .inl ⟨.inr rfl, d, ds, rfl, hd, hds⟩
    · rintro (⟨rfl | rfl, d, ds, rfl, hd, hds⟩ | ⟨hd, hds⟩)
      · exact ⟨['+'], d, ds, rfl, .plus, hd, hds⟩
      · exact ⟨['-'], d, ds, rfl, .minus, hd, hds⟩
      · exact ⟨[], c, a, rfl, .absent, hd, hds⟩
  have hnil : ¬ Completes .exponent [] := by simp [Completes]
  simp only [Finishes]
  rw [followed_cons, followed_congr hcons, followed_or, followed_and, followed_and]
  by_cases hs : c = '+' ∨ c = '-'
  · have hd : ¬ c.isDigit := by rcases hs with rfl | rfl <;> decide
    simp [step, hs, hd, hnil, Finishes]
  · by_cases hd : c.isDigit
    · simp [step, hs, hd, Finishes, Completes]
    · simp [step, hs, hd, hnil, malformed]

private theorem step_exponentSign : Leads most (step most ⟨.exponentSign, inside⟩ c) t ↔
    Finishes most ⟨.exponentSign, inside⟩ (c :: t) := by
  have hcons (a : Text) : Completes .exponentSign (c :: a) ↔ c.isDigit ∧ Digits a := by
    simp [Completes]
  have hnil : ¬ Completes .exponentSign [] := by simp [Completes]
  simp only [Finishes]
  rw [followed_cons, followed_congr hcons, followed_and]
  by_cases hd : c.isDigit
  · simp [step, hd, Finishes, Completes]
  · simp [step, hd, hnil, malformed]

private theorem step_exponentDigits : Leads most (step most ⟨.exponentDigits, inside⟩ c) t ↔
    Finishes most ⟨.exponentDigits, inside⟩ (c :: t) := by
  simp only [Finishes, Completes]
  rw [followed_cons, followed_congr fun a => digits_cons, followed_and, and_iff_right digits_nil]
  by_cases hd : c.isDigit
  · simp [step, hd, not_closes_digit hd, Finishes, Completes]
  · simp [step, hd, following_iff]

private theorem followed_unsigned :
    Followed (fun a => Unsigned Decimal.digitLimit (c :: a)) (Closes most inside) t ↔
    c = '0' ∧ Finishes most ⟨.zero, inside⟩ t ∨ c ≠ '0' ∧ c.isDigit ∧ Finishes most ⟨.whole 1, inside⟩ t := by
  rw [followed_congr fun a => unsigned_cons, followed_or, followed_and, followed_and, followed_and]
  rfl

private theorem step_minus :
    Leads most (step most ⟨.minus, inside⟩ c) t ↔ Finishes most ⟨.minus, inside⟩ (c :: t) := by
  simp only [Finishes, Completes]
  rw [followed_cons, followed_unsigned]
  by_cases hz : c = '0'
  · subst hz
    simp [step, unsigned_nil]
  · by_cases hd : c.isDigit <;> simp [step, hz, hd, unsigned_nil, malformed]

private theorem step_name {rest : Text} : Leads most (step most ⟨.name rest, inside⟩ c) t ↔
    Finishes most ⟨.name rest, inside⟩ (c :: t) := by
  simp only [Finishes, Completes]
  rw [followed_cons]
  rcases rest with _ | ⟨d, rest⟩
  · simp [step, following_iff, Followed]
  · simp only [List.cons.injEq, followed_and]
    by_cases hd : c = d <;> simp [step, hd, malformed, Finishes, Completes]

/-! ### The beginning of a value -/

def Opened (k : Container) (depth : Nat) (t : Text) : Prop :=
  ∃ n, depth = n + 1 ∧ ((∃ w, t = w ++ [k.closer] ∧ Blanks w) ∨
    ∃ w ps w', t = w ++ (ps ++ (w' ++ [k.closer])) ∧ Blanks w ∧
      Derives Decimal.digitLimit (.parts k) n ps ∧ Blanks w')

private theorem derives_value_cons {depth : Nat} : Derives Decimal.digitLimit .value depth (c :: t) ↔
    (c = 't' ∧ t = "rue".toList ∨ c = 'f' ∧ t = "alse".toList ∨ c = 'n' ∧ t = "ull".toList) ∨
    (c = '-' ∧ Unsigned Decimal.digitLimit t ∨ Unsigned Decimal.digitLimit (c :: t)) ∨
    (c = '"' ∧ ∃ body, t = body ++ ['"'] ∧ Characters body) ∨
    (c = '[' ∧ Opened .array depth t ∨ c = '\x7b' ∧ Opened .object depth t) := by
  have hopened (k : Container) (hc : c = k.opener) (h : Opened k depth t) :
      Derives Decimal.digitLimit .value depth (c :: t) := by
    obtain ⟨n, rfl, ⟨w, rfl, hw⟩ | ⟨w, ps, w', rfl, hw, hps, hw'⟩⟩ := h
    · exact hc ▸ .empty k hw
    · exact hc ▸ .filled k hw hps hw'
  constructor
  · intro h
    cases h with
    | name known => exact .inl (by simpa using known)
    | number number =>
      cases number with
      | positive unsigned => exact .inr (.inl (.inr unsigned))
      | negative unsigned => exact .inr (.inl (.inl ⟨rfl, unsigned⟩))
    | string quoted =>
      obtain ⟨body, ht, hbody⟩ := quoted
      obtain ⟨rfl, rfl⟩ := List.cons.inj ht
      exact .inr (.inr (.inl ⟨rfl, body, rfl, hbody⟩))
    | empty k blanks =>
      cases k
      · exact .inr (.inr (.inr (.inl ⟨rfl, _, rfl, .inl ⟨_, rfl, blanks⟩⟩)))
      · exact .inr (.inr (.inr (.inr ⟨rfl, _, rfl, .inl ⟨_, rfl, blanks⟩⟩)))
    | filled k before parts after =>
      cases k
      · exact .inr (.inr (.inr (.inl ⟨rfl, _, rfl, .inr ⟨_, _, _, rfl, before, parts, after⟩⟩)))
      · exact .inr (.inr (.inr (.inr ⟨rfl, _, rfl, .inr ⟨_, _, _, rfl, before, parts, after⟩⟩)))
  · rintro (h | (⟨rfl, h⟩ | h) | ⟨rfl, body, rfl, h⟩ | ⟨hc, h⟩ | ⟨hc, h⟩)
    · exact .name (by simpa using h)
    · exact .number (.negative h)
    · exact .number (.positive h)
    · exact .string ⟨body, rfl, h⟩
    · exact hopened .array hc h
    · exact hopened .object hc h

private theorem not_derives_value_nil {depth : Nat} : ¬ Derives Decimal.digitLimit .value depth [] := by
  intro h
  generalize ht : ([] : Text) = t at h
  cases h with
  | name known => subst ht; simp at known
  | number number =>
    cases number with
    | positive unsigned => exact unsigned_nil (ht ▸ unsigned)
    | negative => cases ht
  | string quoted => obtain ⟨body, hbody, -⟩ := quoted; simp [← ht] at hbody
  | empty => cases ht
  | filled => cases ht

end

section
variable {k : Container} {outside : List Container}

/-- The parts of an array or object, read from the first: what follows it closes the container. -/
theorem comes_of_parts {ps t : Text}
    (h : Derives Decimal.digitLimit (.parts k) (room most (k :: outside)) ps)
    (ht : Closes most (k :: outside) t) : Comes most k.part (k :: outside) (ps ++ t) := by
  generalize hd : room most (k :: outside) = depth at h
  generalize hp : Production.parts k = production at h
  induction h with
  | last part =>
    cases hp
    exact ⟨_, t, rfl, hd ▸ part, ht⟩
  | more part before after _ _ ih =>
    cases hp
    obtain ⟨p', t', ht', part', rest⟩ := ih hd rfl
    refine ⟨_, _, ?_, hd ▸ part, .part before after part' rest⟩
    rw [← ht']
    simp
  | _ => cases hp

/-- The same from the other side: what closes a container are parts and its end. -/
theorem parts_of_closes {p t : Text} (ht : Closes most (k :: outside) t)
    (hp : Derives Decimal.digitLimit k.part (room most (k :: outside)) p) :
    ∃ ps w rest, p ++ t = ps ++ (w ++ k.closer :: rest) ∧
      Derives Decimal.digitLimit (.parts k) (room most (k :: outside)) ps ∧ Blanks w ∧
      Closes most outside rest := by
  generalize hi : k :: outside = inside at ht
  induction ht generalizing p with
  | finished => cases hi
  | close blanks rest =>
    cases hi
    exact ⟨p, _, _, rfl, .last hp, blanks, rest⟩
  | part before after part _ ih =>
    cases hi
    obtain ⟨ps, w, rest, heq, hps, hw, hrest⟩ := ih part rfl
    refine ⟨_, w, rest, ?_, .more hp before after hps, hw, hrest⟩
    rw [heq]
    simp

private theorem followed_opened {inside : List Container} {t : Text} :
    Followed (Opened k (room most inside)) (Closes most inside) t ↔ inside.length < most ∧
      (Shuts most k inside t ∨ Followed Blanks (Comes most k.part (k :: inside)) t) := by
  have hroom (hlt : inside.length < most) : room most inside = room most (k :: inside) + 1 := by
    simp only [room, List.length_cons]
    omega
  constructor
  · rintro ⟨a, b, rfl, ⟨n, hn, hopened⟩, hb⟩
    have hlt : inside.length < most := by
      simp only [room] at hn
      omega
    obtain rfl : n = room most (k :: inside) := by
      have := hroom hlt
      omega
    refine ⟨hlt, ?_⟩
    rcases hopened with ⟨w, rfl, hw⟩ | ⟨w, ps, w', rfl, hw, hps, hw'⟩
    · exact .inl ⟨w, k.closer :: b, by simp, hw, b, rfl, hb⟩
    · exact .inr ⟨w, ps ++ (w' ++ k.closer :: b), by simp, hw, comes_of_parts hps (.close hw' hb)⟩
  · rintro ⟨hlt, ⟨w, _, rfl, hw, b, rfl, hb⟩ | ⟨w, _, rfl, hw, p, t, rfl, hp, ht⟩⟩
    · exact ⟨w ++ [k.closer], b, by simp, ⟨_, hroom hlt, .inl ⟨w, rfl, hw⟩⟩, hb⟩
    · obtain ⟨ps, w', rest, heq, hps, hw', hrest⟩ := parts_of_closes ht hp
      refine ⟨w ++ (ps ++ (w' ++ [k.closer])), rest, by simp [heq], ?_, hrest⟩
      exact ⟨_, hroom hlt, .inr ⟨w, ps, w', rfl, hw, hps, hw'⟩⟩

private theorem enter_iff {inside : List Container} {t : Text} :
    Leads most (enter most inside k) t ↔ Followed (Opened k (room most inside)) (Closes most inside) t := by
  rw [followed_opened]
  by_cases hlt : inside.length < most
  · cases k <;> simp [enter, hlt, Finishes, Container.part]
  · simp [enter, hlt]

end

section
variable {inside : List Container} {c : Char} {t : Text}

private theorem followed_quoted :
    Followed (fun a => ∃ body, a = body ++ ['"'] ∧ Characters body) (Closes most inside) t ↔
      Finishes most ⟨.string false, inside⟩ t := by
  constructor
  · rintro ⟨_, b, rfl, ⟨body, rfl, hbody⟩, hb⟩
    exact ⟨body, '"' :: b, by simp, hbody, b, rfl, hb⟩
  · rintro ⟨body, _, rfl, hbody, b, rfl, hb⟩
    exact ⟨body ++ ['"'], b, by simp, ⟨body, rfl, hbody⟩, hb⟩

/-- A value begins with a character that tells of which kind it is. -/
theorem comes_value_cons : Comes most .value inside (c :: t) ↔
    (c = 't' ∧ Finishes most ⟨.name "rue".toList, inside⟩ t ∨
      c = 'f' ∧ Finishes most ⟨.name "alse".toList, inside⟩ t ∨
      c = 'n' ∧ Finishes most ⟨.name "ull".toList, inside⟩ t) ∨
    (c = '-' ∧ Finishes most ⟨.minus, inside⟩ t ∨ c = '0' ∧ Finishes most ⟨.zero, inside⟩ t ∨
      c ≠ '0' ∧ c.isDigit ∧ Finishes most ⟨.whole 1, inside⟩ t) ∨
    (c = '"' ∧ Finishes most ⟨.string false, inside⟩ t) ∨
    (c = '[' ∧ Leads most (enter most inside .array) t ∨
      c = '\x7b' ∧ Leads most (enter most inside .object) t) := by
  rw [Comes, followed_cons, followed_congr fun a => derives_value_cons]
  simp only [followed_or, followed_and, not_derives_value_nil, false_and, or_false, followed_unsigned,
    followed_quoted, enter_iff]
  rfl

private theorem opening_iff :
    Leads most (opening most inside c) t ↔ Comes most .value inside (c :: t) := by
  rw [comes_value_cons]
  by_cases hd : c.isDigit
  · have hne (d : Char) (h : ¬ d.isDigit) : c ≠ d := ne_of_isDigit hd h
    by_cases hz : c = '0'
    · subst hz
      simp [opening]
    · simp [opening, hd, hz, hne '"' (by decide), hne '[' (by decide), hne '\x7b' (by decide),
        hne '-' (by decide), hne 't' (by decide), hne 'f' (by decide), hne 'n' (by decide)]
  · have hz : c ≠ '0' := by rintro rfl; exact hd (by decide)
    unfold opening
    split_ifs <;> simp_all [malformed]

private theorem comes_member_cons : Comes most .member inside (c :: t) ↔
    c = '"' ∧ Finishes most ⟨.string true, inside⟩ t := by
  constructor
  · rintro ⟨a, b, ht, hmember, hb⟩
    cases hmember with
    | member key before after value =>
      obtain ⟨body, rfl, hbody⟩ := key
      obtain ⟨rfl, rfl⟩ := List.cons.inj ht
      exact ⟨rfl, body, _, by simp, hbody, _, rfl, _, _, rfl, before, _, rfl, _, _, rfl, after,
        _, _, rfl, value, hb⟩
  · rintro ⟨rfl, body, _, rfl, hbody, _, rfl, w, _, rfl, hw, _, rfl, w', _, rfl, hw', v, b, rfl,
      hv, hb⟩
    exact ⟨_, b, by simp, .member ⟨body, rfl, hbody⟩ hw hw' hv, hb⟩

private theorem not_comes_nil {p : Production} (hp : p = .value ∨ p = .member) :
    ¬ Comes most p inside [] := by
  rw [Comes, followed_nil]
  rintro ⟨h, -⟩
  rcases hp with rfl | rfl
  · exact not_derives_value_nil h
  · generalize ht : ([] : Text) = t at h
    cases h with
    | member key =>
      obtain ⟨body, rfl, -⟩ := key
      cases ht

private theorem not_opening_of_isBlank (hc : isBlank c) : ¬ Comes most .value inside (c :: t) := by
  rw [← opening_iff]
  rcases isBlank_iff.1 hc with rfl | rfl | rfl | rfl <;> simp [opening, malformed]

private theorem shuts_cons {k : Container} {outside : List Container} : Shuts most k outside (c :: t) ↔
    isBlank c ∧ Shuts most k outside t ∨ c = k.closer ∧ Closes most outside t := by
  rw [Shuts, followed_blanks_cons]
  simp

private theorem step_value :
    Leads most (step most ⟨.value, inside⟩ c) t ↔ Finishes most ⟨.value, inside⟩ (c :: t) := by
  simp only [Finishes]
  rw [followed_blanks_cons, ← opening_iff]
  by_cases hc : isBlank c
  · have hno : ¬ Leads most (opening most inside c) t := mt opening_iff.1 (not_opening_of_isBlank hc)
    simp [step, hc, hno, Finishes]
  · simp [step, hc]

private theorem step_firstItem : Leads most (step most ⟨.firstItem, inside⟩ c) t ↔
    Finishes most ⟨.firstItem, inside⟩ (c :: t) := by
  simp only [Finishes]
  rw [shuts_cons, followed_blanks_cons, ← opening_iff]
  by_cases hc : isBlank c
  · have hno : ¬ Leads most (opening most inside c) t := mt opening_iff.1 (not_opening_of_isBlank hc)
    have hend : c ≠ ']' := by rintro rfl; contradiction
    simp [step, hc, hno, hend, Finishes, Container.closer]
  · by_cases hend : c = ']'
    · subst hend
      simp [step, hc, Finishes, Container.closer, opening, malformed]
    · simp [step, hc, hend, Container.closer]

private theorem step_key :
    Leads most (step most ⟨.key, inside⟩ c) t ↔ Finishes most ⟨.key, inside⟩ (c :: t) := by
  simp only [Finishes]
  rw [followed_blanks_cons, comes_member_cons]
  by_cases hc : isBlank c
  · have hq : c ≠ '"' := by rintro rfl; contradiction
    simp [step, hc, hq, Finishes]
  · by_cases hq : c = '"'
    · subst hq
      simp [step, hc, Finishes]
    · simp [step, hc, hq, malformed]

private theorem step_firstKey : Leads most (step most ⟨.firstKey, inside⟩ c) t ↔
    Finishes most ⟨.firstKey, inside⟩ (c :: t) := by
  simp only [Finishes]
  rw [shuts_cons, followed_blanks_cons, comes_member_cons]
  by_cases hc : isBlank c
  · have hq : c ≠ '"' := by rintro rfl; contradiction
    have hend : c ≠ '\x7d' := by rintro rfl; contradiction
    simp [step, hc, hq, hend, Finishes, Container.closer]
  · by_cases hend : c = '\x7d'
    · subst hend
      simp [step, hc, Finishes, Container.closer]
    · by_cases hq : c = '"'
      · subst hq
        simp [step, hc, Finishes, Container.closer]
      · simp [step, hc, hend, hq, malformed, Container.closer]

private theorem step_colon :
    Leads most (step most ⟨.colon, inside⟩ c) t ↔ Finishes most ⟨.colon, inside⟩ (c :: t) := by
  simp only [Finishes, FollowsString, if_true]
  rw [followed_blanks_cons]
  by_cases hc : isBlank c
  · have hne : c ≠ ':' := by rintro rfl; contradiction
    simp [step, hc, hne, Finishes, FollowsString]
  · by_cases hcolon : c = ':'
    · subst hcolon
      simp [step, hc, Finishes]
    · simp [step, hc, hcolon, malformed]

end

/-- One step takes one character off what a state asks for. -/
theorem step_iff {s : State} {c : Char} {t : Text} :
    Leads most (step most s c) t ↔ Finishes most s (c :: t) := by
  obtain ⟨place, inside⟩ := s
  cases place with
  | value => exact step_value
  | firstItem => exact step_firstItem
  | firstKey => exact step_firstKey
  | key => exact step_key
  | colon => exact step_colon
  | done => exact following_iff
  | string isKey => exact step_string
  | escape isKey => exact step_escape
  | hexadecimal left isKey => exact step_hexadecimal
  | minus => exact step_minus
  | zero => exact step_zero
  | whole digits => exact step_whole
  | point => exact step_point
  | fraction => exact step_fraction
  | exponent => exact step_exponent
  | exponentSign => exact step_exponentSign
  | exponentDigits => exact step_exponentDigits
  | name rest => exact step_name

/-- Nothing more is asked for exactly where a text may end. -/
theorem isFinal_iff (most : Nat) {s : State} : s.isFinal ↔ Finishes most s [] := by
  obtain ⟨place, inside⟩ := s
  have hvalue : ¬ Comes most .value inside [] := not_comes_nil (.inl rfl)
  have hmember : ¬ Comes most .member inside [] := not_comes_nil (.inr rfl)
  have hfraction : Completes .fraction [] := followed_nil.2 ⟨digits_nil, .absent⟩
  cases place with
  | value | key => simp [State.isFinal, Finishes, followed_nil, hvalue, hmember]
  | firstItem | firstKey => simp [State.isFinal, Finishes, Shuts, followed_nil, hvalue, hmember]
  | colon => simp [State.isFinal, Finishes, FollowsString, followed_nil]
  | string | escape | hexadecimal => simp [State.isFinal, Finishes, Unquotes, followed_nil]
  | done => simp [State.isFinal, Finishes, closes_nil]
  | zero => simp [State.isFinal, Finishes, Completes, followed_nil, fractional_nil, closes_nil]
  | whole digits => simp [State.isFinal, Finishes, followed_nil, whole_nil, closes_nil, and_comm]
  | fraction => simp [State.isFinal, Finishes, followed_nil, hfraction, closes_nil]
  | exponentDigits => simp [State.isFinal, Finishes, Completes, followed_nil, digits_nil, closes_nil]
  | minus => simp [State.isFinal, Finishes, Completes, followed_nil, unsigned_nil]
  | point | exponent | exponentSign => simp [State.isFinal, Finishes, Completes, followed_nil]
  | name rest =>
    rcases rest with _ | ⟨c, rest⟩ <;>
      simp [State.isFinal, Finishes, Completes, followed_nil, closes_nil]

/-- A run ends well exactly on the texts that its state asks for. -/
theorem run_iff {s : State} {t : Text} :
    (∃ s', run most s t = .ok s' ∧ s'.isFinal) ↔ Finishes most s t := by
  induction t generalizing s with
  | nil => simpa [run] using isFinal_iff most
  | cons c t ih =>
    rw [← step_iff]
    cases h : step most s c with
    | error e => simp [run, h]
    | ok s' => simpa [run, h] using ih

/-- A document is accepted exactly when the reader ends in a final state. -/
theorem isDocument_eq_true_iff {t : Text} :
    isDocument most t = .ok true ↔ ∃ s, run most start t = .ok s ∧ s.isFinal := by
  unfold isDocument
  rcases run most start t with (_ | _) | s <;> simp

/-- The reader accepts the documents of the grammar that keep its bounds, and nothing else. -/
theorem isDocument_iff {t : Text} :
    isDocument most t = .ok true ↔ Document Decimal.digitLimit most t := by
  rw [isDocument_eq_true_iff, run_iff]
  constructor
  · rintro ⟨w, _, rfl, hw, v, w', rfl, hv, hw'⟩
    cases hw' with
    | finished hw' => exact ⟨w, v, w', rfl, hw, hv, hw'⟩
  · rintro ⟨w, v, w', rfl, hw, hv, hw'⟩
    exact ⟨w, _, rfl, hw, v, w', rfl, hv, .finished hw'⟩

end FieldRules.Json
