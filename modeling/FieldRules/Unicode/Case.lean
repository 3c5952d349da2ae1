import FieldRules.Unicode.Tables.Case

/-!
Upper and lower case of characters and of texts.
-/

namespace FieldRules.Unicode

theorem ascii_of_isAlphanum {c : Char} (h : c.isAlphanum) : c.toNat < 128 := by
  have hcases : (c.isUpper || c.isLower || c.isDigit) = true := h
  simp only [Bool.or_eq_true] at hcases
  rcases hcases with (h | h) | h
  · have : c.toNat ≤ 90 := (of_decide_eq_true h).2
    omega
  · have : c.toNat ≤ 122 := (Bool.and_eq_true_iff.1 h).2 |> of_decide_eq_true
    omega
  · have : c.toNat ≤ 57 := of_decide_eq_true (Bool.and_eq_true_iff.1 h).2
    omega

def lower (c : Char) : Char := if c.toNat < 128 then c.toLower else Tables.lower.step c

def upper (c : Char) : Char := if c.toNat < 128 then c.toUpper else Tables.upper.step c

/-- The first character that counts for case is a letter with case. -/
def facesCased (t : List Char) : Bool :=
  match t.dropWhile Tables.caseIgnorable.covers with
  | [] => false
  | c :: _ => Tables.cased.covers c

/-- Sigma takes its final form after a letter when no letter follows; the dotted capital I keeps
its dot as a mark. The text before `c` is given from its end backwards. -/
def lowerIn (before : List Char) (c : Char) (after : List Char) : List Char :=
  if c = 'Σ' then if facesCased before && !facesCased after then ['ς'] else ['σ']
  else if c = 'İ' then ['i', '\u0307']
  else [lower c]

def lowerAfter (before : List Char) : List Char → List Char
  | [] => []
  | c :: after => lowerIn before c after ++ lowerAfter (c :: before) after

def lowerText (t : List Char) : List Char := lowerAfter [] t

def upperForm (c : Char) : List Char :=
  if c.toNat < 128 then [c.toUpper] else (Tables.longUpper.sequence? c).getD [upper c]

def hasCase (c : Char) : Bool := c != lower c || upperForm c != [c]

def upperText (t : List Char) : List Char := t.flatMap upperForm

/-- Over ASCII the lower-casing rules that look at neighbours play no part. -/
theorem lowerAfter_of_ascii (before t : List Char) (h : ∀ c ∈ t, c.toNat < 128) :
    lowerAfter before t = t.map Char.toLower := by
  induction t generalizing before with
  | nil => rfl
  | cons c t ih =>
    have hc := h c (by simp)
    have hs : c ≠ 'Σ' := by rintro rfl; exact absurd hc (by decide)
    have hi : c ≠ 'İ' := by rintro rfl; exact absurd hc (by decide)
    simp [lowerAfter, lowerIn, lower, hc, hs, hi, ih (c :: before) fun d hd => h d (by simp [hd])]

theorem upperText_of_ascii (t : List Char) (h : ∀ c ∈ t, c.toNat < 128) :
    upperText t = t.map Char.toUpper := by
  induction t with
  | nil => rfl
  | cons c t ih =>
    simp [upperText, upperForm, h c (by simp)]
    exact ih fun d hd => h d (by simp [hd])

end FieldRules.Unicode
