import FieldRules.Text
import FieldRules.Unicode.Digit

/-!
Whole numbers in decimal notation: writing in ASCII digits, reading in the digits of any script.
-/

namespace FieldRules.Decimal

/-- Whole numbers with more digits than this are neither written nor read. -/
def digitLimit : Nat := 4300

def natural (n : Nat) : Text := Nat.toDigits 10 n

def integer (i : Int) : Text := if i < 0 then '-' :: natural i.natAbs else natural i.natAbs

def padded (width n : Nat) : Text :=
  List.replicate (width - (natural n).length) '0' ++ natural n

def isTooLong (i : Int) : Bool := Nat.pow 10 digitLimit ≤ i.natAbs

def value (digits : List Nat) : Nat := digits.foldl (fun n d => 10 * n + d) 0

def digits? : Text → Option (List Nat)
  | [] => none
  | [c] => (Unicode.digit? c).map ([·])
  | c :: '_' :: t =>
    match Unicode.digit? c, digits? t with
    | some d, some ds => some (d :: ds)
    | _, _ => none
  | c :: t =>
    match Unicode.digit? c, digits? t with
    | some d, some ds => some (d :: ds)
    | _, _ => none

def signed : Text → Bool × Text
  | '-' :: t => (true, t)
  | '+' :: t => (false, t)
  | t => (false, t)

def integer? (t : Text) : Option Int :=
  let (negative, body) := signed t
  match digits? body with
  | some ds =>
    if ds.length ≤ digitLimit then
      some (if negative then -(value ds : Int) else value ds)
    else none
  | none => none

private theorem foldl_digits_lt {ds : List Nat} (h : ∀ d ∈ ds, d < 10) (n : Nat) :
    ds.foldl (fun n d => 10 * n + d) n < (n + 1) * Nat.pow 10 ds.length := by
  induction ds generalizing n with
  | nil => simp
  | cons d rest ih =>
    have hd : d < 10 := h d List.mem_cons_self
    have hr := ih (fun e he => h e (List.mem_cons_of_mem _ he)) (10 * n + d)
    have hpow : Nat.pow 10 (rest.length + 1) = 10 * Nat.pow 10 rest.length := Nat.mul_comm _ 10
    have hle := Nat.mul_le_mul_right (Nat.pow 10 rest.length)
      (show 10 * n + d + 1 ≤ (n + 1) * 10 by omega)
    rw [List.foldl_cons, List.length_cons, hpow, ← Nat.mul_assoc]
    omega

private theorem value_lt {ds : List Nat} (h : ∀ d ∈ ds, d < 10) : value ds < Nat.pow 10 ds.length := by
  simpa [value] using foldl_digits_lt h 0

private theorem digits?_lt {t : Text} {ds : List Nat} (h : digits? t = some ds) : ∀ d ∈ ds, d < 10 := by
  fun_induction digits? t generalizing ds with
  | case1 => simp at h
  | case2 c =>
    obtain ⟨d, hd, rfl⟩ := Option.map_eq_some_iff.1 h
    simpa using Unicode.digit?_lt hd
  | case3 c t d ds' hds hd ih | case5 c t hne hne' d ds' hds hd ih =>
    cases h
    simpa using ⟨Unicode.digit?_lt hd, ih hds⟩
  | case4 => simp at h
  | case6 => simp at h

/-- What is read can be written. -/
theorem isTooLong_of_integer? {t : Text} {i : Int} (h : integer? t = some i) :
    isTooLong i = false := by
  simp only [integer?] at h
  cases hds : digits? (signed t).2 with
  | none => simp [hds] at h
  | some ds =>
    simp only [hds, Option.ite_none_right_eq_some, Option.some.injEq] at h
    obtain ⟨hlen, rfl⟩ := h
    have hv := value_lt (digits?_lt hds)
    have hp : ∀ m n, m ≤ n → Nat.pow 10 m ≤ Nat.pow 10 n :=
      fun _ _ => Nat.pow_le_pow_right (by decide)
    have hi : (if (signed t).1 then -(value ds : Int) else value ds).natAbs = value ds := by
      split <;> simp
    simp only [isTooLong, hi, decide_eq_false_iff_not]
    exact Nat.not_le.2 (Nat.lt_of_lt_of_le hv (hp _ _ hlen))

end FieldRules.Decimal
