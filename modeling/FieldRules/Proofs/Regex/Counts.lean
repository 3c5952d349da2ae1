import FieldRules.Regex.Count
import Mathlib.Data.List.TakeWhile

/-! Numbers of repetitions in braces: which tokens are counts, and which counts are too much. Reading
breaks off at the first of these and at nothing else. -/
namespace FieldRules.Regex

inductive Excess (ds : Text) : Fault → Prop where
  | long (length : 4300 < ds.length) : Excess ds (.countTooLong ds.length)
  | large (length : ds.length ≤ 4300) (value : 4294967295 ≤ Nat.ofDigitChars 10 ds 0) :
      Excess ds .repetitionTooLarge

/-- Counts as they stand behind an opening brace: one, or two with a comma between them. -/
inductive Counts : List Token → Text → Option Text → Prop where
  | one {ds : Text} {rest : List Token} (digits : ∀ c ∈ ds, c.isDigit) (given : ds ≠ [])
      (behind : rest ≠ [.dangling]) : Counts (ds.map .plain ++ .plain '\x7d' :: rest) ds none
  | two {least most : Text} {rest : List Token} (digits : ∀ c ∈ least, c.isDigit)
      (digits' : ∀ c ∈ most, c.isDigit) (behind : rest ≠ [.dangling]) :
      Counts (least.map .plain ++ .plain ',' :: (most.map .plain ++ .plain '\x7d' :: rest))
        least (some most)

/-- One of the counts is too much; the first is looked at first. -/
def Overflows (ts : List Token) (fault : Fault) : Prop :=
  ∃ least most, Counts ts least most ∧
    (Excess least fault ∨ (∀ f, ¬ Excess least f) ∧ ∃ ds ∈ most, Excess ds fault)

namespace Token

private theorem number_map_plain {ds : Text} (h : ∀ c ∈ ds, c.isDigit) :
    number 10 ((ds.map plain).filterMap (digit? 10)) = Nat.ofDigitChars 10 ds 0 := by
  have hdigits : (ds.map plain).filterMap (digit? 10) = ds.map fun c => c.toNat - 48 := by
    induction ds with
    | nil => rfl
    | cons c ds ih =>
      obtain ⟨hc, hds⟩ := List.forall_mem_cons.1 h
      have hvalue : digit? 10 (plain c) = some (c.toNat - 48) := by
        have hsmall : c.toNat ≤ 57 := of_decide_eq_true (Bool.and_eq_true_iff.1 hc).2
        simp only [digit?, hc, if_true, Char.reduceToNat]
        exact if_pos (by omega)
      rw [List.map_cons, List.filterMap_cons_some hvalue, ih hds, List.map_cons]
  rw [hdigits, number, List.foldl_map, Nat.ofDigitChars_eq_foldl]
  rfl

private theorem exists_digits {ts : List Token} (h : ∀ t ∈ ts, t.isDigit) :
    ∃ ds : Text, (∀ c ∈ ds, c.isDigit) ∧ ds.map plain = ts := by
  induction ts with
  | nil => exact ⟨[], by simp, rfl⟩
  | cons t ts ih =>
    obtain ⟨ht, hts⟩ := List.forall_mem_cons.1 h
    obtain ⟨ds, hds, rfl⟩ := ih hts
    cases t with
    | plain c => exact ⟨c :: ds, List.forall_mem_cons.2 ⟨ht, hds⟩, rfl⟩
    | escaped c => cases ht
    | dangling => cases ht

/-- The digits in front, as a text, and what stands behind them. -/
theorem exists_digits_append (ts : List Token) :
    ∃ (ds : Text) (rest : List Token), (∀ c ∈ ds, c.isDigit) ∧ ts = ds.map plain ++ rest ∧
      ts.takeWhile isDigit = ds.map plain ∧ ts.dropWhile isDigit = rest := by
  obtain ⟨ds, hds, hmap⟩ := exists_digits fun t ht => List.mem_takeWhile_imp ht
  exact ⟨ds, _, hds, by rw [hmap, List.takeWhile_append_dropWhile], hmap.symm, rfl⟩

private theorem takeWhile_digits {ds : Text} {t : Token} (h : ∀ c ∈ ds, c.isDigit) (ht : ¬ t.isDigit)
    (rest : List Token) :
    (ds.map plain ++ t :: rest).takeWhile isDigit = ds.map plain ∧
      (ds.map plain ++ t :: rest).dropWhile isDigit = t :: rest := by
  have hall : ∀ u ∈ ds.map plain, isDigit u := List.forall_mem_map.2 h
  rw [List.takeWhile_append_of_pos hall, List.dropWhile_append_of_pos hall,
    List.takeWhile_cons_of_neg ht, List.dropWhile_cons_of_neg ht, List.append_nil]
  exact ⟨rfl, rfl⟩

end Token

namespace Bounds

private theorem readCount_eq_broken_iff {ds : Text} (h : ∀ c ∈ ds, c.isDigit) (fault : Fault) :
    readCount (ds.map .plain) = .error (.broken fault) ↔ Excess ds fault := by
  simp only [readCount, List.length_map, Token.number_map_plain h]
  constructor
  · intro hread
    split at hread
    · rename_i hlong
      cases hread
      exact .long hlong
    · rename_i hshort
      split at hread
      · cases hread
      · rename_i hlarge
        cases hread
        exact .large (Nat.not_lt.1 hshort) (Nat.not_lt.1 hlarge)
  · rintro (hlong | ⟨hshort, hlarge⟩)
    · exact if_pos hlong
    · rw [if_neg (show ¬ Decimal.digitLimit < ds.length from Nat.not_lt.2 hshort)]
      exact if_neg (Nat.not_lt.2 hlarge)

private theorem readCount_ne_malformed (ts : List Token) : readCount ts ≠ .error .malformed := by
  unfold readCount
  split
  · simp
  · dsimp only
    split <;> simp

/-- The lower bound is looked at first, so a fault of the upper one shows only when the lower has
none. -/
private theorem readBounds_eq_broken_iff {least most : Text} {fault : Fault} (h : ∀ c ∈ least, c.isDigit)
    (h' : ∀ c ∈ most, c.isDigit) :
    readBounds (least.map .plain) (most.map .plain) = .error (.broken fault) ↔
      Excess least fault ∨ (∀ f, ¬ Excess least f) ∧ Excess most fault := by
  have hleast := readCount_eq_broken_iff h
  have hmost := readCount_eq_broken_iff h' fault
  rw [← hmost]
  simp only [← hleast]
  cases hread : readCount (least.map .plain) with
  | error problem =>
    have hbounds : readBounds (least.map .plain) (most.map .plain) = .error problem := by
      rw [readBounds, hread]
      rfl
    rw [hbounds]
    cases problem with
    | malformed => exact absurd hread (readCount_ne_malformed _)
    | broken f => simp
  | ok m =>
    simp only [readBounds, hread, bind, Except.bind, pure, Except.pure, List.isEmpty_map]
    split
    · rename_i hnone
      have hread' : readCount (most.map .plain) = .ok 0 := by rw [List.isEmpty_iff.1 hnone]; rfl
      simp [hread']
    · cases hread' : readCount (most.map .plain) with
      | error problem => simp
      | ok n =>
        dsimp only
        split <;> simp

def ending (ts least most : List Token) : List Token → Except Refusal (Option (Bounds × List Token))
  | [.plain '\x7d', .dangling] => .error .malformed
  | .plain '\x7d' :: rest =>
    if ts.head? = some (.plain '\x7d') then .ok none
    else (readBounds least most).map fun bounds => some (bounds, rest)
  | _ => .ok none

private theorem readBraces_one {ts : List Token}
    (h : ∀ rest, ts.dropWhile Token.isDigit ≠ .plain ',' :: rest) :
    readBraces ts = ending ts (ts.takeWhile Token.isDigit) (ts.takeWhile Token.isDigit)
      (ts.dropWhile Token.isDigit) := by
  unfold readBraces
  split
  · rename_i hcomma
    exact absurd hcomma (h _)
  · rfl

private theorem readBraces_two {ts behind : List Token}
    (h : ts.dropWhile Token.isDigit = .plain ',' :: behind) :
    readBraces ts = ending ts (ts.takeWhile Token.isDigit) (behind.takeWhile Token.isDigit)
      (behind.dropWhile Token.isDigit) := by
  unfold readBraces
  rw [h]
  rfl

private theorem ending_of_ne {ts rest : List Token} (least most : List Token)
    (hhead : ts.head? ≠ some (.plain '\x7d')) (behind : rest ≠ [.dangling]) :
    ending ts least most (.plain '\x7d' :: rest) =
      (readBounds least most).map fun bounds => some (bounds, rest) := by
  unfold ending
  split
  · rename_i heq
    exact absurd (List.cons.inj heq).2 behind
  · rename_i heq
    cases heq
    rw [if_neg hhead]
  · rename_i hno
    exact absurd rfl (hno rest)

private theorem ending_cases (ts least most rest : List Token) :
    ending ts least most rest = .ok none ∨ ending ts least most rest = .error .malformed ∨
      ∃ behind, rest = .plain '\x7d' :: behind ∧ behind ≠ [.dangling] ∧
        ts.head? ≠ some (.plain '\x7d') := by
  unfold ending
  split
  · exact .inr (.inl rfl)
  · rename_i behind hbehind
    split
    · exact .inl rfl
    · rename_i hhead
      exact .inr (.inr ⟨behind, rfl, hbehind, hhead⟩)
  · exact .inl rfl

/-- Digits, or the comma behind them, do not start with the closing brace. -/
theorem head?_digits_ne {ds : Text} {rest : List Token} (digits : ∀ c ∈ ds, c.isDigit)
    (h : ds = [] → rest.head? ≠ some (.plain '\x7d')) :
    (ds.map Token.plain ++ rest).head? ≠ some (.plain '\x7d') := by
  cases ds with
  | nil => exact h rfl
  | cons c ds =>
    have hc : c ≠ '\x7d' := by
      rintro rfl
      exact absurd (digits _ List.mem_cons_self) (by decide)
    simp [hc]

/-- Braces that hold counts are read by the two bounds, whatever follows them. -/
private theorem readBraces_of_counts {ts : List Token} {least : Text} {most : Option Text}
    (h : Counts ts least most) :
    ∃ rest, rest <:+ ts ∧ readBraces ts =
      (readBounds (least.map .plain) ((most.getD least).map .plain)).map fun b => some (b, rest) := by
  cases h with
  | @one ds rest digits given behind =>
    obtain ⟨htake, hdrop⟩ := Token.takeWhile_digits (t := .plain '\x7d') digits (by decide) rest
    refine ⟨rest, (List.suffix_cons _ rest).trans (List.suffix_append _ _), ?_⟩
    rw [readBraces_one (by simp [hdrop]), htake, hdrop]
    exact ending_of_ne _ _ (head?_digits_ne digits fun hnil => absurd hnil given) behind
  | @two _ most rest digits digits' behind =>
    have left : rest <:+ .plain ',' :: (most.map .plain ++ .plain '\x7d' :: rest) :=
      (List.suffix_cons _ rest).trans ((List.suffix_append _ _).trans (List.suffix_cons _ _))
    obtain ⟨htake, hdrop⟩ := Token.takeWhile_digits (t := .plain ',') digits (by decide)
      (most.map .plain ++ .plain '\x7d' :: rest)
    obtain ⟨htake', hdrop'⟩ := Token.takeWhile_digits (t := .plain '\x7d') digits' (by decide) rest
    refine ⟨rest, left.trans (List.suffix_append _ _), ?_⟩
    rw [readBraces_two hdrop, htake, htake', hdrop']
    exact ending_of_ne _ _ (head?_digits_ne digits fun _ => by simp) behind

/-- A brace is a character like others, or what stands behind it is malformed, or it is counts. -/
theorem readBraces_cases (ts : List Token) :
    readBraces ts = .ok none ∨ readBraces ts = .error .malformed ∨
      ∃ least most, Counts ts least most := by
  obtain ⟨ds, behind, digits, hts, htake, hdrop⟩ := Token.exists_digits_append ts
  by_cases hcomma : ∃ rest, behind = .plain ',' :: rest
  · obtain ⟨rest, rfl⟩ := hcomma
    obtain ⟨es, behind, digits', hrest, htake', hdrop'⟩ := Token.exists_digits_append rest
    rw [readBraces_two hdrop]
    rcases ending_cases ts (ts.takeWhile Token.isDigit) (rest.takeWhile Token.isDigit)
      (rest.dropWhile Token.isDigit) with hnone | hmalformed | ⟨behind', hbehind, hdangling, -⟩
    · exact .inl hnone
    · exact .inr (.inl hmalformed)
    · refine .inr (.inr ⟨ds, some es, ?_⟩)
      rw [hts, hrest, ← hdrop', hbehind]
      exact .two digits digits' hdangling
  · rw [readBraces_one fun rest hrest => hcomma ⟨rest, hdrop ▸ hrest⟩]
    rcases ending_cases ts (ts.takeWhile Token.isDigit) (ts.takeWhile Token.isDigit)
      (ts.dropWhile Token.isDigit) with hnone | hmalformed | ⟨behind', hbehind, hdangling, hhead⟩
    · exact .inl hnone
    · exact .inr (.inl hmalformed)
    · refine .inr (.inr ⟨ds, none, ?_⟩)
      rw [hts, ← hdrop, hbehind]
      refine .one digits ?_ hdangling
      rintro rfl
      refine hhead ?_
      rw [hts, ← hdrop, hbehind]
      rfl

/-- Reading counts breaks off where one of them is too much, and nowhere else. -/
theorem readBraces_eq_broken_iff {ts : List Token} {fault : Fault} :
    readBraces ts = .error (.broken fault) ↔ Overflows ts fault := by
  have hcounts : ∀ {least most}, Counts ts least most →
      (readBraces ts = .error (.broken fault) ↔
        Excess least fault ∨ (∀ f, ¬ Excess least f) ∧ ∃ ds ∈ most, Excess ds fault) := by
    intro least most h
    obtain ⟨rest, -, hread⟩ := readBraces_of_counts h
    have hmap : readBraces ts = .error (.broken fault) ↔
        readBounds (least.map .plain) ((most.getD least).map .plain) = .error (.broken fault) := by
      rw [hread]
      cases readBounds (least.map .plain) ((most.getD least).map .plain) <;> simp [Except.map]
    rw [hmap]
    cases h with
    | one digits given behind =>
      rw [Option.getD_none, readBounds_eq_broken_iff digits digits]
      simp only [Option.mem_def, reduceCtorEq, false_and, exists_false, and_false, or_false,
        or_iff_left_iff_imp]
      exact fun h => h.2
    | two digits digits' behind =>
      rw [Option.getD_some, readBounds_eq_broken_iff digits digits']
      simp
  constructor
  · intro h
    rcases readBraces_cases ts with hnone | hmalformed | ⟨least, most, hc⟩
    · rw [hnone] at h
      cases h
    · rw [hmalformed] at h
      cases h
    · exact ⟨least, most, hc, (hcounts hc).1 h⟩
  · rintro ⟨least, most, hc, hexcess⟩
    exact (hcounts hc).2 hexcess

/-- Counts are taken off the front. -/
theorem readBraces_left {ts rest : List Token} {bounds : Bounds}
    (h : readBraces ts = .ok (some (bounds, rest))) : rest <:+ ts := by
  rcases readBraces_cases ts with hnone | hmalformed | ⟨least, most, hc⟩
  · rw [hnone] at h
    cases h
  · rw [hmalformed] at h
    cases h
  · obtain ⟨rest', left, hread⟩ := readBraces_of_counts hc
    rw [hread] at h
    cases hbounds : readBounds (least.map .plain) ((most.getD least).map .plain) with
    | error problem =>
      rw [hbounds] at h
      cases h
    | ok b =>
      rw [hbounds] at h
      cases h
      exact left

end Bounds
end FieldRules.Regex
