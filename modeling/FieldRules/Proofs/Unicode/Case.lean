import FieldRules.Unicode.Case
import Mathlib.Data.List.Basic

/-! Lower case outside of ASCII. The table of lower-case forms leads back into ASCII at two characters
only: the Kelvin sign is a small `k` in lower case, and the dotted capital I a small `i`, which keeps a
mark that is not ASCII. -/
namespace FieldRules.Unicode

/-! ### ASCII -/

/-- What holds of the characters with the first 128 code points holds of the ASCII characters. -/
theorem ascii_forall {P : Char → Prop} (h : ∀ n : Fin 128, P (Char.ofNat n)) {c : Char}
    (hc : c.toNat < 128) : P c := by
  have hp := h ⟨c.toNat, hc⟩
  rwa [Char.ofNat_toNat] at hp

/-- Lower case changes capitals only, into small letters. -/
theorem toLower_cases (c : Char) : c.isUpper ∧ c.toLower.isLower ∨ ¬ c.isUpper ∧ c.toLower = c := by
  by_cases hc : c.isUpper
  · refine .inl ⟨hc, ?_⟩
    have hascii : c.toNat < 128 := by
      have : c.toNat ≤ 90 := (of_decide_eq_true hc).2
      omega
    exact ascii_forall (P := fun c => c.isUpper → c.toLower.isLower) (by decide) hascii hc
  · exact .inr ⟨hc, dif_neg fun h => hc (decide_eq_true h)⟩

theorem toLower_eq_iff {c d : Char} (hd : ¬ d.isAlpha) : c.toLower = d ↔ c = d := by
  change ¬ (d.isUpper || d.isLower) at hd
  rw [Bool.or_eq_true, not_or] at hd
  rcases toLower_cases c with ⟨hc, hl⟩ | ⟨-, h⟩
  · exact iff_of_false (fun h => hd.2 (h ▸ hl)) fun h => hd.1 (h ▸ hc)
  · rw [h]

theorem isAlpha_eq (c : Char) : c.isAlpha = (c.isUpper || c.isLower) := rfl

/-! ### The table -/

namespace Packed

/-- The search ends at a record of the table. -/
theorem lastUpTo_lt {t : Packed} (x : Nat) {k i : Nat} (h : i < t.size) : t.lastUpTo x k i < t.size := by
  induction k generalizing i with
  | zero => exact h
  | succ k ih =>
    rw [lastUpTo]
    refine ih ?_
    split
    · rename_i hj
      exact hj.1
    · exact h

private theorem below?_eq_some {t : Packed} {x first rest : Nat} (h : t.below? x = some (first, rest)) :
    ∃ i < t.size, t.record i % Nat.pow 2 t.keyBits = first ∧ t.record i >>> t.keyBits = rest ∧
      first ≤ x := by
  simp only [below?] at h
  split at h
  · rename_i hfound
    obtain ⟨rfl, rfl⟩ := Prod.mk.inj (Option.some.inj h)
    exact ⟨_, lastUpTo_lt x hfound.1, rfl, rfl, hfound.2⟩
  · cases h

end Packed

/-- A run of lower-case forms of characters that are not ASCII has no ASCII characters, but for the two
runs of one character. -/
theorem lower_runs : ∀ i < Tables.lower.size,
    let first := Tables.lower.record i % Nat.pow 2 Tables.lower.keyBits
    let rest := Tables.lower.record i >>> Tables.lower.keyBits
    let last := rest % Nat.pow 2 21
    let image := (rest >>> 21) % Nat.pow 2 21
    last < 128 ∨ first = last ∧ (first = 0x130 ∨ first = 0x212a) ∨
      128 ≤ image ∧ (image + (last - first) < 0xd800 ∨
        0xdfff < image ∧ image + (last - first) < 0x110000) := by
  decide +kernel

private theorem toNat_ofNat {n : Nat} (h : n.isValidChar) : (Char.ofNat n).toNat = n := by
  rw [Char.ofNat, dif_pos h]
  rfl

section
variable {c d : Char} (before after : List Char)

private theorem lower_of_not_ascii (h : 128 ≤ c.toNat) (hkelvin : c ≠ '\u212a') (hdotted : c ≠ 'İ') :
    128 ≤ (lower c).toNat := by
  rw [lower, if_neg (Nat.not_lt.2 h), Packed.step]
  split
  · rename_i first rest hfound
    obtain ⟨i, hi, rfl, rfl, hfirst⟩ := Packed.below?_eq_some hfound
    have hrun := lower_runs i hi
    dsimp only at hrun ⊢
    split
    · rename_i hlast
      obtain ⟨hlast, -⟩ := hlast
      rcases hrun with hascii | ⟨hsingle, hchar⟩ | ⟨himage, hvalid⟩
      · omega
      · -- a run of one character is this character
        have hc : c.toNat = 0x130 ∨ c.toNat = 0x212a := by omega
        rcases hc with hc | hc
        · exact absurd (Char.toNat_inj.1 (hc.trans (show 0x130 = 'İ'.toNat by decide))) hdotted
        · exact absurd (Char.toNat_inj.1 (hc.trans (show 0x212a = '\u212a'.toNat by decide))) hkelvin
      · rw [toNat_ofNat]
        · omega
        · unfold Nat.isValidChar
          omega
    · exact h
  · exact h

/-- What a character comes to in lower case: one of ASCII stays in ASCII, the Kelvin sign gets there,
and any other has a part that does not, with an `i` in front of it at most. -/
inductive Lowered (c : Char) : List Char → Prop where
  | ascii (h : c.toNat < 128) : Lowered c [c.toLower]
  | kelvin (h : c = '\u212a') : Lowered c ['k']
  | foreign {i : List Char} {d : Char} (h : 128 ≤ c.toNat) (other : c ≠ '\u212a') (dot : ∀ b ∈ i, b = 'i')
      (mark : 128 ≤ d.toNat) : Lowered c (i ++ [d])

private theorem lowered (c : Char) : Lowered c (lowerIn before c after) := by
  unfold lowerIn
  split
  · rename_i hsigma
    subst hsigma
    split
    · exact .foreign (i := []) (by decide) (by decide) (by simp) (by decide)
    · exact .foreign (i := []) (by decide) (by decide) (by simp) (by decide)
  split
  · rename_i hdotted
    subst hdotted
    exact .foreign (i := ['i']) (by decide) (by decide) (by simp) (by decide)
  · rename_i hdotted
    rcases Nat.lt_or_ge c.toNat 128 with h | h
    · rw [lower, if_pos h]
      exact .ascii h
    · by_cases hkelvin : c = '\u212a'
      · subst hkelvin
        have hk : lower '\u212a' = 'k' := by decide +kernel
        rw [hk]
        exact .kelvin rfl
      · exact .foreign (i := []) h hkelvin (by simp) (lower_of_not_ascii h hkelvin hdotted)

end

/-- The Kelvin sign written as the letter that it looks like. -/
def plainKelvin (c : Char) : Char := if c = '\u212a' then 'k' else c

section
variable {t : List Char}

def LowersToAscii (t : List Char) : Prop := ∀ c ∈ t, c.toNat < 128 ∨ c = '\u212a'

/-- Texts that lower to ASCII are ASCII with Kelvin signs in it, and those lower to k. -/
theorem lowerAfter_of_lowersToAscii (h : LowersToAscii t) (before : List Char) :
    lowerAfter before t = (t.map plainKelvin).map Char.toLower := by
  induction t generalizing before with
  | nil => rfl
  | cons c t ih =>
    obtain ⟨hc, ht⟩ := List.forall_mem_cons.1 h
    have hlowered := lowered before t c
    rw [lowerAfter, ih ht]
    generalize lowerIn before c t = l at hlowered
    cases hlowered with
    | ascii hascii =>
      have hother : c ≠ '\u212a' := by
        rintro rfl
        exact absurd hascii (by decide)
      simp [plainKelvin, hother]
    | kelvin hkelvin =>
      subst hkelvin
      rfl
    | foreign hforeign other => exact (hc.resolve_left (Nat.not_lt.2 hforeign) |> other).elim

theorem lowersToAscii_of_lowerAfter {before : List Char}
    (h : ∀ d ∈ lowerAfter before t, d.toNat < 128) : LowersToAscii t := by
  induction t generalizing before with
  | nil => simp [LowersToAscii]
  | cons c t ih =>
    obtain ⟨hc, ht⟩ := List.forall_mem_append.1 h
    refine List.forall_mem_cons.2 ⟨?_, ih ht⟩
    have hlowered := lowered before t c
    generalize lowerIn before c t = l at hlowered hc
    cases hlowered with
    | ascii hascii => exact .inl hascii
    | kelvin hkelvin => exact .inr hkelvin
    | foreign _ _ _ mark => exact absurd (hc _ (by simp)) (Nat.not_lt.2 mark)

/-- Lowering neither makes nor removes a mark of ASCII. -/
theorem mem_lowerAfter_iff {d : Char} (hd : d.toNat < 128) (hletter : ¬ d.isAlpha) (before : List Char) :
    d ∈ lowerAfter before t ↔ d ∈ t := by
  induction t generalizing before with
  | nil => rfl
  | cons c t ih =>
    have hlowered := lowered before t c
    rw [lowerAfter, List.mem_append, ih, List.mem_cons]
    refine or_congr ?_ Iff.rfl
    generalize lowerIn before c t = l at hlowered
    cases hlowered with
    | ascii hascii => rw [List.mem_singleton, eq_comm, toLower_eq_iff hletter, eq_comm]
    | kelvin hkelvin =>
      refine iff_of_false ?_ ?_
      · rintro h
        rw [List.mem_singleton.1 h] at hletter
        exact hletter (by decide)
      · rintro rfl
        rw [hkelvin] at hd
        exact absurd hd (by decide)
    | foreign hforeign _ dot mark =>
      refine iff_of_false (fun h => ?_) ?_
      · rcases List.mem_append.1 h with hi | hm
        · rw [dot d hi] at hletter
          exact hletter (by decide)
        · rw [List.mem_singleton.1 hm] at hd
          exact absurd hd (Nat.not_lt.2 mark)
      · rintro rfl
        exact absurd hd (Nat.not_lt.2 hforeign)

end

end FieldRules.Unicode
