import FieldRules.Regex.Bracket
import FieldRules.Regex.Group

/-! Readers of the parts of a pattern: escapes, sets, and what opens a group. Each takes its part off
the front of the tokens or finds them malformed; none breaks off. -/
namespace FieldRules.Regex
variable {α β : Type}

/-- What a reader comes to: a part and the tokens behind it, or that there is no such part. -/
inductive Reads (ts : List Token) : Except Refusal (α × List Token) → Prop where
  | part (a : α) {rest : List Token} (left : rest <:+ ts) : Reads ts (.ok (a, rest))
  | malformed : Reads ts (.error .malformed)

namespace Reads
variable {ts rest : List Token} {x : Except Refusal (α × List Token)}

private theorem of_suffix (h : Reads rest x) (left : rest <:+ ts) : Reads ts x := by
  cases h with
  | part a behind => exact .part a (behind.trans left)
  | malformed => exact .malformed

/-- One reader after another. -/
theorem bind {f : α × List Token → Except Refusal (β × List Token)} (h : Reads ts x)
    (hf : ∀ a rest, Reads rest (f (a, rest))) : Reads ts (x >>= f) := by
  cases h with
  | part a left => exact (hf a _).of_suffix left
  | malformed => exact .malformed

/-- A part that is made of what was read. -/
theorem map (g : α → β) (h : Reads ts x) : Reads ts (x >>= fun p => pure (g p.1, p.2)) :=
  h.bind fun a _ => .part (g a) List.suffix_rfl

private theorem exists_of_map {g : α → β} {b : β}
    (h : (x >>= fun p => pure (g p.1, p.2) : Except Refusal (β × List Token)) = .ok (b, rest)) :
    ∃ a, b = g a := by
  cases x with
  | error e => cases h
  | ok p =>
    cases h
    exact ⟨p.1, rfl⟩

theorem left {a : α} (h : Reads ts x) (hx : x = .ok (a, rest)) : rest <:+ ts := by
  subst hx
  cases h with
  | part _ left => exact left

end Reads

namespace Token

private theorem digits_left (base n : Nat) (ts : List Token) : (digits base n ts).2 <:+ ts := by
  induction n generalizing ts with
  | zero => exact List.suffix_rfl
  | succ n ih =>
    cases ts with
    | nil => exact List.suffix_rfl
    | cons t ts =>
      rw [digits]
      cases t.digit? base with
      | none => exact List.suffix_rfl
      | some d => exact (ih ts).trans (List.suffix_cons t ts)

private theorem upTo_left {stop : Char} {ts rest : List Token} {t : Text}
    (h : upTo stop ts = some (t, rest)) : rest <:+ ts := by
  induction ts generalizing t with
  | nil => cases h
  | cons u ts ih =>
    rw [upTo] at h
    split at h
    · cases h
      exact List.suffix_cons _ _
    · obtain ⟨⟨t', rest'⟩, hfound, hpair⟩ := Option.map_eq_some_iff.1 h
      cases hpair
      exact (ih hfound).trans (List.suffix_cons u ts)

end Token

namespace Escape

private theorem hexadecimal_reads (n : Nat) (ts : List Token) : Reads ts (hexadecimal n ts) := by
  unfold hexadecimal
  split
  rename_i ds rest hdigits
  have left := Token.digits_left 16 n ts
  rw [hdigits] at left
  split
  · exact .part _ left
  · exact .malformed

private theorem octal_reads (ds : List Nat) (rest : List Token) : Reads rest (octal ds rest) := by
  unfold octal
  split
  · exact .part _ List.suffix_rfl
  · exact .malformed

private theorem named_reads (ts : List Token) : Reads ts (named ts) := by
  unfold named
  split
  · rename_i ts
    split
    · rename_i name rest hname
      split
      · exact .part _ ((Token.upTo_left hname).trans (List.suffix_cons _ ts))
      · exact .malformed
    · exact .malformed
  · exact .malformed

private theorem code_reads (c : Char) (ts : List Token) : Reads ts (code c ts) := by
  unfold code
  split
  · exact .part _ List.suffix_rfl
  split
  · exact hexadecimal_reads 2 ts
  split
  · exact hexadecimal_reads 4 ts
  split
  · exact hexadecimal_reads 8 ts
  split
  · exact named_reads ts
  split
  · exact .malformed
  · exact .part _ List.suffix_rfl

/-- Digits behind a backslash are taken from the tokens behind the first of them. -/
theorem digits_cons_left {base n : Nat} {c : Char} {ts rest : List Token} {ds : List Nat}
    (h : Token.digits base (n + 1) (.plain c :: ts) = (ds, rest)) (hne : ds ≠ []) : rest <:+ ts := by
  rw [Token.digits] at h
  split at h
  · cases h
    exact Token.digits_left base n ts
  · cases h
    exact absurd rfl hne

private theorem octal_digits_reads (c : Char) (ts : List Token) :
    Reads ts (octal (Token.digits 8 3 (.plain c :: ts)).1 (Token.digits 8 3 (.plain c :: ts)).2) := by
  by_cases hne : (Token.digits 8 3 (.plain c :: ts)).1 = []
  · simp only [octal, hne, ne_eq, not_true_eq_false, false_and, if_false]
    exact .malformed
  · exact (octal_reads _ _).of_suffix (digits_cons_left rfl hne)

private theorem inSet_reads (c : Char) (ts : List Token) : Reads ts (inSet c ts) := by
  unfold inSet
  split
  · exact .part _ List.suffix_rfl
  · dsimp only
    split
    · exact .part _ List.suffix_rfl
    split
    · exact (octal_digits_reads c ts).map SetItem.code
    · exact (code_reads c ts).map SetItem.code

theorem read_reads (c : Char) (ts : List Token) : Reads ts (read c ts) := by
  unfold read
  split
  · exact .part _ List.suffix_rfl
  · exact .part _ List.suffix_rfl
  · split
    rename_i ds rest hdigits
    have hoctal := octal_digits_reads c ts
    rw [hdigits] at hoctal
    split
    · exact hoctal.map fun n => Escape.single (.code n false)
    split
    · rename_i hdigit
      split
      rename_i es rest' hdecimal
      refine .part _ (digits_cons_left hdecimal ?_)
      have hvalue : (Token.plain c).digit? 10 = some (c.toNat - '0'.toNat) := by
        have hsmall : c.toNat - '0'.toNat < 10 := by
          have : c.toNat ≤ 57 := (of_decide_eq_true (Bool.and_eq_true_iff.1 hdigit).2)
          simp only [Char.reduceToNat]
          omega
        simp only [Token.digit?, hdigit, if_true]
        exact if_pos hsmall
      rw [Token.digits, hvalue] at hdecimal
      cases hdecimal
      simp
    · exact (code_reads c ts).map fun n => Escape.single (.code n false)

end Escape

namespace SetItem

private theorem read_reads (ts : List Token) : Reads ts (read ts) := by
  unfold read
  split
  · exact .part _ (List.suffix_cons _ _)
  · exact (Escape.inSet_reads _ _).of_suffix (List.suffix_cons _ _)
  · exact .malformed

private theorem between_cases (low high : SetItem) :
    (∃ item, between low high = .ok item) ∨ between low high = .error .malformed := by
  unfold between
  split
  · split
    · exact .inl ⟨_, rfl⟩
    · exact .inr rfl
  · exact .inr rfl

private theorem readAll_reads (room : Nat) (seen : List SetItem) (ts : List Token) :
    Reads ts (readAll room seen ts) := by
  induction room generalizing seen ts with
  | zero => exact .malformed
  | succ room ih =>
    unfold readAll
    split
    · exact .part _ (List.tail_suffix ts)
    · refine Reads.bind (read_reads ts) fun item rest => ?_
      dsimp only
      split
      · rename_i rest
        exact .part _ ((List.suffix_cons _ rest).trans (List.suffix_cons _ _))
      · rename_i rest _
        refine Reads.of_suffix ?_ (List.suffix_cons _ rest)
        refine Reads.bind (read_reads rest) fun high rest => ?_
        dsimp only
        rcases between_cases item high with ⟨range, hrange⟩ | hrange
        · simp only [hrange]
          exact ih (range :: seen) rest
        · simp only [hrange]
          exact .malformed
      · exact ih (item :: seen) rest

end SetItem

theorem Single.readBracket_reads (ts : List Token) : Reads ts (readBracket ts) := by
  have left : (if ts.head? = some (.plain '^') then ts.tail else ts) <:+ ts := by
    split
    · exact List.tail_suffix ts
    · exact List.suffix_rfl
  unfold readBracket
  refine Reads.bind ((SetItem.readAll_reads _ [] _).of_suffix left) fun items rest => ?_
  dsimp only
  split <;> exact .part _ List.suffix_rfl

private theorem Flags.eq_of_ascii {c : Char} {f : Flags} (hc : ofLetter? c = some f) (hf : f.ascii) :
    c = 'a' := by
  unfold ofLetter? at hc
  split at hc <;> cases hc <;> first | rfl | cases hf

private theorem Flags.eq_of_unicode {c : Char} {f : Flags} (hc : ofLetter? c = some f) (hf : f.unicode) :
    c = 'u' := by
  unfold ofLetter? at hc
  split at hc <;> cases hc <;> first | rfl | cases hf

namespace Group

structure Gathered (f : Flags) (ts : List Token) (g : Flags) (rest : List Token) : Prop where
  left : rest <:+ ts
  ascii : g.ascii → f.ascii ∨ .plain 'a' ∈ ts
  unicode : g.unicode → f.unicode ∨ .plain 'u' ∈ ts

private theorem Gathered.cons {f g h : Flags} {c : Char} {ts rest : List Token}
    (hc : Flags.ofLetter? c = some h) (hg : Gathered (f.union h) ts g rest) :
    Gathered f (.plain c :: ts) g rest where
  left := hg.left.trans (List.suffix_cons _ ts)
  ascii hascii := by
    rcases hg.ascii hascii with hunion | hmem
    · rcases Bool.or_eq_true_iff.1 hunion with hf | hletter
      · exact .inl hf
      · exact .inr (Flags.eq_of_ascii hc hletter ▸ List.mem_cons_self)
    · exact .inr (List.mem_cons_of_mem _ hmem)
  unicode hunicode := by
    rcases hg.unicode hunicode with hunion | hmem
    · rcases Bool.or_eq_true_iff.1 hunion with hf | hletter
      · exact .inl hf
      · exact .inr (Flags.eq_of_unicode hc hletter ▸ List.mem_cons_self)
    · exact .inr (List.mem_cons_of_mem _ hmem)

private theorem flagsOn_cases (f : Flags) (ts : List Token) :
    (∃ g c rest, flagsOn f ts = .ok (g, c, rest) ∧ Gathered f ts g rest) ∨
      flagsOn f ts = .error .malformed := by
  fun_induction flagsOn f ts with
  | case1 f c ts hstop => exact .inl ⟨f, c, ts, rfl, List.suffix_cons _ ts, .inl, .inl⟩
  | case2 => exact .inr rfl
  | case3 f c ts _ g hletter _ ih =>
    rcases ih with ⟨g', c', rest, hread, hgathered⟩ | hread
    · exact .inl ⟨g', c', rest, hread, hgathered.cons hletter⟩
    · exact .inr hread
  | case4 => exact .inr rfl
  | case5 => exact .inr rfl

private theorem flagsOff_reads (f : Flags) (ts : List Token) : Reads ts (flagsOff f ts) := by
  fun_induction flagsOff f ts with
  | case1 => exact .malformed
  | case2 f ts hne => exact .part f (List.suffix_cons _ ts)
  | case3 => exact .malformed
  | case4 f c ts _ g _ _ ih => exact ih.of_suffix (List.suffix_cons _ ts)
  | case5 => exact .malformed
  | case6 => exact .malformed

private theorem flaggedGroup_cases (on off : Flags) :
    flaggedGroup on off = .ok (.flagged on off) ∨ flaggedGroup on off = .error .malformed := by
  unfold flaggedGroup
  split
  · exact .inr rfl
  · exact .inl rfl

/-- What stands for flags, for the whole pattern or for a group. -/
theorem readFlags_cases (ts : List Token) :
    (∃ g rest, readFlags ts = .ok (.settings g, rest) ∧ Gathered {} ts g rest) ∨
      (∃ on off rest, readFlags ts = .ok (.flagged on off, rest) ∧ rest <:+ ts) ∨
      readFlags ts = .error .malformed := by
  rcases flagsOn_cases {} ts with ⟨on, c, rest, hread, hgathered⟩ | hread
  · simp only [readFlags, hread, bind, Except.bind, pure, Except.pure]
    split
    · exact .inl ⟨on, rest, rfl, hgathered⟩
    split
    · rcases flaggedGroup_cases on {} with hgroup | hgroup <;> rw [hgroup]
      · exact .inr (.inl ⟨on, {}, rest, rfl, hgathered.left⟩)
      · exact .inr (.inr rfl)
    · have hoff := flagsOff_reads {} rest
      cases hread' : flagsOff {} rest with
      | error e =>
        rw [hread'] at hoff
        cases hoff
        exact .inr (.inr rfl)
      | ok found =>
        obtain ⟨off, rest'⟩ := found
        have left := (hoff.left hread').trans hgathered.left
        dsimp only
        rcases flaggedGroup_cases on off with hgroup | hgroup <;> rw [hgroup]
        · exact .inr (.inl ⟨on, off, rest', rfl, left⟩)
        · exact .inr (.inr rfl)
  · exact .inr (.inr (by rw [readFlags, hread]; rfl))

private theorem readName_reads (stop : Char) (ts : List Token) : Reads ts (readName stop ts) := by
  unfold readName
  split
  · rename_i found hfound
    exact .part found.1 (Token.upTo_left hfound)
  · exact .malformed

private theorem readIdentifier_reads (stop : Char) (ts : List Token) :
    Reads ts (readIdentifier stop ts) := by
  refine Reads.bind (readName_reads stop ts) fun name rest => ?_
  dsimp only
  split
  · exact .part name List.suffix_rfl
  · exact .malformed

private theorem readFlags_reads (ts : List Token) : Reads ts (readFlags ts) := by
  rcases readFlags_cases ts with ⟨g, rest, h, hg⟩ | ⟨on, off, rest, h, left⟩ | h <;> rw [h]
  · exact .part _ hg.left
  · exact .part _ left
  · exact .malformed

/-- Reading consumes from the front and never gives back more than it was given. -/
theorem read_reads (ts : List Token) : Reads ts (read ts) := by
  unfold read
  split
  · rename_i ts
    refine Reads.of_suffix ?_ (List.suffix_cons _ ts)
    split
    · exact ((readIdentifier_reads _ _).map fun name => Group.capture (some name)).of_suffix
        (List.suffix_append [_, _] _)
    · exact ((readIdentifier_reads _ _).map Group.reference).of_suffix (List.suffix_append [_, _] _)
    · exact .part _ (List.suffix_cons _ _)
    · exact ((readName_reads _ _).map fun _ => Group.comment).of_suffix (List.suffix_cons _ _)
    · exact .part _ (List.suffix_cons _ _)
    · exact .part _ (List.suffix_cons _ _)
    · exact .part _ (List.suffix_append [_, _] _)
    · exact .part _ (List.suffix_append [_, _] _)
    · exact ((readName_reads _ _).map Group.conditional).of_suffix (List.suffix_cons _ _)
    · exact .part _ (List.suffix_cons _ _)
    · exact .malformed
    · exact readFlags_reads ts
  · exact .part _ List.suffix_rfl

/-- Flags for the whole pattern are letters behind a question mark. -/
theorem gathered_of_read {ts rest : List Token} {g : Flags} (h : read ts = .ok (.settings g, rest)) :
    ∃ ts', ts = .plain '?' :: ts' ∧ Gathered {} ts' g rest := by
  unfold read at h
  split at h
  · rename_i ts'
    refine ⟨ts', rfl, ?_⟩
    split at h
    case h_12 =>
      rcases readFlags_cases ts' with ⟨g', rest', h', hg⟩ | ⟨on, off, rest', h', -⟩ | h' <;>
        rw [h'] at h <;> cases h
      exact hg
    case h_1 =>
      obtain ⟨name, hname⟩ := Reads.exists_of_map (g := fun name => Group.capture (some name)) h
      cases hname
    case h_2 =>
      obtain ⟨name, hname⟩ := Reads.exists_of_map (g := Group.reference) h
      cases hname
    case h_4 =>
      obtain ⟨name, hname⟩ := Reads.exists_of_map (g := fun _ => Group.comment) h
      cases hname
    case h_9 =>
      obtain ⟨name, hname⟩ := Reads.exists_of_map (g := Group.conditional) h
      cases hname
    all_goals cases h
  · cases h

end Group
end FieldRules.Regex
