import FieldRules.Text
import Mathlib.Data.List.DropRight
import Mathlib.Data.List.TakeWhile

/-! Texts taken apart: at every separator, at the first one, and at the blanks of both ends. -/
namespace FieldRules.Text

theorem isAscii_iff {t : Text} : t.isAscii ↔ ∀ c ∈ t, c.toNat < 128 := by
  simp [isAscii]

/-! ### At every separator -/

private theorem split_ne_nil (sep : Char) (t : Text) : split sep t ≠ [] := List.cons_ne_nil _ _

private theorem split_cons_self (sep : Char) (t : Text) : split sep (sep :: t) = [] :: split sep t := by
  simp [split, pieces]

/-- Another character belongs to the first piece. -/
theorem split_cons_of_ne {sep c : Char} (h : c ≠ sep) (t : Text) :
    ∃ first rest, split sep t = first :: rest ∧ split sep (c :: t) = (c :: first) :: rest :=
  ⟨_, _, rfl, by simp [split, pieces, h]⟩

private theorem split_eq_splitOn (sep : Char) (t : Text) : t.split sep = t.splitOn sep := by
  induction t with
  | nil => rfl
  | cons c t ih =>
    rw [List.splitOn_cons_eq_if_modifyHead, ← ih]
    rcases eq_or_ne c sep with rfl | h
    · simp [split_cons_self]
    · obtain ⟨first, rest, ht, hcons⟩ := split_cons_of_ne h t
      simp [ht, hcons, h]

/-- Joined pieces without the separator are split into these pieces again. -/
theorem split_join {sep : Char} {ts : List Text} (h : ∀ t ∈ ts, sep ∉ t) (hne : ts ≠ []) :
    split sep (join [sep] ts) = ts := by
  rw [split_eq_splitOn, join]
  exact List.splitOn_intercalate sep h hne

/-- Splitting loses nothing. -/
theorem join_split (sep : Char) (t : Text) : join [sep] (t.split sep) = t := by
  rw [split_eq_splitOn, join]
  exact List.intercalate_splitOn sep

theorem split_of_notMem {sep : Char} {t : Text} (h : sep ∉ t) : t.split sep = [t] := by
  have htext : join [sep] [t] = t := List.intercalate_singleton
  have hjoin := split_join (List.forall_mem_singleton.2 h) (List.cons_ne_nil t [])
  rwa [htext] at hjoin

private theorem join_cons {ts : List Text} (hne : ts ≠ []) (sep t : Text) :
    join sep (t :: ts) = t ++ sep ++ join sep ts := by
  obtain ⟨next, ts, rfl⟩ := List.exists_cons_of_ne_nil hne
  rw [join, List.intercalate_cons_cons, join]

theorem join_append {ts us : List Text} (hts : ts ≠ []) (hus : us ≠ []) (sep : Text) :
    join sep (ts ++ us) = join sep ts ++ sep ++ join sep us := by
  induction ts with
  | nil => contradiction
  | cons t ts ih =>
    cases ts with
    | nil => rw [List.singleton_append, join_cons hus, join, join, List.intercalate_singleton]
    | cons next ts =>
      have hrest : next :: ts ≠ [] := List.cons_ne_nil next ts
      rw [List.cons_append, join_cons (by simp), ih hrest, join_cons hrest]
      simp only [List.append_assoc]

theorem join_concat {ts : List Text} (hne : ts ≠ []) (sep last : Text) :
    join sep (ts ++ [last]) = join sep ts ++ sep ++ last := by
  rw [join_append hne (List.cons_ne_nil last []), join, join, List.intercalate_singleton]

theorem mem_join {sep c : Char} {ts : List Text} (h : c ∈ join [sep] ts) :
    c = sep ∨ ∃ t ∈ ts, c ∈ t := by
  induction ts with
  | nil => cases h
  | cons t ts ih =>
    cases ts with
    | nil => exact .inr ⟨t, List.mem_cons_self, by simpa [join] using h⟩
    | cons next ts =>
      rw [join_cons (List.cons_ne_nil next ts), List.append_assoc, List.mem_append,
        List.singleton_append, List.mem_cons] at h
      rcases h with h | rfl | h
      · exact .inr ⟨t, List.mem_cons_self, h⟩
      · exact .inl rfl
      · refine (ih h).imp_right ?_
        rintro ⟨u, hu, hc⟩
        exact ⟨u, List.mem_cons_of_mem _ hu, hc⟩

/-- The pieces hold every character but the separator. -/
theorem mem_split {sep c : Char} {t : Text} :
    (∃ piece ∈ t.split sep, c ∈ piece) ↔ c ∈ t ∧ c ≠ sep := by
  induction t with
  | nil => simp [split, pieces]
  | cons d t ih =>
    rcases eq_or_ne d sep with rfl | hd
    · rw [split_cons_self, List.exists_mem_cons_iff, ih]
      grind
    · obtain ⟨first, rest, ht, hcons⟩ := split_cons_of_ne hd t
      rw [ht, List.exists_mem_cons_iff] at ih
      rw [hcons, List.exists_mem_cons_iff, List.mem_cons, or_assoc, ih]
      grind

theorem notMem_of_mem_split {sep : Char} {t piece : Text} (h : piece ∈ t.split sep) :
    sep ∉ piece := fun hm => (mem_split.1 ⟨piece, h, hm⟩).2 rfl

/-- A separator ends the pieces before it and begins those behind it. -/
theorem split_append (sep : Char) (t u : Text) :
    split sep (t ++ sep :: u) = split sep t ++ split sep u := by
  induction t with
  | nil => exact split_cons_self sep u
  | cons c t ih =>
    rcases eq_or_ne c sep with rfl | h
    · rw [List.cons_append, split_cons_self, ih, split_cons_self, List.cons_append]
    · obtain ⟨first, rest, ht, hcons⟩ := split_cons_of_ne h t
      obtain ⟨first', rest', hboth, hconsBoth⟩ := split_cons_of_ne h (t ++ sep :: u)
      rw [hboth, ht] at ih
      obtain ⟨rfl, rfl⟩ := List.cons.inj ih
      rw [List.cons_append, hconsBoth, hcons]
      rfl

/-- The pieces are the texts without a separator that have one on either side, if one is put before
the whole and one after it. -/
theorem mem_split_iff_infix {sep : Char} {t piece : Text} :
    piece ∈ t.split sep ↔
      sep ∉ piece ∧ sep :: (piece ++ [sep]) <:+: sep :: (t ++ [sep]) := by
  have hends : split sep (sep :: (t ++ [sep])) = [] :: (t.split sep ++ [[]]) := by
    rw [split_cons_self, split_append]
    rfl
  constructor
  · intro h
    refine ⟨notMem_of_mem_split h, ?_⟩
    obtain ⟨before, after, hpieces⟩ := List.append_of_mem h
    have hjoin : sep :: (t ++ [sep]) = join [sep] ([] :: before) ++ [sep] ++
        (piece ++ [sep] ++ join [sep] (after ++ [[]])) := by
      rw [← join_split sep (sep :: (t ++ [sep])), hends, hpieces, ← join_cons (by simp),
        ← join_append (by simp) (by simp), List.cons_append, List.append_assoc, List.cons_append]
    rw [hjoin]
    exact ⟨join [sep] ([] :: before), join [sep] (after ++ [[]]), by simp⟩
  · rintro ⟨hpiece, before, after, htext⟩
    have hsplit : split sep before ++ piece :: split sep after = [] :: (t.split sep ++ [[]]) := by
      rw [← hends, ← htext, List.append_assoc, List.cons_append, List.append_assoc,
        List.singleton_append, split_append, split_append, split_of_notMem hpiece,
        List.singleton_append]
    -- The empty pieces at both ends are not those of the list, so the piece is one in between.
    obtain ⟨front, rest, hfront⟩ := List.exists_cons_of_ne_nil (split_ne_nil sep before)
    obtain ⟨init, last, hback⟩ :=
      (List.eq_nil_or_concat (split sep after)).resolve_left (split_ne_nil sep after)
    rw [hfront, hback, List.concat_eq_append, List.cons_append] at hsplit
    have hmiddle : (rest ++ piece :: init) ++ [last] = t.split sep ++ [[]] := by
      rw [List.append_assoc, List.cons_append]
      exact (List.cons.inj hsplit).2
    rw [← (List.append_inj' hmiddle rfl).1]
    exact List.mem_append_right rest List.mem_cons_self

/-- Characters may be replaced before a text is taken apart or after, if this makes no separators
and loses none. -/
theorem split_map {sep : Char} {f : Char → Char} {t : Text} (h : ∀ c ∈ t, f c = sep ↔ c = sep) :
    split sep (t.map f) = (t.split sep).map (List.map f) := by
  induction t with
  | nil => rfl
  | cons c t ih =>
    have hc := h c List.mem_cons_self
    have ih := ih fun d hd => h d (List.mem_cons_of_mem _ hd)
    rcases eq_or_ne c sep with rfl | hs
    · rw [List.map_cons, hc.2 rfl, split_cons_self, split_cons_self, ih]
      rfl
    · obtain ⟨first, rest, ht, hcons⟩ := split_cons_of_ne hs t
      obtain ⟨first', rest', hmap, hconsMap⟩ := split_cons_of_ne (mt hc.1 hs) (t.map f)
      rw [hmap, ht] at ih
      obtain ⟨rfl, rfl⟩ := List.cons.inj ih
      rw [List.map_cons, hconsMap, hcons]
      rfl

/-! ### At the first character of a kind -/

/-- A text is cut in two where a condition ends to hold. -/
theorem takeWhile_dropWhile_iff {p : Char → Bool} {t before after : Text} :
    t.takeWhile p = before ∧ t.dropWhile p = after ↔
      t = before ++ after ∧ (∀ c ∈ before, p c) ∧ ∀ c ∈ after.head?, ¬ p c := by
  constructor
  · rintro ⟨rfl, rfl⟩
    refine ⟨List.takeWhile_append_dropWhile.symm, fun c hc => List.mem_takeWhile_imp hc, ?_⟩
    intro c hc
    have := List.head?_dropWhile_not p t
    rw [Option.mem_def.1 hc] at this
    simpa using this
  · rintro ⟨rfl, hb, ha⟩
    rw [List.takeWhile_append_of_pos hb, List.dropWhile_append_of_pos hb]
    cases after with
    | nil => simp
    | cons c after =>
      have hc := ha c rfl
      simp [hc]

theorem cut_append {sep : Char} {before : Text} (h : sep ∉ before) (after : Text) :
    cut sep (before ++ sep :: after) = (before, some after) := by
  have hbefore : ∀ c ∈ before, decide (c ≠ sep) := fun c hc => by
    simpa using ne_of_mem_of_not_mem hc h
  rw [cut, List.takeWhile_append_of_pos hbefore, List.dropWhile_append_of_pos hbefore,
    List.takeWhile_cons_of_neg (by simp), List.dropWhile_cons_of_neg (by simp), List.append_nil]

theorem cut_of_notMem {sep : Char} {t : Text} (h : sep ∉ t) : cut sep t = (t, none) := by
  have ht : ∀ c ∈ t, decide (c ≠ sep) := fun c hc => by simpa using ne_of_mem_of_not_mem hc h
  rw [cut, List.takeWhile_eq_self_iff.2 ht, List.dropWhile_eq_nil_iff.2 ht]

/-! ### At the ends -/

section
variable {p : Char → Bool} {t : Text}

private theorem dropWhile_rdropWhile (ht : ∀ c ∈ t.head?, ¬ p c) :
    (t.rdropWhile p).dropWhile p = t.rdropWhile p := by
  cases hr : t.rdropWhile p with
  | nil => rfl
  | cons c rest =>
    obtain ⟨after, hafter⟩ := hr ▸ List.rdropWhile_prefix p (l := t)
    exact List.dropWhile_cons_of_neg (ht c (by simp [← hafter]))

private theorem strip_strip (p : Char → Bool) (t : Text) : (t.strip p).strip p = t.strip p := by
  have hhead := (takeWhile_dropWhile_iff.1 ⟨rfl, rfl⟩ : t = t.takeWhile p ++ t.dropWhile p ∧ _).2.2
  change ((((t.dropWhile p).rdropWhile p)).dropWhile p).rdropWhile p = _
  rw [dropWhile_rdropWhile hhead, List.rdropWhile_idempotent]
  rfl

theorem strip_eq_nil_iff : t.strip p = [] ↔ ∀ c ∈ t, p c := by
  change (t.dropWhile p).rdropWhile p = [] ↔ _
  rw [List.rdropWhile_eq_nil_iff, ← List.dropWhile_eq_nil_iff, ← List.dropWhile_eq_nil_iff,
    List.dropWhile_idempotent]

theorem mem_of_mem_strip {c : Char} (h : c ∈ t.strip p) : c ∈ t :=
  (List.dropWhile_suffix p).subset ((List.rdropWhile_prefix p _).subset h)

/-- What is stripped stood at the ends. -/
theorem exists_strip (p : Char → Bool) (t : Text) :
    ∃ before after, t = before ++ (t.strip p ++ after) ∧ ∀ c ∈ before ++ after, p c := by
  refine ⟨t.takeWhile p, (t.dropWhile p).rtakeWhile p, ?_, ?_⟩
  · change t = _ ++ ((t.dropWhile p).rdropWhile p ++ _)
    rw [List.rdropWhile_append_rtakeWhile, List.takeWhile_append_dropWhile]
  · exact List.forall_mem_append.2
      ⟨fun c hc => List.mem_takeWhile_imp hc, fun c hc => List.mem_rtakeWhile_imp hc⟩

/-- What was put around a text that has none of its own is what strip takes off. -/
theorem strip_append {before after : Text} (h : ∀ c ∈ before ++ after, p c) (ht : ∀ c ∈ t, ¬ p c) :
    (before ++ (t ++ after)).strip p = t := by
  obtain ⟨hbefore, hafter⟩ := List.forall_mem_append.1 h
  have hback : ∀ c ∈ after.reverse, p c := fun c hc => hafter c (List.mem_reverse.1 hc)
  rw [strip, List.dropWhile_append_of_pos hbefore]
  cases t with
  | nil => simp [List.dropWhile_eq_nil_iff.2 hafter]
  | cons c t =>
    rw [List.cons_append, List.dropWhile_cons_of_neg (ht c List.mem_cons_self), ← List.cons_append,
      List.reverse_append, List.dropWhile_append_of_pos hback, List.dropWhile_eq_self_iff.2,
      List.reverse_reverse]
    exact fun hlen => ht _ (List.mem_reverse.1 (List.getElem_mem hlen))

/-- A character that is not stripped stays. -/
theorem mem_strip {c : Char} (h : c ∈ t) (hc : ¬ p c) : c ∈ t.strip p := by
  have hstays : ∀ {t : Text}, c ∈ t → c ∈ t.dropWhile p := by
    intro t ht
    rw [← List.takeWhile_append_dropWhile (p := p) (l := t)] at ht
    exact (List.mem_append.1 ht).resolve_left fun htake => hc (List.mem_takeWhile_imp htake)
  exact List.mem_reverse.2 (hstays (List.mem_reverse.2 (hstays h)))

/-- Without some characters at its ends a text has none of fewer at its ends. -/
theorem strip_strip_of_imp {q : Char → Bool} (h : ∀ c, q c → p c) :
    (t.strip p).strip q = t.strip p := by
  have hhead := (takeWhile_dropWhile_iff.1 ⟨rfl, rfl⟩ : t = t.takeWhile p ++ t.dropWhile p ∧ _).2.2
  have hfront := List.dropWhile_eq_self_iff.1 (dropWhile_rdropWhile hhead)
  have hback := List.rdropWhile_eq_self_iff.1 (List.rdropWhile_idempotent p (t.dropWhile p))
  change (((t.dropWhile p).rdropWhile p).dropWhile q).rdropWhile q = (t.dropWhile p).rdropWhile p
  rw [List.dropWhile_eq_self_iff.2 fun hl hq => hfront hl (h _ hq),
    List.rdropWhile_eq_self_iff.2 fun hne hq => hback hne (h _ hq)]

private theorem dropWhile_congr {q : Char → Bool} (h : ∀ c ∈ t, p c = q c) :
    t.dropWhile p = t.dropWhile q := by
  induction t with
  | nil => rfl
  | cons c t ih =>
    obtain ⟨hc, ht⟩ := List.forall_mem_cons.1 h
    rw [List.dropWhile_cons, List.dropWhile_cons, hc, ih ht]

theorem strip_congr {q : Char → Bool} (h : ∀ c ∈ t, p c = q c) : t.strip p = t.strip q := by
  have hrest : ∀ c ∈ (t.dropWhile q).reverse, p c = q c :=
    fun c hc => h c ((List.dropWhile_suffix q).subset (List.mem_reverse.1 hc))
  rw [strip, strip, dropWhile_congr h, dropWhile_congr hrest]

end

theorem trim_eq_self {t : Text} (h : ∀ c ∈ t, ¬ Unicode.isBlank c) : t.trim = t := by
  change (t.dropWhile Unicode.isBlank).rdropWhile Unicode.isBlank = t
  rw [List.dropWhile_eq_self_iff.2, List.rdropWhile_eq_self_iff.2]
  · exact fun hne => h _ (List.getLast_mem hne)
  · exact fun hlen => h _ (List.getElem_mem hlen)

/-- Trimming is idempotent. -/
theorem trim_trim (t : Text) : t.trim.trim = t.trim := strip_strip _ t

end FieldRules.Text
