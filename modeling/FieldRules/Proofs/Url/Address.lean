import FieldRules.Proofs.Url.Host

/-! The grammar of literal addresses: groups of hexadecimal digits, the gap that stands for groups of
zeros, and addresses of a version to come. -/
namespace FieldRules.Url.Address

structure Octet (t : Text) : Prop where
  digits : ∀ c ∈ t, c.isDigit
  given : t ≠ []
  length : t.length ≤ 3
  front : t.head? = some '0' → t = ['0']
  value : Nat.ofDigitChars 10 t 0 ≤ 255

def Quad (t : Text) : Prop :=
  ∃ octets : List Text, octets.length = 4 ∧ (∀ o ∈ octets, Octet o) ∧ t = Text.join ['.'] octets

structure Group (t : Text) : Prop where
  digits : ∀ c ∈ t, isHexadecimal c
  given : t ≠ []
  length : t.length ≤ 4

/-- Groups, and their number. The last part may be four octets, which count as two groups. -/
inductive Groups : List Text → Nat → Prop where
  | plain {parts : List Text} (groups : ∀ g ∈ parts, Group g) : Groups parts parts.length
  | dotted {parts : List Text} {last : Text} (groups : ∀ g ∈ parts, Group g) (octets : Quad last) :
      Groups (parts ++ [last]) (parts.length + 2)

/-- Eight groups with colons between them, or seven at most with a gap of two colons before, between
or behind them. -/
inductive Whole : Text → Prop where
  | full {parts : List Text} (groups : Groups parts 8) : Whole (Text.join [':'] parts)
  | gap {front back : List Text} {n : Nat} (groups : ∀ g ∈ front, Group g) (others : Groups back n)
      (room : front.length + n ≤ 7) :
      Whole (Text.join [':'] front ++ ':' :: ':' :: Text.join [':'] back)

inductive SixteenByte : Text → Prop where
  | plain {t : Text} (address : Whole t) : SixteenByte t
  | zoned {t zone : Text} (address : Whole t) (given : zone ≠ []) (percent : '%' ∉ zone) :
      SixteenByte (t ++ '%' :: zone)

inductive Future : Text → Prop where
  | mk {version rest : Text} (digits : ∀ c ∈ version, isHexadecimal c) (given : version ≠ [])
      (content : rest ≠ []) : Future ('v' :: (version ++ '.' :: rest))

/-! ### Parts -/

private theorem isOctet_iff (t : Text) : isOctet t ↔ Octet t := by
  cases t with
  | nil => exact iff_of_false (by simp [isOctet]) fun h => h.given rfl
  | cons c rest =>
    have hvalue (h : ∀ d ∈ c :: rest, d.isDigit) :
        Decimal.value ((c :: rest).filterMap Unicode.digit?) = Nat.ofDigitChars 10 (c :: rest) 0 :=
      Found.numberOf_eq h
    have hfront : (c != '0' || rest.isEmpty) ↔ ((c :: rest).head? = some '0' → c :: rest = ['0']) := by
      by_cases hc : c = '0' <;> simp [hc]
    simp only [isOctet, Bool.and_eq_true, hfront, List.all_eq_true, decide_eq_true_eq]
    constructor
    · rintro ⟨⟨⟨digits, length⟩, front⟩, value⟩
      exact ⟨digits, List.cons_ne_nil _ _, length, front, hvalue digits ▸ value⟩
    · rintro ⟨digits, -, length, front, value⟩
      exact ⟨⟨⟨digits, length⟩, front⟩, hvalue digits ▸ value⟩

private theorem Octet.notMem {t : Text} (h : Octet t) {c : Char} (hc : ¬ c.isDigit) : c ∉ t :=
  fun hm => hc (h.digits c hm)

private theorem isDotted_iff (t : Text) : isDotted t ↔ Quad t := by
  simp only [isDotted, Bool.and_eq_true, beq_iff_eq, List.all_eq_true, isOctet_iff]
  constructor
  · rintro ⟨hlength, hoctets⟩
    exact ⟨t.split '.', hlength, hoctets, (Text.join_split '.' t).symm⟩
  · rintro ⟨octets, hlength, hoctets, rfl⟩
    have hne : octets ≠ [] := by
      rintro rfl
      cases hlength
    rw [Text.split_join (fun o ho => (hoctets o ho).notMem (by decide)) hne]
    exact ⟨hlength, hoctets⟩

private theorem isGroup_iff (t : Text) : isGroup t ↔ Group t := by
  simp only [isGroup, Bool.and_eq_true, List.all_eq_true, decide_eq_true_eq, Bool.not_eq_true',
    List.isEmpty_eq_false_iff]
  exact ⟨fun ⟨⟨digits, length⟩, given⟩ => ⟨digits, given, length⟩,
    fun ⟨digits, given, length⟩ => ⟨⟨digits, length⟩, given⟩⟩

/-! ### The gap -/

/-- Nothing at an end of an address stands as one empty part. -/
def edge (parts : List Text) : List Text := if parts = [] then [[]] else parts

def inside (parts : List Text) : List Text := if parts == [[]] then [] else parts

section
variable {parts front back : List Text}

private theorem edge_ne_nil (parts : List Text) : edge parts ≠ [] := by
  unfold edge
  split
  · simp
  · assumption

private theorem edge_inside (h : parts ≠ []) : edge (inside parts) = parts := by
  unfold inside
  split
  · rename_i hempty
    rw [beq_iff_eq.1 hempty]
    rfl
  · exact if_neg h

private theorem inside_edge (h : ∀ g ∈ parts, Group g) : inside (edge parts) = parts := by
  have hne : parts ≠ [[]] := by
    rintro rfl
    exact (h [] List.mem_cons_self).given rfl
  unfold edge
  split
  · rename_i hnil
    rw [hnil]
    rfl
  · exact if_neg (by simpa using hne)

private theorem idxOf?_gap (hfront : ∀ g ∈ front, Group g) :
    ((edge front ++ [] :: edge back).tail.dropLast).idxOf? [] = some (edge front).tail.length := by
  have hinner : (edge front ++ [] :: edge back).tail.dropLast =
      (edge front).tail ++ [] :: (edge back).dropLast := by
    rw [List.tail_append_of_ne_nil (edge_ne_nil front), List.dropLast_append_cons,
      List.dropLast_cons_of_ne_nil (edge_ne_nil back)]
  rw [hinner, List.idxOf?_eq_some_iff]
  refine ⟨by simp, by simp, fun j hj => ?_⟩
  rw [List.getElem_append_left hj]
  intro hempty
  have hmem : [] ∈ (edge front).tail := hempty ▸ List.getElem_mem hj
  have hgroup : [] ∈ front := by
    unfold edge at hmem
    split at hmem
    · cases hmem
    · exact List.mem_of_mem_tail hmem
  exact (hfront [] hgroup).given rfl

/-- Parts with an empty one inside are two ends with this gap between them. -/
theorem eq_edges_of_idxOf? {i : Nat} (hi : (parts.tail.dropLast).idxOf? [] = some i) :
    parts = edge (inside (parts.take (i + 1))) ++ [] :: edge (inside (parts.drop (i + 2))) := by
  obtain ⟨hlt, hempty, -⟩ := List.idxOf?_eq_some_iff.1 hi
  have hlength : i + 2 < parts.length := by
    rw [List.length_dropLast, List.length_tail] at hlt
    omega
  have hsplit : parts.drop (i + 1) = [] :: parts.drop (i + 2) := by
    have hgap : parts[i + 1] = [] := by simpa using hempty
    rw [List.drop_eq_getElem_cons (by omega), hgap]
  have htake : parts.take (i + 1) ≠ [] := by
    rw [Ne, List.take_eq_nil_iff]
    rintro (h | rfl)
    · cases h
    · cases hlength
  have hdrop : parts.drop (i + 2) ≠ [] := by
    rw [Ne, List.drop_eq_nil_iff]
    omega
  rw [edge_inside htake, edge_inside hdrop, ← hsplit, List.take_append_drop]

private theorem inside_of_idxOf? {i : Nat} (hfront : ∀ g ∈ front, Group g) (hback : ∀ g ∈ back, Group g)
    (hi : ((edge front ++ [] :: edge back).tail.dropLast).idxOf? [] = some i) :
    inside ((edge front ++ [] :: edge back).take (i + 1)) = front ∧
      inside ((edge front ++ [] :: edge back).drop (i + 2)) = back := by
  rw [idxOf?_gap hfront] at hi
  have hlength : i + 1 = (edge front).length := by
    obtain rfl := Option.some.inj hi
    have := List.length_pos_iff.2 (edge_ne_nil front)
    rw [List.length_tail]
    omega
  have hdrop : (edge front ++ [] :: edge back).drop (i + 2) = edge back := by
    rw [show i + 2 = (edge front).length + 1 by omega, ← List.drop_drop, List.drop_left]
    rfl
  rw [List.take_left' hlength.symm, hdrop]
  exact ⟨inside_edge hfront, inside_edge hback⟩

private theorem areGroups_iff (parts : List Text) : areGroups parts ↔
    (parts.length = 8 ∧ ∀ g ∈ parts, Group g) ∨
      ∃ front back, (∀ g ∈ front, Group g) ∧ (∀ g ∈ back, Group g) ∧ front.length + back.length ≤ 7 ∧
        parts = edge front ++ [] :: edge back := by
  cases hi : (parts.tail.dropLast).idxOf? [] with
  | none =>
    have hplain : areGroups parts ↔ parts.length = 8 ∧ ∀ g ∈ parts, Group g := by
      simp [areGroups, hi, isGroup_iff]
    rw [hplain]
    refine ⟨.inl, ?_⟩
    rintro (h | ⟨front, back, hfront, -, -, rfl⟩)
    · exact h
    · rw [idxOf?_gap hfront] at hi
      cases hi
  | some i =>
    have hgap : areGroups parts ↔
        (∀ g ∈ inside (parts.take (i + 1)), Group g) ∧ (∀ g ∈ inside (parts.drop (i + 2)), Group g) ∧
          (inside (parts.take (i + 1))).length + (inside (parts.drop (i + 2))).length ≤ 7 := by
      simp only [areGroups, hi, Bool.and_eq_true, List.all_eq_true, isGroup_iff, decide_eq_true_eq,
        and_assoc]
      rfl
    rw [hgap]
    constructor
    · rintro ⟨hfront, hback, hroom⟩
      exact .inr ⟨_, _, hfront, hback, hroom, eq_edges_of_idxOf? hi⟩
    · rintro (⟨-, hall⟩ | ⟨front, back, hfront, hback, hroom, rfl⟩)
      · -- eight groups leave no gap
        obtain ⟨hlt, hempty, -⟩ := List.idxOf?_eq_some_iff.1 hi
        have hmem : [] ∈ parts :=
          List.mem_of_mem_tail ((List.dropLast_sublist _).subset (hempty ▸ List.getElem_mem hlt))
        exact absurd rfl (hall [] hmem).given
      · obtain ⟨htake, hdrop⟩ := inside_of_idxOf? hfront hback hi
        rw [htake, hdrop]
        exact ⟨hfront, hback, hroom⟩

/-! ### Whole addresses -/

private theorem Group.notMem {t : Text} (h : Group t) {c : Char} (hc : ¬ isHexadecimal c) : c ∉ t :=
  fun hm => hc (h.digits c hm)

private theorem Quad.notMem {t : Text} (h : Quad t) {c : Char} (hc : ¬ c.isDigit) (hdot : c ≠ '.') :
    c ∉ t := by
  intro hm
  obtain ⟨piece, hpiece, hm⟩ := Text.mem_split.2 ⟨hm, hdot⟩
  have hoctets := (isDotted_iff t).2 h
  simp only [isDotted, Bool.and_eq_true, List.all_eq_true, isOctet_iff] at hoctets
  exact (hoctets.2 piece hpiece).notMem hc hm

private theorem Quad.dot_mem {t : Text} (h : Quad t) : '.' ∈ t := by
  by_contra hdot
  have hoctets := (isDotted_iff t).2 h
  simp [isDotted, Text.split_of_notMem hdot] at hoctets

/-- What the parts between colons count as: four octets at the end are two groups. -/
inductive Counted : List Text → List Text → Prop where
  | plain {parts : List Text} (dot : ∀ last ∈ parts.getLast?, '.' ∉ last) : Counted parts parts
  | dotted {parts : List Text} {last : Text} (octets : Quad last) :
      Counted (parts ++ [last]) (parts ++ [['0'], ['0']])

private theorem counted_concat_iff {last : Text} {groups : List Text} :
    Counted (parts ++ [last]) groups ↔
    '.' ∉ last ∧ groups = parts ++ [last] ∨ Quad last ∧ groups = parts ++ [['0'], ['0']] := by
  constructor
  · generalize hparts : parts ++ [last] = whole
    rintro (dot | octets)
    · subst hparts
      exact .inl ⟨dot last (by simp), rfl⟩
    · obtain ⟨rfl, hlast⟩ := List.append_inj' hparts rfl
      obtain rfl := List.singleton_inj.1 hlast
      exact .inr ⟨octets, rfl⟩
  · rintro (⟨hdot, rfl⟩ | ⟨octets, rfl⟩)
    · exact .plain fun l hl => by simpa [show l = last by simpa using hl.symm] using hdot
    · exact .dotted octets

private theorem groups?_eq_some_iff {t : Text} {groups : List Text} :
    groups? t = some groups ↔ 3 ≤ (t.split ':').length ∧ Counted (t.split ':') groups := by
  rw [groups?]
  generalize t.split ':' = parts
  rcases List.eq_nil_or_concat parts with rfl | ⟨init, last, rfl⟩
  · simp
  rw [List.concat_eq_append]
  by_cases hlong : 3 ≤ (init ++ [last]).length
  · have hlast : (init ++ [last]).getLast? = some last := by simp
    simp only [if_neg (Nat.not_lt.2 hlong), hlast, List.dropLast_concat, counted_concat_iff, hlong,
      true_and]
    by_cases hdot : '.' ∈ last
    · by_cases hquad : Quad last
      · simp [hdot, hquad, (isDotted_iff last).2 hquad, eq_comm]
      · simp [hdot, hquad, mt (isDotted_iff last).1 hquad]
    · have hquad : ¬ Quad last := fun h => hdot h.dot_mem
      simp [hdot, hquad, eq_comm]
  · rw [if_pos (Nat.not_le.1 hlong)]
    exact iff_of_false (by simp) fun h => hlong h.1

private theorem groups_iff {n : Nat} : Groups parts n ↔
    ∃ groups, Counted parts groups ∧ groups.length = n ∧ ∀ g ∈ groups, Group g := by
  have hzero : Group ['0'] := (isGroup_iff _).1 rfl
  constructor
  · rintro (groups | ⟨groups, octets⟩)
    · refine ⟨parts, .plain fun last hlast => ?_, rfl, groups⟩
      exact (groups last (List.mem_of_getLast? hlast)).notMem (by decide)
    · exact ⟨_, .dotted octets, by simp, List.forall_mem_append.2 ⟨groups, by simpa using hzero⟩⟩
  · rintro ⟨groups, dot | octets, rfl, hgroups⟩
    · exact .plain hgroups
    · rw [List.length_append]
      exact .dotted (List.forall_mem_append.1 hgroups).1 octets

private theorem Groups.colon_notMem {n : Nat} (h : Groups parts n) : ∀ g ∈ parts, ':' ∉ g := by
  have hgroup {g : Text} (hg : Group g) : ':' ∉ g := hg.notMem (by decide)
  cases h with
  | plain groups => exact fun g hg => hgroup (groups g hg)
  | dotted groups octets =>
    refine List.forall_mem_append.2 ⟨fun g hg => hgroup (groups g hg), ?_⟩
    exact List.forall_mem_singleton.2 (octets.notMem (by decide) (by decide))

private theorem edge_of_ne_nil (h : parts ≠ []) : edge parts = parts := if_neg h

private theorem dot_edge_iff : (∀ last ∈ (front ++ edge back).getLast?, '.' ∉ last) ↔
    ∀ last ∈ back.getLast?, '.' ∉ last := by
  rw [List.getLast?_append_of_ne_nil _ (edge_ne_nil back)]
  by_cases hback : back = []
  · subst hback
    simp [edge]
  · rw [edge_of_ne_nil hback]

/-- The parts of an address with a gap are those of its ends, and so is what they count as. -/
theorem counted_gap_iff {groups : List Text} : Counted parts (front ++ [[]] ++ edge groups) ↔
    ∃ back, Counted back groups ∧ parts = front ++ [[]] ++ edge back := by
  constructor
  · generalize hgap : front ++ [[]] ++ edge groups = counted
    rintro (dot | @⟨init, last, octets⟩)
    · subst hgap
      exact ⟨groups, .plain (dot_edge_iff.1 dot), rfl⟩
    · -- both groups of the octets stand behind the gap
      obtain ⟨c, rfl, hgroups⟩ : ∃ c, init = front ++ [[]] ++ c ∧ edge groups = c ++ [['0'], ['0']] := by
        rcases List.append_eq_append_iff.1 hgap with h | ⟨c, hc, hzeros⟩
        · exact h
        · obtain rfl : c = [] := by
            by_contra hne
            have hlast : c.getLast? = some [] := by
              rw [← List.getLast?_append_of_ne_nil init hne, ← hc]
              simp
            have hmem : [] ∈ [['0'], ['0']] :=
              hzeros ▸ List.mem_append_left _ (List.mem_of_getLast? hlast)
            simp at hmem
          exact ⟨[], by simpa using hc.symm, hzeros.symm⟩
      have hne : groups ≠ [] := by
        rintro rfl
        simpa [edge] using congrArg List.length hgroups
      rw [edge_of_ne_nil hne] at hgroups
      subst hgroups
      refine ⟨c ++ [last], .dotted octets, ?_⟩
      rw [edge_of_ne_nil (by simp), ← List.append_assoc]
  · rintro ⟨back, dot | @⟨init, last, octets⟩, rfl⟩
    · exact .plain (dot_edge_iff.2 dot)
    · rw [edge_of_ne_nil (by simp), edge_of_ne_nil (by simp), ← List.append_assoc, ← List.append_assoc]
      exact .dotted octets

private theorem join_edge (parts : List Text) :
    Text.join [':'] (edge parts) = Text.join [':'] parts := by
  by_cases h : parts = []
  · subst h
    rfl
  · rw [edge_of_ne_nil h]

private theorem join_gap (front back : List Text) :
    Text.join [':'] (edge front ++ [[]] ++ edge back) =
      Text.join [':'] front ++ ':' :: ':' :: Text.join [':'] back := by
  rw [List.append_assoc, Text.join_append (edge_ne_nil front) (by simp),
    Text.join_append (List.cons_ne_nil [] []) (edge_ne_nil back), join_edge, join_edge]
  simp [Text.join]

private theorem length_edge (parts : List Text) : (edge parts).length = max 1 parts.length := by
  by_cases h : parts = []
  · subst h
    rfl
  · have := List.length_pos_iff.2 h
    rw [edge_of_ne_nil h]
    omega

private theorem forall_mem_edge {P : Text → Prop} (h : ∀ g ∈ parts, P g) (hnil : P []) :
    ∀ g ∈ edge parts, P g := by
  unfold edge
  split
  · exact List.forall_mem_singleton.2 hnil
  · exact h

private theorem Counted.length_le {groups : List Text} (h : Counted parts groups) :
    groups.length ≤ parts.length + 1 := by
  cases h with
  | plain => exact Nat.le_succ _
  | dotted => simp

private theorem split_of_parts (hcolon : ∀ g ∈ parts, ':' ∉ g) (hlength : 3 ≤ parts.length) :
    (Text.join [':'] parts).split ':' = parts := by
  refine Text.split_join hcolon ?_
  rintro rfl
  cases hlength

/-- What is read as groups that are eight, or fewer with a gap, are the addresses of the grammar. -/
theorem exists_groups_iff (t : Text) :
    (∃ groups, groups? t = some groups ∧ groups.length ≤ 9 ∧ areGroups groups) ↔ Whole t := by
  simp only [groups?_eq_some_iff, areGroups_iff]
  constructor
  · rintro ⟨groups, ⟨-, hcounted⟩, -, ⟨hlength, hgroups⟩ | ⟨front, back, hfront, hback, hroom, rfl⟩⟩
    · rw [← Text.join_split ':' t]
      exact .full (groups_iff.2 ⟨groups, hcounted, hlength, hgroups⟩)
    · rw [← List.singleton_append, ← List.append_assoc] at hcounted
      obtain ⟨others, hothers, hparts⟩ := counted_gap_iff.1 hcounted
      rw [← Text.join_split ':' t, hparts, join_gap]
      exact .gap hfront (groups_iff.2 ⟨back, hothers, rfl, hback⟩) hroom
  · rintro (@⟨parts, hparts⟩ | @⟨front, back, n, hfront, hback, hroom⟩)
    · obtain ⟨groups, hcounted, hlength, hgroups⟩ := groups_iff.1 hparts
      have hthree : 3 ≤ parts.length := by
        have := hcounted.length_le
        omega
      rw [split_of_parts hparts.colon_notMem hthree]
      exact ⟨groups, ⟨hthree, hcounted⟩, by omega, .inl ⟨hlength, hgroups⟩⟩
    · obtain ⟨groups, hcounted, rfl, hgroups⟩ := groups_iff.1 hback
      have hcolon : ∀ g ∈ edge front ++ [[]] ++ edge back, ':' ∉ g := by
        refine List.forall_mem_append.2 ⟨List.forall_mem_append.2 ⟨?_, by simp⟩, ?_⟩
        · exact forall_mem_edge (fun g hg => (hfront g hg).notMem (by decide)) List.not_mem_nil
        · exact forall_mem_edge hback.colon_notMem List.not_mem_nil
      have hthree : 3 ≤ (edge front ++ [[]] ++ edge back).length := by
        have := List.length_pos_iff.2 (edge_ne_nil front)
        have := List.length_pos_iff.2 (edge_ne_nil back)
        simp only [List.length_append, List.length_singleton]
        omega
      rw [← join_gap, split_of_parts hcolon hthree]
      refine ⟨edge front ++ [[]] ++ edge groups, ⟨hthree, counted_gap_iff.2 ⟨back, hcounted, rfl⟩⟩, ?_,
        .inr ⟨front, groups, hfront, hgroups, hroom, by simp⟩⟩
      rw [List.length_append, List.length_append, List.length_singleton, length_edge, length_edge]
      omega

/-! ### Literals -/

/-- An address is written in hexadecimal digits, colons and dots, and there is a colon. -/
theorem Whole.characters {t : Text} (h : Whole t) :
    (∀ c ∈ t, isHexadecimal c ∨ c = ':' ∨ c = '.') ∧ ':' ∈ t := by
  have hparts {parts : List Text} {n : Nat} (hg : Groups parts n) :
      ∀ g ∈ parts, ∀ c ∈ g, isHexadecimal c ∨ c = '.' := by
    cases hg with
    | plain groups => exact fun g hg c hc => .inl ((groups g hg).digits c hc)
    | dotted groups octets =>
      refine List.forall_mem_append.2 ⟨fun g hg c hc => .inl ((groups g hg).digits c hc), ?_⟩
      refine List.forall_mem_singleton.2 fun c hc => ?_
      by_contra hno
      rw [not_or] at hno
      refine octets.notMem (fun hdigit => hno.1 ?_) hno.2 hc
      rw [isHexadecimal, hdigit]
      rfl
  have hjoin {parts : List Text} {n : Nat} (hg : Groups parts n) :
      ∀ c ∈ Text.join [':'] parts, isHexadecimal c ∨ c = ':' ∨ c = '.' := by
    intro c hc
    rcases Text.mem_join hc with rfl | ⟨g, hmem, hc⟩
    · exact .inr (.inl rfl)
    · exact (hparts hg g hmem c hc).imp_right .inr
  constructor
  · cases h with
    | full groups => exact hjoin groups
    | gap groups others room =>
      refine List.forall_mem_append.2 ⟨hjoin (.plain groups), ?_⟩
      exact List.forall_mem_cons.2 ⟨by simp, List.forall_mem_cons.2 ⟨by simp, hjoin others⟩⟩
  · by_contra hcolon
    obtain ⟨groups, hgroups, -⟩ := (exists_groups_iff t).2 h
    have hthree := (groups?_eq_some_iff.1 hgroups).1
    rw [Text.split_of_notMem hcolon] at hthree
    cases hthree with
    | step h => cases h

private theorem Whole.notMem {t : Text} (h : Whole t) {c : Char} (hc : ¬ isHexadecimal c)
    (hcolon : c ≠ ':')
    (hdot : c ≠ '.') : c ∉ t := by
  intro hm
  rcases h.characters.1 c hm with h | h | h
  · exact hc h
  · exact hcolon h
  · exact hdot h

private theorem isSixteenByte_of_notMem {t : Text} (h : '%' ∉ t) : isSixteenByte t ↔ Whole t := by
  rw [← exists_groups_iff, isSixteenByte, Text.cut_of_notMem h]
  cases hgroups : groups? t <;> simp [hgroups]

private theorem isSixteenByte_append {address : Text} (h : '%' ∉ address) (zone : Text) :
    isSixteenByte (address ++ '%' :: zone) ↔ Whole address ∧ zone ≠ [] ∧ '%' ∉ zone := by
  rw [← exists_groups_iff, isSixteenByte, Text.cut_append h]
  cases hgroups : groups? address <;> simp [hgroups, and_comm, and_assoc]

/-- The reader of sixteen-byte addresses against its grammar, zones and dotted ends included. -/
theorem isSixteenByte_iff (t : Text) : isSixteenByte t ↔ SixteenByte t := by
  have hpercent {t : Text} (h : Whole t) : '%' ∉ t := h.notMem (by decide) (by decide) (by decide)
  constructor
  · intro h
    by_cases hm : '%' ∈ t
    · obtain ⟨address, zone, rfl, hno⟩ := List.eq_append_cons_of_mem hm
      obtain ⟨hwhole, given, percent⟩ := (isSixteenByte_append hno zone).1 h
      exact .zoned hwhole given percent
    · exact .plain ((isSixteenByte_of_notMem hm).1 h)
  · rintro (h | ⟨h, given, percent⟩)
    · exact (isSixteenByte_of_notMem (hpercent h)).2 h
    · exact (isSixteenByte_append (hpercent h) _).2 ⟨h, given, percent⟩

/-- No sixteen-byte address is without a colon, which keeps it apart from a host name. -/
theorem SixteenByte.colon_mem {t : Text} (h : SixteenByte t) : ':' ∈ t := by
  cases h with
  | plain address => exact address.characters.2
  | zoned address => exact List.mem_append_left _ address.characters.2

theorem SixteenByte.characters {t : Text} (h : SixteenByte t) : ∃ address zone, t = address ++ zone ∧
    (∀ c ∈ address, isHexadecimal c ∨ c = ':' ∨ c = '.') ∧ ∀ c ∈ zone.head?, c = '%' := by
  cases h with
  | plain address => exact ⟨t, [], (List.append_nil t).symm, address.characters.1, by simp⟩
  | @zoned a zone address => exact ⟨a, '%' :: zone, rfl, address.characters.1, by simp⟩

private theorem isFuture_iff (t : Text) : isFuture t ↔ Future t := by
  constructor
  · intro h
    unfold isFuture at h
    split at h
    · rename_i rest
      by_cases hm : '.' ∈ rest
      · obtain ⟨version, after, rfl, hno⟩ := List.eq_append_cons_of_mem hm
        rw [Text.cut_append hno] at h
        simp only [Bool.and_eq_true, List.all_eq_true, Bool.not_eq_true', List.isEmpty_eq_false_iff] at h
        exact .mk h.1.2 h.1.1 h.2
      · simp [Text.cut_of_notMem hm] at h
    · cases h
  · rintro ⟨digits, given, content⟩
    have hdot : '.' ∉ _ := fun hm => absurd (digits '.' hm) (by decide)
    simp only [isFuture, Text.cut_append hdot, Bool.and_eq_true, List.all_eq_true, Bool.not_eq_true',
      List.isEmpty_eq_false_iff]
    exact ⟨⟨given, digits⟩, content⟩

/-- A literal is an address of groups or one of a version to come; the letter in front tells which. -/
theorem isLiteral_iff (t : Text) : isLiteral t ↔ SixteenByte t ∨ Future t := by
  unfold isLiteral
  split
  · rename_i rest
    rw [isFuture_iff]
    refine ⟨.inr, fun h => h.resolve_left fun hsixteen => ?_⟩
    have hv {t : Text} (h : Whole t) : 'v' ∉ t := h.notMem (by decide) (by decide) (by decide)
    generalize htext : 'v' :: rest = text at hsixteen
    cases hsixteen with
    | plain h => exact hv h (htext ▸ List.mem_cons_self)
    | @zoned address zone h =>
      cases address with
      | nil => exact List.not_mem_nil h.characters.2
      | cons c address => exact hv h ((List.cons.inj htext).1 ▸ List.mem_cons_self)
  · rename_i hno
    rw [isSixteenByte_iff]
    refine ⟨.inl, fun h => h.resolve_right ?_⟩
    rintro ⟨-, -, -⟩
    exact hno _ rfl

end

end FieldRules.Url.Address
