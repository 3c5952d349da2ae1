import FieldRules.Proofs.Registry
import Mathlib.Tactic.TFAE

/-! Registries as tables. A list of checkers is taken over in its order unless a name comes again, and
then the first that does is to blame; the observers of a registry agree on the names that are in it. -/
namespace FieldRules.Registry
variable {checkers : List Checker} {registry : Registry} {n : Text}

/-! ### Registering -/

/-- What was seen and what stands before the first repeat are distinct names. -/
theorem firstRepeat?_eq_some_iff {seen names : List Text} :
    firstRepeat? seen names = some n ∧ seen.Nodup ↔
      ∃ before after, names = before ++ n :: after ∧ (seen ++ before).Nodup ∧ n ∈ seen ++ before := by
  induction names generalizing seen with
  | nil => simp [firstRepeat?]
  | cons m rest ih =>
    by_cases hm : m ∈ seen
    · rw [firstRepeat?, if_pos hm]
      constructor
      · rintro ⟨⟨⟩, hseen⟩
        exact ⟨[], rest, rfl, by simpa using hseen, by simpa using hm⟩
      · rintro ⟨_ | ⟨b, before⟩, after, heq, hnodup, hn⟩
        · obtain ⟨rfl, rfl⟩ := List.cons.inj heq
          exact ⟨rfl, by simpa using hnodup⟩
        · obtain ⟨rfl, -⟩ := List.cons.inj heq
          exact absurd rfl ((List.nodup_append.1 hnodup).2.2 m hm m List.mem_cons_self)
    · have hnext : seen.Nodup ↔ (seen ++ [m]).Nodup := by
        simp only [List.nodup_append, List.nodup_singleton, List.mem_singleton, true_and]
        exact ⟨fun hs => ⟨hs, by rintro a ha _ rfl rfl; exact hm ha⟩, fun h => h.1⟩
      rw [firstRepeat?, if_neg hm, hnext, ih]
      constructor
      · rintro ⟨before, after, rfl, hnodup, hn⟩
        exact ⟨m :: before, after, rfl, by simpa using hnodup, by simpa using hn⟩
      · rintro ⟨_ | ⟨b, before⟩, after, heq, hnodup, hn⟩
        · obtain ⟨rfl, -⟩ := List.cons.inj heq
          exact absurd (by simpa using hn) hm
        · obtain ⟨rfl, rfl⟩ := List.cons.inj heq
          exact ⟨before, after, rfl, by simpa using hnodup, by simpa using hn⟩

/-- The refusal names the first checker whose name was taken before. -/
private theorem ofCheckers_eq_error_iff {e : ConfigurationError} :
    ofCheckers checkers = .error e ↔
      ∃ before again after, checkers = before ++ again :: after ∧
        (before.map Checker.name).Nodup ∧ again.name ∈ before.map Checker.name ∧
        e = .registeredTwice again.name := by
  have hfirst : ofCheckers checkers = .error e ↔
      ∃ n, firstRepeat? [] (checkers.map Checker.name) = some n ∧ .registeredTwice n = e := by
    unfold ofCheckers
    split
    · rename_i name hrepeat
      simp [hrepeat]
    · rename_i hnone
      simp [hnone]
  rw [hfirst]
  constructor
  · rintro ⟨n, hrepeat, rfl⟩
    obtain ⟨names, after, hnames, hnodup, hn⟩ := firstRepeat?_eq_some_iff.1 ⟨hrepeat, List.nodup_nil⟩
    obtain ⟨before, others, rfl, rfl, hothers⟩ := List.map_eq_append_iff.1 hnames
    obtain ⟨again, rest, rfl, rfl, rfl⟩ := List.map_eq_cons_iff.1 hothers
    exact ⟨before, again, rest, rfl, hnodup, hn, rfl⟩
  · rintro ⟨before, again, after, rfl, hnodup, hn, rfl⟩
    refine ⟨again.name, (firstRepeat?_eq_some_iff.2 ?_).1, rfl⟩
    exact ⟨before.map Checker.name, after.map Checker.name, by simp, hnodup, hn⟩

private theorem checkers_of_ofCheckers (h : ofCheckers checkers = .ok registry) :
    registry.checkers = checkers := by
  unfold ofCheckers at h
  split at h
  · cases h
  · cases h
    rfl

/-- A list of checkers is refused if and only if two of them have one name. -/
theorem exists_error_iff :
    (∃ e, ofCheckers checkers = .error e) ↔ ¬ (checkers.map Checker.name).Nodup := by
  constructor
  · rintro ⟨e, he⟩ hnodup
    obtain ⟨registry, hok, -⟩ := exists_ofCheckers hnodup
    cases he.symm.trans hok
  · intro hrepeat
    cases h : ofCheckers checkers with
    | error e => exact ⟨e, rfl⟩
    | ok registry => exact absurd (checkers_of_ofCheckers h ▸ registry.distinct) hrepeat

/-! ### Looking up -/

private theorem contains_text (registry : Registry) (n : Text) :
    registry.contains (.text n) = .ok (decide (n ∈ registry.names)) := by
  have hfound : (registry.find? n).isSome = decide (n ∈ registry.names) := by
    rw [Bool.eq_iff_iff, decide_eq_true_iff, ← not_iff_not, Bool.not_eq_true,
      Option.isSome_eq_false_iff, Option.isNone_iff_eq_none, find?_eq_none_iff]
  rw [← hfound]
  rfl

/-- A name resolves to the one checker that bears it. -/
private theorem resolve_eq_ok_iff {field : Option Text} {c : Checker} :
    registry.resolve n field = .ok c ↔ c ∈ registry.checkers ∧ c.name = n := by
  rw [← find?_eq_some_iff, resolve]
  cases registry.find? n <;> simp

private theorem resolve_of_notMem (h : n ∉ registry.names) (field : Option Text) :
    registry.resolve n field = .error (.unknownRule n field) := by
  rw [resolve, find?_eq_none_iff.2 h]

/-- No other checker of the list has the name of one of them. -/
theorem mem_and_name_iff (h : (checkers.map Checker.name).Nodup) {c d : Checker} (hc : c ∈ checkers) :
    d ∈ checkers ∧ d.name = c.name ↔ d = c := by
  constructor
  · rintro ⟨hd, hname⟩
    exact List.inj_on_of_nodup_map h hd hc hname
  · rintro rfl
    exact ⟨hc, rfl⟩

/-- Checkers make a registry unless two of them have one name. The error is then about the checker at the
first place where a name comes again. A registry has the names of its checkers in their order. It contains
exactly these names and resolves exactly these, whatever the field, each to the one checker of the list
that has it. Any other name is to blame in the error that it gives, with the field that asked for it. -/
theorem ofCheckers_is_table (checkers : List Checker) :
    ((∃ e, ofCheckers checkers = .error e) ↔ ¬ (checkers.map Checker.name).Nodup) ∧
    (∀ e, ofCheckers checkers = .error e ↔
      ∃ before again after, checkers = before ++ again :: after ∧
        (before.map Checker.name).Nodup ∧ again.name ∈ before.map Checker.name ∧
        e = .registeredTwice again.name ∧ e.rule = some again.name) ∧
    ∀ registry, ofCheckers checkers = .ok registry →
      registry.names = checkers.map Checker.name ∧ registry.size = checkers.length ∧
      ∀ n,
        [registry.contains (.text n) = .ok true, n ∈ registry.names,
          ∀ field, ∃ c, registry.resolve n field = .ok c].TFAE ∧
        (n ∈ registry.names →
          ∃ c, (∀ d, d ∈ checkers ∧ d.name = n ↔ d = c) ∧ ∀ field, registry.resolve n field = .ok c) ∧
        (n ∉ registry.names → registry.contains (.text n) = .ok false ∧
          ∀ field, ∃ e, registry.resolve n field = .error e ∧ e.rule = some n ∧ e.field = field) := by
  refine ⟨exists_error_iff, fun e => ?_, ?_⟩
  · rw [ofCheckers_eq_error_iff]
    constructor
    · rintro ⟨before, again, after, hcheckers, hnodup, hn, rfl⟩
      exact ⟨before, again, after, hcheckers, hnodup, hn, rfl, rfl⟩
    · rintro ⟨before, again, after, hcheckers, hnodup, hn, he, -⟩
      exact ⟨before, again, after, hcheckers, hnodup, hn, he⟩
  · intro registry hregistry
    obtain rfl := checkers_of_ofCheckers hregistry
    refine ⟨rfl, rfl, fun n => ⟨?_, ?_, ?_⟩⟩
    · tfae_have 1 ↔ 2 := by rw [contains_text, Except.ok.injEq, decide_eq_true_iff]
      tfae_have 2 → 3 := by
        intro hn field
        obtain ⟨c, hc⟩ := List.mem_map.1 hn
        exact ⟨c, resolve_eq_ok_iff.2 hc⟩
      tfae_have 3 → 2 := by
        intro hresolved
        obtain ⟨c, hc⟩ := hresolved none
        exact List.mem_map.2 ⟨c, resolve_eq_ok_iff.1 hc⟩
      tfae_finish
    · intro hn
      obtain ⟨c, hc, rfl⟩ := List.mem_map.1 hn
      exact ⟨c, fun d => mem_and_name_iff registry.distinct hc,
        fun field => resolve_eq_ok_iff.2 ⟨hc, rfl⟩⟩
    · intro hn
      refine ⟨?_, fun field => ⟨_, resolve_of_notMem hn field, rfl, rfl⟩⟩
      rw [contains_text, decide_eq_false hn]

def smallList : List Checker := [.min, .faulty "explode".toList "boom".toList]

/-- Of two repeats the first is told. The names of checkers that give up are names as any other. -/
theorem smallList_in_table :
    ofCheckers [.max, .min, .faulty "min".toList [], .max] = .error (.registeredTwice "min".toList) ∧
    ∃ registry, ofCheckers smallList = .ok registry ∧
      registry.names = ["min".toList, "explode".toList] ∧
      registry.contains (.text "explode".toList) = .ok true ∧
      (∃ c, (∀ d, d ∈ smallList ∧ d.name = "explode".toList ↔ d = c) ∧
        registry.resolve "explode".toList none = .ok c) ∧
      ∃ e, registry.resolve "Min".toList (some "age".toList) = .error e ∧
        e.rule = some "Min".toList ∧ e.field = some "age".toList := by
  constructor
  · exact ((ofCheckers_is_table _).2.1 _).2
      ⟨[.max, .min], .faulty "min".toList [], [.max], rfl, by decide, by decide, rfl, rfl⟩
  · have hnodup : (smallList.map Checker.name).Nodup := by decide
    obtain ⟨registry, hregistry, -⟩ := exists_ofCheckers hnodup
    obtain ⟨-, -, htable⟩ := ofCheckers_is_table smallList
    obtain ⟨hnames, -, hlook⟩ := htable registry hregistry
    obtain ⟨hin, hresolved, -⟩ := hlook "explode".toList
    have hmem : "explode".toList ∈ registry.names := by
      rw [hnames]
      decide
    have habsent : "Min".toList ∉ registry.names := by
      rw [hnames]
      decide
    obtain ⟨c, honly, hc⟩ := hresolved hmem
    exact ⟨registry, hregistry, hnames, (hin.out 0 1).2 hmem, ⟨c, honly, hc none⟩,
      ((hlook "Min".toList).2.2 habsent).2 (some "age".toList)⟩

end FieldRules.Registry
