import FieldRules.Logger
import Mathlib.Data.List.Basic

/-! Loggers that are configured again and again. The loop over the handlers takes off all that go by the
library's name, however many there are, and leaves the others as they stand; so one such handler is there
afterwards, and nothing is left of earlier settings. -/
namespace FieldRules.Logger
variable {l : Logger} {s : Sink}

/-! ### Handlers -/

/-- Taking off a handler of the library's name leaves the others. -/
theorem others_erase (h : s.isOwn) (handlers : List Sink) :
    (handlers.erase s).filter (!Sink.isOwn ·) = handlers.filter (!Sink.isOwn ·) := by
  induction handlers with
  | nil => rfl
  | cons first rest ih =>
    by_cases hs : first = s
    · subst hs
      simp [h]
    · rw [List.erase_cons_tail (by simpa using hs), List.filter_cons, List.filter_cons, ih]

def detachEach (l : Logger) (visited : List Sink) : Logger :=
  visited.foldl (fun l s => if s.isOwn then l.detach s else l) l

private theorem detachEach_cons (l : Logger) (s : Sink) (visited : List Sink) :
    l.detachEach (s :: visited) = (if s.isOwn then l.detach s else l).detachEach visited := rfl

private theorem others_detachEach (l : Logger) (visited : List Sink) :
    (l.detachEach visited).handlers.filter (!Sink.isOwn ·) = l.handlers.filter (!Sink.isOwn ·) := by
  induction visited generalizing l with
  | nil => rfl
  | cons s visited ih =>
    rw [detachEach_cons, ih]
    split
    · rename_i hs
      exact others_erase hs l.handlers
    · rfl

/-- A handler of the library's name is taken off as often as it is visited. -/
theorem count_detachEach (h : s.isOwn) (l : Logger) (visited : List Sink) :
    (l.detachEach visited).handlers.count s = l.handlers.count s - visited.count s := by
  induction visited generalizing l with
  | nil => rfl
  | cons first visited ih =>
    rw [detachEach_cons, ih]
    by_cases hs : first = s
    · subst hs
      rw [if_pos h, detach, List.count_erase_self, List.count_cons_self]
      omega
    · rw [List.count_cons_of_ne hs]
      split
      · rw [detach, List.count_erase_of_ne (Ne.symm hs)]
      · rfl

private theorem handlers_detachOwn (l : Logger) :
    l.detachOwn.handlers = l.handlers.filter (!Sink.isOwn ·) := by
  have hloop : l.detachOwn = l.detachEach l.handlers := rfl
  have hnone : ∀ s ∈ l.detachOwn.handlers, !s.isOwn := by
    intro s hs
    rw [Bool.not_eq_true', ← Bool.not_eq_true]
    intro hown
    have hcount := count_detachEach hown l l.handlers
    rw [Nat.sub_self, List.count_eq_zero, ← hloop] at hcount
    exact hcount hs
  rw [← List.filter_eq_self.2 hnone, hloop, others_detachEach]

/-- Whatever handlers of its own there were, one is left, at the end. -/
private theorem handlers_configure (l : Logger) (settings : Settings) :
    (l.configure settings).handlers =
      l.handlers.filter (!Sink.isOwn ·) ++ [.rendering (handlerFor settings)] := by
  rw [configure, handlers_detachOwn]

private theorem isOwn_handlerFor (settings : Settings) : Sink.isOwn (.rendering (handlerFor settings)) :=
  decide_eq_true rfl

private theorem others_configure (l : Logger) (settings : Settings) :
    (l.configure settings).handlers.filter (!Sink.isOwn ·) = l.handlers.filter (!Sink.isOwn ·) := by
  rw [handlers_configure, List.filter_append, List.filter_filter]
  simp [isOwn_handlerFor]

private theorem own_configure (l : Logger) (settings : Settings) :
    (l.configure settings).handlers.filter Sink.isOwn = [.rendering (handlerFor settings)] := by
  rw [handlers_configure, List.filter_append, List.filter_filter]
  simp [isOwn_handlerFor]

/-- No sequence of settings touches the handlers of others. -/
private theorem others_foldl_configure (l : Logger) (calls : List Settings) :
    (calls.foldl configure l).handlers.filter (!Sink.isOwn ·) = l.handlers.filter (!Sink.isOwn ·) := by
  induction calls generalizing l with
  | nil => rfl
  | cons settings rest ih => rw [List.foldl_cons, ih, others_configure]

/-! ### Levels -/

def SameLetters (t u : Text) : Prop := Unicode.upperText t = Unicode.upperText u

/-- The names of levels are in upper case. -/
theorem upperText_levelName {p : String × Nat} (h : p ∈ levelNames) :
    Unicode.upperText p.1.toList = p.1.toList := by
  have hall : ∀ p ∈ levelNames, Unicode.upperText p.1.toList = p.1.toList := by decide
  exact hall p h

private theorem sameLetters_levelName_iff {t : Text} {p : String × Nat} (h : p ∈ levelNames) :
    SameLetters t p.1.toList ↔ p.1.toList = Unicode.upperText t := by
  rw [SameLetters, upperText_levelName h, eq_comm]

/-- No name stands for two levels. -/
theorem level_unique {p q : String × Nat} (hp : p ∈ levelNames) (hq : q ∈ levelNames)
    (h : p.1 = q.1) : p.2 = q.2 := by
  have hall : ∀ p ∈ levelNames, ∀ q ∈ levelNames, p.1 = q.1 → p.2 = q.2 := by decide
  exact hall p hp q hq h

private theorem of_find?_levelNames {t : Text} {p : String × Nat}
    (h : levelNames.find? (·.1.toList = Unicode.upperText t) = some p) :
    p ∈ levelNames ∧ SameLetters t p.1.toList := by
  have hmem := List.mem_of_find?_eq_some h
  refine ⟨hmem, (sameLetters_levelName_iff hmem).2 ?_⟩
  simpa using List.find?_some h

private theorem levelNumber_of_mem {t : Text} {p : String × Nat} (hp : p ∈ levelNames)
    (h : SameLetters t p.1.toList) : levelNumber t = p.2 := by
  simp only [levelNumber]
  split
  · rename_i name number hfind
    obtain ⟨hmem, hname⟩ := of_find?_levelNames hfind
    have hboth := ((sameLetters_levelName_iff hmem).1 hname).trans
      ((sameLetters_levelName_iff hp).1 h).symm
    exact level_unique hmem hp (String.toList_injective hboth)
  · rename_i hnone
    have hother := List.find?_eq_none.1 hnone p hp
    exact absurd (decide_eq_true ((sameLetters_levelName_iff hp).1 h)) hother

/-- A level of no known name counts as `info`. -/
private theorem levelNumber_of_unknown {t : Text} (h : ∀ p ∈ levelNames, ¬ SameLetters t p.1.toList) :
    levelNumber t = Level.info.number := by
  simp only [levelNumber]
  split
  · rename_i name number hfind
    obtain ⟨hmem, hname⟩ := of_find?_levelNames hfind
    exact absurd hname (h _ hmem)
  · rfl

/-! ### Repeated configuration -/

/-- Whatever handlers a logger has, and whatever settings it was configured with before, it has one handler
of the library's name in the end, with the renderer that the last settings ask for. All other handlers are
there as before. The level is the one that the last settings name, in any case of its letters, and that of
`INFO` if they name none; what it was before does not count. -/
theorem configured_repeatedly (l : Logger) (calls : List Settings) (last : Settings) :
    let done := (calls ++ [last]).foldl configure l
    done.handlers.filter Sink.isOwn =
      [.rendering ⟨Handler.ownName, if last.debug then .console else .json⟩] ∧
    done.handlers.filter (!Sink.isOwn ·) = l.handlers.filter (!Sink.isOwn ·) ∧
    (∀ p ∈ levelNames, SameLetters last.logLevel p.1.toList → done.level = p.2) ∧
    ((∀ p ∈ levelNames, ¬ SameLetters last.logLevel p.1.toList) → done.level = Level.info.number) ∧
    (∀ p ∈ levelNames, (∀ c ∈ last.logLevel, c.toNat < 128) →
      (SameLetters last.logLevel p.1.toList ↔ last.logLevel.map Char.toUpper = p.1.toList)) ∧
    ∀ (l' : Logger) (calls' : List Settings),
      ((calls' ++ [last]).foldl configure l').level = done.level := by
  intro done
  have hlast (l : Logger) (calls : List Settings) :
      (calls ++ [last]).foldl configure l = (calls.foldl configure l).configure last :=
    List.foldl_concat configure l last calls
  have hlevel : done.level = levelNumber last.logLevel := congrArg level (hlast l calls)
  refine ⟨?_, others_foldl_configure l (calls ++ [last]), ?_, ?_, ?_, ?_⟩
  · rw [show done = _ from hlast l calls, own_configure]
    rfl
  · intro p hp hsame
    rw [hlevel, levelNumber_of_mem hp hsame]
  · intro hunknown
    rw [hlevel, levelNumber_of_unknown hunknown]
  · intro p hp hascii
    rw [sameLetters_levelName_iff hp, Unicode.upperText_of_ascii _ hascii, eq_comm]
  · intro l' calls'
    rw [hlevel, hlast]
    rfl

/-- Two stale handlers of the library's name, one of them of another maker, between two that are not. -/
def crowded : Logger :=
  ⟨[.foreign 0 none, .rendering ⟨Handler.ownName, .json⟩, .foreign 1 (some Handler.ownName),
    .foreign 2 (some "audit".toList)], 50⟩

def settingsOf (debug : Bool) (logLevel : Text) : Settings := ⟨.zero false, [], debug, logLevel⟩

/-- The names of levels are read in any case; a number for a level is no name and counts as `info`. -/
theorem crowded_configured :
    let done := [settingsOf false "critical".toList, settingsOf true "Warn".toList].foldl configure crowded
    done.handlers.filter Sink.isOwn = [.rendering ⟨Handler.ownName, .console⟩] ∧
    done.handlers.filter (!Sink.isOwn ·) = [.foreign 0 none, .foreign 2 (some "audit".toList)] ∧
    done.level = 30 ∧
    ([settingsOf true "10".toList].foldl configure done).level = 20 := by
  intro done
  obtain ⟨hown, hothers, hnamed, -⟩ := configured_repeatedly crowded
    [settingsOf false "critical".toList] (settingsOf true "Warn".toList)
  obtain ⟨-, -, -, hunknown, -⟩ := configured_repeatedly done [] (settingsOf true "10".toList)
  refine ⟨hown, hothers, hnamed ("WARN", 30) (by decide) ?_, hunknown ?_⟩
  · unfold SameLetters
    decide
  · unfold SameLetters
    decide

end FieldRules.Logger
