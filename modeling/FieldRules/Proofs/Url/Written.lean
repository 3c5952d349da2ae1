import FieldRules.Proofs.Url.Address
import FieldRules.Proofs.Url.Grammar

/-! Hosts as they are written in the URLs that are accepted, over all texts. A host is looked at in lower
case and without its brackets, so that some hosts pass that are neither names nor addresses. -/
namespace FieldRules.Url

/-- A host name, if Kelvin signs are taken for the letter `k`. -/
def FoldedName (t : Text) : Prop := HostName (t.map Unicode.plainKelvin)

/-- What may stand behind an opening bracket. An address of a version to come needs a colon, or the
form of a name. -/
inductive Literal (t : Text) : Prop where
  | sixteenByte (address : Address.SixteenByte t)
  | future (address : Address.Future t) (seen : ':' ∈ t ∨ FoldedName t)

/-- A host as it is written between a user and a port. Brackets are balanced over the whole authority,
so that those of a user may stand for those of the host, and then there is no port. -/
inductive WrittenHost (user : Text) : Text → Option Text → Prop where
  | name {host : Text} {port : Option Text} (name : FoldedName host)
      (brackets : '[' ∈ user ∨ ']' ∈ user → ('[' ∈ user ∧ ']' ∈ user) ∧ Address.Future host) :
      WrittenHost user host port
  | literal {t : Text} {port : Option Text} (inside : ']' ∉ t) (literal : Literal t) :
      WrittenHost user ('[' :: (t ++ [']'])) port
  | unclosed {t : Text} (inside : ']' ∉ t) (literal : Literal t) (elsewhere : ']' ∈ user) :
      WrittenHost user ('[' :: t) none

def portText : Option Text → Text
  | none => []
  | some port => ':' :: port

inductive Located : Text → Text → Text → Option Text → Prop where
  | mk {user host : Text} {port : Option Text} (isUser : user = [] ∨ ∃ name, user = name ++ ['@'])
      (behind : '@' ∉ host ++ portText port) :
      Located (user ++ (host ++ portText port)) user host port

/-! ### Names -/

section
variable {t : Text}

/-- Labels of ASCII make a text of ASCII. -/
theorem Dotted.ascii {P : Text → Prop} (h : Dotted P t) (hP : ∀ l, P l → '.' ∉ l)
    (hlabel : ∀ l, P l → ∀ c ∈ l, c.toNat < 128) : ∀ c ∈ t, c.toNat < 128 := by
  intro c hm
  by_contra hc
  refine h.notMem hP (fun l hl hm => hc (hlabel l hl c hm)) ?_ hm
  rintro rfl
  exact hc (by decide)

private theorem HostName.ascii (h : HostName t) : ∀ c ∈ t, c.toNat < 128 := by
  refine Dotted.ascii h (fun l hl => hl.notMem (.inl rfl)) fun l hl c hc => ?_
  rcases hl.characters c hc with halphanum | rfl
  · exact Unicode.ascii_of_isAlphanum halphanum
  · decide

private theorem lowersToAscii_of_foldedName (h : FoldedName t) : Unicode.LowersToAscii t := by
  intro c hc
  have hascii := h.ascii _ (List.mem_map_of_mem hc)
  unfold Unicode.plainKelvin at hascii
  split at hascii
  · rename_i hkelvin
    exact .inr hkelvin
  · exact .inl hascii

namespace Authority

private theorem ascii_of_isHostName (h : isHostName t) : ∀ c ∈ t, c.toNat < 128 := by
  refine ((isHostName_iff_dotted t).1 h).ascii (fun l hl => notMem_of_isLabel hl (.inl rfl))
    fun l hl c hc => ?_
  rcases character_of_isLabel hl hc with hletter | rfl
  · have hcases : (c.isLower || c.isDigit) = true := hletter
    rcases Bool.or_eq_true_iff.1 hcases with h | h <;>
      exact Unicode.ascii_of_isAlphanum (by simp [Char.isAlphanum, Unicode.isAlpha_eq, h])
  · decide

/-- In lower case a host passes for a name if it is one, Kelvin signs being letters. -/
theorem isHostName_lowerText_iff : isHostName (Unicode.lowerText t) ↔ FoldedName t := by
  constructor
  · intro h
    have hlower := Unicode.lowersToAscii_of_lowerAfter (ascii_of_isHostName h)
    rw [Unicode.lowerText, Unicode.lowerAfter_of_lowersToAscii hlower] at h
    exact (isHostName_map_toLower _).1 h
  · intro h
    rw [Unicode.lowerText, Unicode.lowerAfter_of_lowersToAscii (lowersToAscii_of_foldedName h)]
    exact (isHostName_map_toLower _).2 h

private theorem hasHost_iff (authority : Text) :
    hasHost authority ↔ ':' ∈ host authority ∨ FoldedName (host authority) := by
  have hcolon (t : Text) : ':' ∈ Unicode.lowerText t ↔ ':' ∈ t :=
    Unicode.mem_lowerAfter_iff (by decide) (by decide) []
  rw [hasHost, hostName, Bool.or_eq_true, List.contains_iff_mem]
  generalize host authority = host
  by_cases hm : '%' ∈ host
  · obtain ⟨address, zone, rfl, hno⟩ := List.eq_append_cons_of_mem hm
    have hname : ¬ FoldedName (address ++ '%' :: zone) := by
      intro h
      refine h.percent_notMem (List.mem_map.2 ⟨'%', hm, by decide⟩)
    have hmodel : ¬ isHostName (Unicode.lowerText address ++ '%' :: zone) := by
      intro h
      exact percent_notMem_of_isHostName h (by simp)
    simp [Text.cut_append hno, hcolon, hname, hmodel]
  · simp [Text.cut_of_notMem hm, hcolon, isHostName_lowerText_iff]

end Authority

private theorem FoldedName.notMem (h : FoldedName t) {c : Char} (hc : c ∈ [':', '[', ']', '@']) :
    c ∉ t := by
  intro hm
  have hlabel (l : Text) (hl : Label l) : c ∉ l := by
    intro hm
    have := hl.characters c hm
    simp only [List.mem_cons, List.not_mem_nil, or_false] at hc
    rcases hc with rfl | rfl | rfl | rfl <;> simp at this
  have hplain : Unicode.plainKelvin c = c := by
    simp only [List.mem_cons, List.not_mem_nil, or_false] at hc
    rcases hc with rfl | rfl | rfl | rfl <;> decide
  refine Dotted.notMem (fun _ h => h.notMem (.inl rfl)) h hlabel ?_ (List.mem_map.2 ⟨c, hm, hplain⟩)
  rintro rfl
  simp at hc

end

/-! ### Users, hosts and ports -/

private theorem exists_location (authority : Text) : ∃ user location,
    authority = user ++ location ∧ (user = [] ∨ ∃ name, user = name ++ ['@']) ∧ '@' ∉ location := by
  by_cases hm : '@' ∈ authority
  · obtain ⟨after, before, heq, hno⟩ := List.eq_append_cons_of_mem (List.mem_reverse.2 hm)
    refine ⟨before.reverse ++ ['@'], after.reverse, ?_, .inr ⟨_, rfl⟩, by simpa using hno⟩
    rw [← List.reverse_reverse authority, heq]
    simp
  · exact ⟨[], authority, rfl, .inl rfl, hm⟩

section
variable {user location : Text} (isUser : user = [] ∨ ∃ name, user = name ++ ['@'])
  (behind : '@' ∉ location)
include isUser behind

private theorem location_user : Authority.location (user ++ location) = location := by
  rcases isUser with rfl | ⟨name, rfl⟩
  · exact location_of_notMem behind
  · rw [List.append_assoc, List.singleton_append, location_append, location_of_notMem behind]

end

private theorem cut_portText (port : Option Text) : (portText port).cut ':' = ([], port) := by
  cases port with
  | none => rfl
  | some port => exact Text.cut_append List.not_mem_nil port

private theorem cut_bracket (t : Text) : Text.cut '[' ('[' :: t) = ([], some t) :=
  Text.cut_append List.not_mem_nil t

private theorem cut_host {host : Text} (h : ':' ∉ host) (port : Option Text) :
    (host ++ portText port).cut ':' = (host, port) := by
  cases port with
  | none => rw [portText, List.append_nil, Text.cut_of_notMem h]
  | some port => exact Text.cut_append h port

private theorem exists_port (location : Text) :
    ∃ host port, location = host ++ portText port ∧ ':' ∉ host := by
  by_cases hm : ':' ∈ location
  · obtain ⟨host, port, rfl, hno⟩ := List.eq_append_cons_of_mem hm
    exact ⟨host, some port, rfl, hno⟩
  · exact ⟨location, none, (List.append_nil location).symm, hm⟩

/-- A port is written in digits. -/
theorem Port.notMem {port : Option Text} (h : Port port) {c : Char} (hc : ¬ c.isDigit)
    (hcolon : c ≠ ':') :
    c ∉ portText port := by
  cases h with
  | absent => exact List.not_mem_nil
  | empty => simpa [portText] using hcolon
  | number digits => exact fun hm => hc (digits c ((List.mem_cons.1 hm).resolve_left hcolon))

namespace Authority

section
variable {user : Text} (isUser : user = [] ∨ ∃ name, user = name ++ ['@'])
include isUser

/-- A host without an opening bracket ends at the first colon. -/
theorem hostAndPort_plain {location : Text} (behind : '@' ∉ location) (h : '[' ∉ location) :
    hostAndPort (user ++ location) = location.cut ':' := by
  rw [hostAndPort, location_user isUser behind, Text.cut_of_notMem h]

variable {t after : Text}

private theorem hostAndPort_bracketed (behind : '@' ∉ '[' :: (t ++ ']' :: after)) (h : ']' ∉ t) :
    hostAndPort (user ++ '[' :: (t ++ ']' :: after)) = (t, (after.cut ':').2) := by
  simp only [hostAndPort, location_user isUser behind, cut_bracket, Text.cut_append h,
    Option.getD_some]

private theorem hostAndPort_unclosed (behind : '@' ∉ '[' :: t) (h : ']' ∉ t) :
    hostAndPort (user ++ '[' :: t) = (t, none) := by
  simp only [hostAndPort, location_user isUser behind, cut_bracket, Text.cut_of_notMem h]
  rfl

private theorem bracketsFit_plain (behind : '@' ∉ t) (h : '[' ∉ t) : bracketsFit (user ++ t) := by
  simp only [bracketsFit, location_user isUser behind, Text.cut_of_notMem h]

private theorem bracketsFit_unclosed (behind : '@' ∉ '[' :: t) (h : ']' ∉ t) :
    bracketsFit (user ++ '[' :: t) := by
  simp only [bracketsFit, location_user isUser behind, cut_bracket, Text.cut_of_notMem h]
  rfl

/-- Behind the closing bracket only a port may follow. -/
theorem bracketsFit_bracketed (behind : '@' ∉ '[' :: (t ++ ']' :: after)) (h : ']' ∉ t) :
    bracketsFit (user ++ '[' :: (t ++ ']' :: after)) ↔ ∃ port, after = portText port := by
  simp only [bracketsFit, location_user isUser behind, cut_bracket, Text.cut_append h, List.isEmpty_nil,
    Bool.true_and]
  constructor
  · intro hfit
    split at hfit
    · rename_i heq
      cases heq
    · rename_i heq
      exact ⟨none, Option.some.inj heq⟩
    · rename_i rest heq
      exact ⟨some rest, Option.some.inj heq⟩
    · cases hfit
  · rintro ⟨port, rfl⟩
    cases port <;> rfl

/-- In front of an opening bracket nothing but the user may stand. -/
theorem bracketsFit_front {before : Text} (behind : '@' ∉ before ++ '[' :: t) (h : '[' ∉ before)
    (hfit : bracketsFit (user ++ (before ++ '[' :: t))) : before = [] := by
  simp only [bracketsFit, location_user isUser behind, Text.cut_append h, Bool.and_eq_true,
    List.isEmpty_iff] at hfit
  exact hfit.1

end

/-! ### Brackets -/

private theorem bracketsAgree_iff (authority : Text) : bracketsAgree authority ↔
    ('[' ∉ authority ∧ ']' ∉ authority) ∨
      ('[' ∈ authority ∧ ']' ∈ authority) ∧ bracketsFit authority ∧
        (Address.SixteenByte (host authority) ∨ Address.Future (host authority)) := by
  rw [← Address.isLiteral_iff, bracketsAgree]
  by_cases h : '[' ∈ authority <;> by_cases h' : ']' ∈ authority <;> simp [h, h']

private theorem literal_iff (t : Text) :
    Literal t ↔ (Address.SixteenByte t ∨ Address.Future t) ∧ (':' ∈ t ∨ FoldedName t) := by
  constructor
  · rintro (h | ⟨h, seen⟩)
    · exact ⟨.inl h, .inl h.colon_mem⟩
    · exact ⟨.inr h, seen⟩
  · rintro ⟨h | h, seen⟩
    · exact .sixteenByte h
    · exact .future h seen

section
variable {user location host : Text} {port : Option Text}

/-- The host and the port of an authority, in terms of how the model takes it apart. -/
theorem accepts_iff (authority : Text) (h : hostAndPort authority = (host, port)) :
    isWellFormed authority ∧ hasHost authority ↔
      (bracketsAgree authority ∧ (':' ∈ host ∨ FoldedName host)) ∧ Port port ∧
        hidesDelimiter authority = false := by
  have hport : Authority.port authority = port.getD [] := by rw [Authority.port, h]
  have hhost : Authority.host authority = host := by rw [Authority.host, h]
  rw [isWellFormed, hasHost_iff, hport, hhost, port_iff]
  simp only [Bool.and_eq_true, Bool.not_eq_true']
  tauto

variable (isUser : user = [] ∨ ∃ name, user = name ++ ['@'])
include isUser

private theorem agrees_plain_iff (behind : '@' ∉ host ++ portText port)
    (hbracket : '[' ∉ host ++ portText port)
    (hcolon : ':' ∉ host) (hport : Port port) :
    bracketsAgree (user ++ (host ++ portText port)) ∧ (':' ∈ host ∨ FoldedName host) ↔
      WrittenHost user host port := by
  have hhost : Authority.host (user ++ (host ++ portText port)) = host := by
    rw [Authority.host, hostAndPort_plain isUser behind hbracket, cut_host hcolon]
  have hsixteen : ¬ Address.SixteenByte host := fun h => hcolon h.colon_mem
  rw [bracketsAgree_iff, hhost]
  constructor
  · rintro ⟨hagree, hseen⟩
    have hname := hseen.resolve_left hcolon
    have hclosing : ']' ∉ host ++ portText port := by
      rw [List.mem_append, not_or]
      exact ⟨hname.notMem (by decide), hport.notMem (by decide) (by decide)⟩
    refine .name hname fun huser => ?_
    rcases hagree with ⟨hopen, hclose⟩ | ⟨⟨hopen, hclose⟩, -, hliteral⟩
    · rcases huser with h | h
      · exact absurd (List.mem_append_left _ h) hopen
      · exact absurd (List.mem_append_left _ h) hclose
    · exact ⟨⟨(List.mem_append.1 hopen).resolve_right hbracket,
        (List.mem_append.1 hclose).resolve_right hclosing⟩, hliteral.resolve_left hsixteen⟩
  · intro h
    cases h with
    | name hname brackets =>
      have hclosing : ']' ∉ host ++ portText port := by
        rw [List.mem_append, not_or]
        exact ⟨hname.notMem (by decide), hport.notMem (by decide) (by decide)⟩
      refine ⟨?_, .inr hname⟩
      by_cases huser : '[' ∈ user ∨ ']' ∈ user
      · obtain ⟨⟨hopen, hclose⟩, hfuture⟩ := brackets huser
        exact .inr ⟨⟨List.mem_append_left _ hopen, List.mem_append_left _ hclose⟩,
          bracketsFit_plain isUser behind hbracket, .inr hfuture⟩
      · rw [not_or] at huser
        exact .inl ⟨by rw [List.mem_append, not_or]; exact ⟨huser.1, hbracket⟩,
          by rw [List.mem_append, not_or]; exact ⟨huser.2, hclosing⟩⟩
    | literal => simp at hbracket
    | unclosed => simp at hbracket

private theorem agrees_bracketed_iff {t : Text} (behind : '@' ∉ '[' :: (t ++ ']' :: portText port))
    (h : ']' ∉ t) :
    bracketsAgree (user ++ '[' :: (t ++ ']' :: portText port)) ∧ (':' ∈ t ∨ FoldedName t) ↔
      Literal t := by
  have hhost : Authority.host (user ++ '[' :: (t ++ ']' :: portText port)) = t := by
    rw [Authority.host, hostAndPort_bracketed isUser behind h]
  have hfit := (bracketsFit_bracketed isUser behind h).2 ⟨port, rfl⟩
  rw [bracketsAgree_iff, hhost, literal_iff]
  simp [hfit]

private theorem agrees_unclosed_iff {t : Text} (behind : '@' ∉ '[' :: t) (h : ']' ∉ t) :
    bracketsAgree (user ++ '[' :: t) ∧ (':' ∈ t ∨ FoldedName t) ↔ ']' ∈ user ∧ Literal t := by
  have hhost : Authority.host (user ++ '[' :: t) = t := by
    rw [Authority.host, hostAndPort_unclosed isUser behind h]
  have hfit := bracketsFit_unclosed isUser behind h
  rw [bracketsAgree_iff, hhost, literal_iff]
  simp [hfit, h, and_assoc]

end

/-! ### What is accepted -/

section
variable {user host t : Text} {port : Option Text} (isUser : user = [] ∨ ∃ name, user = name ++ ['@'])
include isUser

private theorem accepts_plain_iff (behind : '@' ∉ host ++ portText port)
    (hbracket : '[' ∉ host ++ portText port)
    (hcolon : ':' ∉ host) :
    isWellFormed (user ++ (host ++ portText port)) ∧ hasHost (user ++ (host ++ portText port)) ↔
      WrittenHost user host port ∧ Port port ∧
        hidesDelimiter (user ++ (host ++ portText port)) = false := by
  rw [accepts_iff _ ((hostAndPort_plain isUser behind hbracket).trans (cut_host hcolon port))]
  exact and_congr_left fun hport => agrees_plain_iff isUser behind hbracket hcolon hport.1

private theorem accepts_bracketed_iff (behind : '@' ∉ '[' :: (t ++ ']' :: portText port)) (h : ']' ∉ t) :
    isWellFormed (user ++ '[' :: (t ++ ']' :: portText port)) ∧
        hasHost (user ++ '[' :: (t ++ ']' :: portText port)) ↔
      Literal t ∧ Port port ∧ hidesDelimiter (user ++ '[' :: (t ++ ']' :: portText port)) = false := by
  have hhost := hostAndPort_bracketed isUser behind h
  rw [cut_portText] at hhost
  rw [accepts_iff _ hhost, agrees_bracketed_iff isUser behind h]

private theorem accepts_unclosed_iff (behind : '@' ∉ '[' :: t) (h : ']' ∉ t) :
    isWellFormed (user ++ '[' :: t) ∧ hasHost (user ++ '[' :: t) ↔
      (']' ∈ user ∧ Literal t) ∧ Port none ∧ hidesDelimiter (user ++ '[' :: t) = false := by
  rw [accepts_iff _ (hostAndPort_unclosed isUser behind h), agrees_unclosed_iff isUser behind h]

end

/-- In an accepted authority nothing stands between the user and an opening bracket. -/
theorem exists_bracket {user location : Text} (isUser : user = [] ∨ ∃ name, user = name ++ ['@'])
    (behind : '@' ∉ location) (hbracket : '[' ∈ location) (h : isWellFormed (user ++ location)) :
    ∃ rest, location = '[' :: rest ∧ bracketsFit (user ++ location) := by
  obtain ⟨before, rest, rfl, hno⟩ := List.eq_append_cons_of_mem hbracket
  have hagree := (Bool.and_eq_true_iff.1 (Bool.and_eq_true_iff.1 h).1).1
  have hfit : bracketsFit (user ++ (before ++ '[' :: rest)) := by
    rcases (bracketsAgree_iff _).1 hagree with ⟨hopen, -⟩ | ⟨-, hfit, -⟩
    · exact absurd (List.mem_append_right _ hbracket) hopen
    · exact hfit
  obtain rfl := bracketsFit_front isUser behind hno hfit
  exact ⟨rest, rfl, hfit⟩

/-- What stands behind the user is accepted if and only if it is a host and a port. -/
theorem accepts_iff_writtenHost {user location : Text}
    (isUser : user = [] ∨ ∃ name, user = name ++ ['@'])
    (behind : '@' ∉ location) :
    isWellFormed (user ++ location) ∧ hasHost (user ++ location) ↔
      hidesDelimiter (user ++ location) = false ∧ ∃ host port, location = host ++ portText port ∧
        Port port ∧ WrittenHost user host port := by
  constructor
  · intro h
    by_cases hbracket : '[' ∈ location
    · obtain ⟨rest, rfl, hfit⟩ := exists_bracket isUser behind hbracket h.1
      by_cases hclose : ']' ∈ rest
      · obtain ⟨t, after, rfl, hinside⟩ := List.eq_append_cons_of_mem hclose
        obtain ⟨port, rfl⟩ := (bracketsFit_bracketed isUser behind hinside).1 hfit
        obtain ⟨hliteral, hport, hhides⟩ := (accepts_bracketed_iff isUser behind hinside).1 h
        exact ⟨hhides, '[' :: (t ++ [']']), port, by simp, hport, .literal hinside hliteral⟩
      · obtain ⟨⟨huser, hliteral⟩, hport, hhides⟩ := (accepts_unclosed_iff isUser behind hclose).1 h
        exact ⟨hhides, '[' :: rest, none, (List.append_nil _).symm, hport,
          .unclosed hclose hliteral huser⟩
    · obtain ⟨host, port, rfl, hcolon⟩ := exists_port location
      obtain ⟨hname, hport, hhides⟩ := (accepts_plain_iff isUser behind hbracket hcolon).1 h
      exact ⟨hhides, host, port, rfl, hport, hname⟩
  · rintro ⟨hhides, host, port, rfl, hport, hwritten⟩
    cases hwritten with
    | name hname brackets =>
      have hcolon := hname.notMem (c := ':') (by decide)
      have hbracket : '[' ∉ host ++ portText port := by
        rw [List.mem_append, not_or]
        exact ⟨hname.notMem (by decide), hport.notMem (by decide) (by decide)⟩
      exact (accepts_plain_iff isUser behind hbracket hcolon).2 ⟨.name hname brackets, hport, hhides⟩
    | literal inside literal =>
      rw [List.cons_append, List.append_assoc, List.singleton_append] at behind hhides ⊢
      exact (accepts_bracketed_iff isUser behind inside).2 ⟨literal, hport, hhides⟩
    | unclosed inside literal elsewhere =>
      rw [portText, List.append_nil] at behind hhides ⊢
      exact (accepts_unclosed_iff isUser behind inside).2 ⟨⟨elsewhere, literal⟩, hport, hhides⟩

end Authority

/-! ### URLs -/

private theorem located_iff {authority user host : Text} {port : Option Text} :
    Located authority user host port ↔
    (user = [] ∨ ∃ name, user = name ++ ['@']) ∧ '@' ∉ host ++ portText port ∧
      authority = user ++ (host ++ portText port) := by
  constructor
  · rintro ⟨isUser, behind⟩
    exact ⟨isUser, behind, rfl⟩
  · rintro ⟨isUser, behind, rfl⟩
    exact .mk isUser behind

private theorem accepts_iff_located (authority : Text) :
    Authority.isWellFormed authority ∧ Authority.hasHost authority ↔
      Authority.hidesDelimiter authority = false ∧
        ∃ user host port, Located authority user host port ∧ Port port ∧ WrittenHost user host port := by
  constructor
  · intro h
    obtain ⟨user, location, rfl, isUser, behind⟩ := exists_location authority
    obtain ⟨hhides, host, port, rfl, hport, hwritten⟩ :=
      (Authority.accepts_iff_writtenHost isUser behind).1 h
    exact ⟨hhides, user, host, port, .mk isUser behind, hport, hwritten⟩
  · rintro ⟨hhides, user, host, port, ⟨isUser, behind⟩, hport, hwritten⟩
    exact (Authority.accepts_iff_writtenHost isUser behind).2
      ⟨hhides, host, port, rfl, hport, hwritten⟩

private theorem Scheme.not_isLeadingControl {scheme : Text} (h : Scheme scheme) :
    ∀ c ∈ scheme.head?, ¬ isLeadingControl c := by
  cases scheme with
  | nil => exact h.elim
  | cons c rest =>
    rintro _ ⟨⟩ hcontrol
    have hsmall : c.toNat ≤ 32 := of_decide_eq_true hcontrol
    have hcases : (c.isUpper || c.isLower) = true := h.1
    rcases Bool.or_eq_true_iff.1 hcases with h | h
    · have : 65 ≤ c.toNat := (of_decide_eq_true h).1
      omega
    · have : 97 ≤ c.toNat := of_decide_eq_true (Bool.and_eq_true_iff.1 h).1
      omega

/-- Control characters in front of a scheme are dropped, and nothing else is. -/
theorem dropWhile_scheme {front scheme : Text} (hfront : ∀ c ∈ front, isLeadingControl c)
    (h : Scheme scheme) (rest : Text) :
    (front ++ (scheme ++ ':' :: rest)).dropWhile isLeadingControl = scheme ++ ':' :: rest := by
  refine (Text.takeWhile_dropWhile_iff.2 ⟨rfl, hfront, ?_⟩).2
  cases scheme with
  | nil => exact h.elim
  | cons c scheme => exact h.not_isLeadingControl

private theorem exists_scheme_of_isUrl {t : Text} (h : isUrl t) : ∃ front scheme rest,
    t = front ++ (scheme ++ ':' :: rest) ∧ (∀ c ∈ front, isLeadingControl c) ∧ Scheme scheme := by
  obtain ⟨scheme, rest, hscheme, htext⟩ := exists_scheme_of_isComplete (Bool.and_eq_true_iff.1 h).2
  refine ⟨t.takeWhile isLeadingControl, scheme, rest, ?_, fun c hc => List.mem_takeWhile_imp hc, hscheme⟩
  rw [← htext, List.takeWhile_append_dropWhile]

private theorem isUrl_network_iff {front scheme rest authority path : Text}
    (hfront : ∀ c ∈ front, isLeadingControl c) (hscheme : Scheme scheme) (kind : ¬ PathScheme scheme)
    (hierarchy : Hierarchy rest authority path) :
    isUrl (front ++ (scheme ++ ':' :: rest)) ↔
      (∀ c ∈ front ++ (scheme ++ ':' :: rest), ¬ Unicode.isBlank c) ∧
        Authority.isWellFormed authority ∧ Authority.hasHost authority := by
  have hne : (scheme.map Char.toLower).isEmpty = false := by
    cases scheme with
    | nil => exact hscheme.elim
    | cons => rfl
  rw [isUrl, dropWhile_scheme hfront hscheme, ofText_append hscheme hierarchy, isComplete, hne,
    if_neg (mt (pathScheme_iff scheme).1 kind)]
  simp only [Bool.not_false, Bool.true_and, Bool.and_eq_true, Bool.not_eq_true', List.any_eq_false]

/-- A name, or an address of sixteen bytes in brackets. -/
def ProperHost (host : Text) : Prop :=
  HostName host ∨ ∃ t, host = '[' :: (t ++ [']']) ∧ Address.SixteenByte t

private theorem Address.SixteenByte.not_future {t : Text} (h : SixteenByte t) : ¬ Future t := by
  rintro ⟨-, -, -⟩
  obtain ⟨address, zone, ht, haddress, hzone⟩ := h.characters
  cases address with
  | nil =>
    rw [List.nil_append] at ht
    rw [← ht] at hzone
    exact absurd (hzone 'v' rfl) (by decide)
  | cons c address =>
    obtain ⟨rfl, -⟩ := List.cons.inj ht
    exact absurd (haddress _ List.mem_cons_self) (by decide)

/-- Apart from the Kelvin sign, folding admits no host name that is not one as written. -/
private theorem foldedName_iff {host : Text} (h : '\u212a' ∉ host) :
    FoldedName host ↔ HostName host := by
  have hsame : host.map Unicode.plainKelvin = host := by
    refine (List.map_congr_left fun c hc => ?_).trans (List.map_id host)
    exact if_neg (ne_of_mem_of_not_mem hc h)
  rw [FoldedName, hsame]

private theorem HostName.kelvin_notMem {host : Text} (h : HostName host) : '\u212a' ∉ host := fun hm =>
  absurd (h.ascii _ hm) (by decide)

private theorem HostName.bracket_notMem {host : Text} (h : HostName host) : '[' ∉ host :=
  ((foldedName_iff h.kelvin_notMem).2 h).notMem (by decide)

private theorem not_hostName_bracket (t : Text) : ¬ HostName ('[' :: t) := fun h =>
  h.bracket_notMem List.mem_cons_self

/-- An accepted host is a proper one if no letter of its name is a Kelvin sign, or if it has both
brackets and its address is not of a version to come. -/
theorem WrittenHost.proper_iff {user host : Text} {port : Option Text}
    (h : WrittenHost user host port) : ProperHost host ↔
      '\u212a' ∉ host ∧ '[' ∉ host ∨ ∃ t, host = '[' :: (t ++ [']']) ∧ ¬ Address.Future t := by
  cases h with
  | name hname =>
    have hbracket : '[' ∉ host := hname.notMem (by decide)
    have hopen (t : Text) : host ≠ '[' :: t := by
      rintro rfl
      exact hbracket List.mem_cons_self
    simp only [ProperHost, hopen, false_and, exists_false, or_false, hbracket, not_false_eq_true,
      and_true]
    exact ⟨HostName.kelvin_notMem, fun hkelvin => (foldedName_iff hkelvin).1 hname⟩
  | @literal t _ inside literal =>
    have hinjective (u : Text) : '[' :: (t ++ [']']) = '[' :: (u ++ [']']) ↔ t = u := by simp
    simp only [ProperHost, not_hostName_bracket, false_or, hinjective, exists_eq_left',
      List.mem_cons_self, not_true_eq_false, and_false]
    exact ⟨fun hsixteen => hsixteen.not_future,
      fun hfuture => (((Authority.literal_iff t).1 literal).1).resolve_right hfuture⟩
  | @unclosed t inside literal elsewhere =>
    have hopen (u : Text) : '[' :: t ≠ '[' :: (u ++ [']']) := by
      intro heq
      rw [(List.cons.inj heq).2] at inside
      exact inside (List.mem_append_right u (List.mem_singleton_self _))
    simp only [ProperHost, not_hostName_bracket, hopen, false_and, exists_false, or_false,
      List.mem_cons_self, not_true_eq_false, and_false]

/-- A text without blanks and with a scheme that asks for a host is accepted if and only if its
authority hides no delimiter and is a user, a host and a port. Such a host is a name of ASCII letters,
digits and hyphens, but Kelvin signs count as letters; or it is a literal address in brackets, of
sixteen bytes or of a version to come; or the bracket of such a literal is closed inside the user only.
So it is a name or an address of sixteen bytes in brackets if and only if no Kelvin sign stands for a
letter, both brackets are its own, and the address is none of a version to come. Addresses of sixteen
bytes are written in hexadecimal digits, colons and dots, up to a zone. -/
theorem isUrl_iff_writtenHost (t : Text) :
    (isUrl t → ∃ front scheme rest authority path, t = front ++ (scheme ++ ':' :: rest) ∧
      (∀ c ∈ front, isLeadingControl c) ∧ Scheme scheme ∧ Hierarchy rest authority path) ∧
    (∀ front scheme rest authority path, t = front ++ (scheme ++ ':' :: rest) →
      (∀ c ∈ front, isLeadingControl c) → Scheme scheme → ¬ PathScheme scheme →
      Hierarchy rest authority path →
      (isUrl t ↔ (∀ c ∈ t, ¬ Unicode.isBlank c) ∧ Authority.hidesDelimiter authority = false ∧
        ∃ user host port, Located authority user host port ∧ Port port ∧
          WrittenHost user host port)) ∧
    (∀ user host port, WrittenHost user host port → (ProperHost host ↔
      '\u212a' ∉ host ∧ '[' ∉ host ∨ ∃ u, host = '[' :: (u ++ [']']) ∧ ¬ Address.Future u)) ∧
    ∀ literal, Address.SixteenByte literal → ∃ address zone, literal = address ++ zone ∧
      (∀ c ∈ address, Address.isHexadecimal c ∨ c = ':' ∨ c = '.') ∧ ∀ c ∈ zone.head?, c = '%' := by
  refine ⟨?_, ?_, fun user host port h => h.proper_iff, fun literal h => h.characters⟩
  · intro h
    obtain ⟨front, scheme, rest, htext, hfront, hscheme⟩ := exists_scheme_of_isUrl h
    obtain ⟨authority, path, hierarchy⟩ := exists_hierarchy rest
    exact ⟨front, scheme, rest, authority, path, htext, hfront, hscheme, hierarchy⟩
  · rintro front scheme rest authority path rfl hfront hscheme kind hierarchy
    rw [isUrl_network_iff hfront hscheme kind hierarchy, accepts_iff_located]

/-- A Kelvin sign passes for a letter of a name, an address of a version to come for one of sixteen
bytes, and a bracket behind a user may stay open. -/
theorem kelvin_host_accepted :
    isUrl "http://\u212a.com".toList ∧
    Hierarchy "//\u212a.com".toList "\u212a.com".toList [] ∧
    Located "\u212a.com".toList [] "\u212a.com".toList none ∧
    ¬ HostName "\u212a.com".toList ∧
    isUrl "http://[v1.a:b]".toList ∧ ¬ Address.SixteenByte "v1.a:b".toList ∧
    isUrl "http://]@[::1".toList := by
  refine ⟨by decide +kernel, ?_, ?_, fun h => ?_, by decide +kernel, ?_, by decide +kernel⟩
  · have authorityEnd : RunsUpTo ['/', '?', '#'] "\u212a.com".toList ([] ++ []) := ⟨by simp, by simp⟩
    have pathEnd : RunsUpTo ['?', '#'] [] [] := ⟨by simp, by simp⟩
    simpa using Hierarchy.network authorityEnd pathEnd
  · exact located_iff.2 ⟨.inl rfl, by decide, by simp [portText]⟩
  · exact absurd (h.ascii '\u212a' (by decide)) (by decide)
  · exact mt (Address.isSixteenByte_iff _).2 (by decide)

end FieldRules.Url
