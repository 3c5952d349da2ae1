import FieldRules.Proofs.Url.Host
import Mathlib.Data.Bool.AllAny

/-! The URLs that are accepted, as a grammar of printable ASCII characters without brackets. -/
namespace FieldRules.Url

def Plain (c : Char) : Prop := 0x21 ≤ c.toNat ∧ c.toNat ≤ 0x7e ∧ c ≠ '[' ∧ c ≠ ']'

instance : DecidablePred Plain := fun _ => inferInstanceAs (Decidable (_ ∧ _))

def Scheme : Text → Prop
  | [] => False
  | c :: rest => c.isAlpha ∧ ∀ d ∈ rest, d.isAlphanum ∨ d ∈ ['+', '-', '.']

def PathScheme (scheme : Text) : Prop :=
  ∃ name ∈ ["mailto", "news", "urn", "file"], scheme.map Char.toLower = name.toList

/-- A part of a text that runs up to the first of some characters, or to the end. -/
def RunsUpTo (stops : List Char) (part after : Text) : Prop :=
  (∀ c ∈ part, c ∉ stops) ∧ ∀ c ∈ after.head?, c ∈ stops

/-- What follows the colon after the scheme: perhaps two slashes and an authority, then a path, then
anything from a question mark or a number sign on. -/
inductive Hierarchy : Text → Text → Text → Prop where
  | network {authority path tail : Text}
      (authorityEnd : RunsUpTo ['/', '?', '#'] authority (path ++ tail))
      (pathEnd : RunsUpTo ['?', '#'] path tail) :
      Hierarchy (['/', '/'] ++ authority ++ path ++ tail) authority path
  | bare {path tail : Text} (slashes : ¬ ['/', '/'] <+: path ++ tail)
      (pathEnd : RunsUpTo ['?', '#'] path tail) : Hierarchy (path ++ tail) [] path

/-- The host of an authority, and what follows the colon after it. Users stand in front, each with
an `@` after it. -/
inductive Server : Text → Text → Option Text → Prop where
  | host {host : Text} (user : '@' ∉ host) (colon : ':' ∉ host) : Server host host none
  | port {host port : Text} (user : '@' ∉ host ++ port) (colon : ':' ∉ host) :
      Server (host ++ ':' :: port) host (some port)
  | user (user : Text) {rest host : Text} {port : Option Text} (server : Server rest host port) :
      Server (user ++ '@' :: rest) host port

/-- A scheme, a colon and a hierarchy with a good port; a path scheme asks for an authority or a
path, any other scheme for a host name. -/
inductive Absolute : Text → Prop where
  | path {scheme rest authority path host : Text} {port : Option Text} (isScheme : Scheme scheme)
      (hierarchy : Hierarchy rest authority path) (server : Server authority host port)
      (isPort : Port port) (kind : PathScheme scheme) (content : authority ≠ [] ∨ path ≠ []) :
      Absolute (scheme ++ ':' :: rest)
  | network {scheme rest authority path host : Text} {port : Option Text} (isScheme : Scheme scheme)
      (hierarchy : Hierarchy rest authority path) (server : Server authority host port)
      (isPort : Port port) (kind : ¬ PathScheme scheme) (isHost : HostName host) :
      Absolute (scheme ++ ':' :: rest)

/-! ### Schemes -/

private theorem isScheme_iff (t : Text) : isScheme t ↔ Scheme t := by
  cases t with
  | nil => simp [isScheme, Scheme]
  | cons c rest =>
    have hcharacter (d : Char) : isSchemeCharacter d ↔ d.isAlphanum ∨ d ∈ ['+', '-', '.'] := by
      simp [isSchemeCharacter, or_assoc]
    simp only [isScheme, Scheme, List.head?_cons, Option.any_some, List.all_cons, Bool.and_eq_true,
      List.all_eq_true, hcharacter]
    refine and_congr_right fun h => and_iff_right (.inl ?_)
    rw [Char.isAlphanum, h, Bool.true_or]

private theorem Scheme.colon_notMem {t : Text} (h : Scheme t) : ':' ∉ t := by
  rw [← isScheme_iff, isScheme, Bool.and_eq_true, List.all_eq_true] at h
  exact fun hm => absurd (h.2 _ hm) (by decide)

theorem pathScheme_iff (scheme : Text) :
    pathSchemes.any (·.toList = scheme.map Char.toLower) ↔ PathScheme scheme := by
  simp only [pathSchemes, List.any_eq_true, decide_eq_true_eq]
  exact exists_congr fun name => and_congr_right fun _ => eq_comm

private theorem splitScheme_append {scheme : Text} (h : Scheme scheme) (rest : Text) :
    splitScheme (scheme ++ ':' :: rest) = (scheme.map Char.toLower, rest) := by
  rw [splitScheme, Text.cut_append h.colon_notMem]
  exact if_pos ((isScheme_iff scheme).2 h)

private theorem exists_scheme {t : Text} (h : (splitScheme t).1 ≠ []) :
    ∃ scheme rest, Scheme scheme ∧ t = scheme ++ ':' :: rest := by
  by_cases hm : ':' ∈ t
  · obtain ⟨scheme, rest, rfl, hc⟩ := List.eq_append_cons_of_mem hm
    refine ⟨scheme, rest, (isScheme_iff scheme).1 ?_, rfl⟩
    rw [splitScheme, Text.cut_append hc] at h
    by_contra hs
    exact h (congrArg Prod.fst (if_neg hs))
  · rw [splitScheme, Text.cut_of_notMem hm] at h
    contradiction

/-! ### Hierarchies -/

private theorem runsUpTo_iff {stops : List Char} {t part after : Text} :
    t = part ++ after ∧ RunsUpTo stops part after ↔
      t.takeWhile (· ∉ stops) = part ∧ t.dropWhile (· ∉ stops) = after := by
  rw [Text.takeWhile_dropWhile_iff]
  simp [RunsUpTo]

private theorem splitAuthority_network (t : Text) :
    splitAuthority ('/' :: '/' :: t) =
      (t.takeWhile (· ∉ ['/', '?', '#']), t.dropWhile (· ∉ ['/', '?', '#'])) := by
  simp [splitAuthority, Bool.and_assoc]

private theorem splitAuthority_bare {t : Text} (h : ¬ ['/', '/'] <+: t) :
    splitAuthority t = ([], t) := by
  rw [splitAuthority]
  rintro rest rfl
  exact h (List.prefix_append _ _)

private theorem exists_runsUpTo (stops : List Char) (t : Text) :
    ∃ part after, t = part ++ after ∧ RunsUpTo stops part after :=
  ⟨_, _, runsUpTo_iff.2 ⟨rfl, rfl⟩⟩

/-- Every text behind a scheme has an authority and a path, either of which may be empty. -/
theorem exists_hierarchy (rest : Text) : ∃ authority path, Hierarchy rest authority path := by
  by_cases h : ['/', '/'] <+: rest
  · obtain ⟨t, rfl⟩ := h
    obtain ⟨authority, after, rfl, stop⟩ := exists_runsUpTo ['/', '?', '#'] t
    obtain ⟨path, tail, rfl, stop'⟩ := exists_runsUpTo ['?', '#'] after
    refine ⟨authority, path, ?_⟩
    rw [← List.append_assoc, ← List.append_assoc]
    exact .network stop stop'
  · obtain ⟨path, tail, rfl, stop⟩ := exists_runsUpTo ['?', '#'] rest
    exact ⟨[], path, .bare h stop⟩

private theorem Hierarchy.split {rest authority path : Text} (h : Hierarchy rest authority path) :
    (splitAuthority rest).1 = authority ∧
      (splitAuthority rest).2.takeWhile (· ∉ ['?', '#']) = path := by
  cases h with
  | network stop stop' =>
    obtain ⟨ha, hrest⟩ := runsUpTo_iff.1 ⟨rfl, stop⟩
    rw [List.append_assoc, List.append_assoc, List.cons_append, List.cons_append, List.nil_append,
      splitAuthority_network, ha, hrest]
    exact ⟨rfl, (runsUpTo_iff.1 ⟨rfl, stop'⟩).1⟩
  | bare slashes stop =>
    rw [splitAuthority_bare slashes]
    exact ⟨rfl, (runsUpTo_iff.1 ⟨rfl, stop⟩).1⟩

private theorem Hierarchy.mem_of_mem_authority {rest authority path : Text}
    (h : Hierarchy rest authority path) {c : Char} (hc : c ∈ authority) : c ∈ rest := by
  cases h with
  | network => simp [hc]
  | bare => contradiction

/-- Splitting off scheme, authority and path takes apart what the grammar puts together. -/
theorem ofText_append {scheme rest authority path : Text} (hs : Scheme scheme)
    (h : Hierarchy rest authority path) :
    ofText (scheme ++ ':' :: rest) = ⟨scheme.map Char.toLower, authority, path⟩ := by
  have hstop : (fun c : Char => c ≠ '?' && c ≠ '#') = (· ∉ ['?', '#']) := by
    funext c
    simp
  obtain ⟨ha, hp⟩ := h.split
  simp only [ofText, splitScheme_append hs, ha]
  rw [hstop, hp]

/-! ### Servers -/

theorem location_of_notMem {t : Text} (h : '@' ∉ t) : Authority.location t = t := by
  rw [Authority.location, List.takeWhile_eq_self_iff.2, List.reverse_reverse]
  intro c hc
  simpa using ne_of_mem_of_not_mem (List.mem_reverse.1 hc) h

/-- What stands before the last at sign is no part of the host. -/
theorem location_append (user rest : Text) :
    Authority.location (user ++ '@' :: rest) = Authority.location rest := by
  rw [Authority.location, Authority.location, List.reverse_append, List.reverse_cons,
    List.append_assoc, List.takeWhile_append]
  split
  · next h =>
    rw [(List.takeWhile_prefix _).eq_of_length h, List.cons_append,
      List.takeWhile_cons_of_neg (by simp), List.append_nil]
  · rfl

private theorem exists_server (authority : Text) : ∃ host port, Server authority host port := by
  by_cases hu : '@' ∈ authority
  · obtain ⟨user, rest, heq, -⟩ := List.eq_append_cons_of_mem hu
    have hlt : rest.length < authority.length := by
      rw [heq, List.length_append, List.length_cons]
      omega
    obtain ⟨host, port, h⟩ := exists_server rest
    exact ⟨host, port, heq ▸ .user user h⟩
  · by_cases hp : ':' ∈ authority
    · obtain ⟨host, port, rfl, hc⟩ := List.eq_append_cons_of_mem hp
      exact ⟨host, some port, .port (by simpa using hu) hc⟩
    · exact ⟨authority, none, .host hu hp⟩
termination_by authority.length

private theorem Server.colon_notMem {authority host : Text} {port : Option Text}
    (h : Server authority host port) : ':' ∉ host := by
  induction h with
  | host _ hc | port _ hc => exact hc
  | user _ _ ih => exact ih

private theorem Server.mem_of_mem_host {authority host : Text} {port : Option Text}
    (h : Server authority host port) {c : Char} (hc : c ∈ host) : c ∈ authority := by
  induction h with
  | host => exact hc
  | port => exact List.mem_append_left _ hc
  | user _ _ ih => exact List.mem_append_right _ (List.mem_cons_of_mem _ (ih hc))

private theorem Server.location {authority host : Text} {port : Option Text}
    (h : Server authority host port) : (Authority.location authority).cut ':' = (host, port) := by
  induction h with
  | host hu hc => rw [location_of_notMem hu, Text.cut_of_notMem hc]
  | @port host port hu hc =>
    have hu : '@' ∉ host ++ ':' :: port := by simpa using hu
    rw [location_of_notMem hu, Text.cut_append hc]
  | user user _ ih => rw [location_append, ih]

private theorem Server.split {authority host : Text} {port : Option Text}
    (h : Server authority host port)
    (hb : '[' ∉ authority) : Authority.hostAndPort authority = (host, port) := by
  have hl : '[' ∉ Authority.location authority := fun hm =>
    hb (by simpa using (List.takeWhile_sublist _).subset (List.mem_reverse.1 hm))
  rw [Authority.hostAndPort, Text.cut_of_notMem hl]
  exact h.location

/-! ### URLs -/

private theorem Plain.not_isBlank {c : Char} (h : Plain c) : ¬ Unicode.isBlank c := by
  obtain ⟨hl, hu, -⟩ := h
  simp [Unicode.isBlank, Unicode.isSeparatorControl]
  omega

private theorem Plain.ascii {c : Char} (h : Plain c) : c.toNat < 128 := by
  obtain ⟨-, hu, -⟩ := h
  omega

private theorem Plain.lowerText {t : Text} (ht : ∀ c ∈ t, Plain c) :
    Unicode.lowerText t = t.map Char.toLower :=
  Unicode.lowerAfter_of_ascii [] t fun c hc => (ht c hc).ascii

section
variable {authority host address zone : Text} {port : Option Text}

private theorem bracket_notMem (ha : ∀ c ∈ authority, Plain c) : '[' ∉ authority ∧ ']' ∉ authority :=
  ⟨fun hm => (ha _ hm).2.2.1 rfl, fun hm => (ha _ hm).2.2.2 rfl⟩

private theorem isWellFormed_iff (ha : ∀ c ∈ authority, Plain c) (h : Server authority host port) :
    Authority.isWellFormed authority ↔ Port port := by
  have hbrackets : Authority.bracketsAgree authority := by
    simp [Authority.bracketsAgree, bracket_notMem ha]
  have hforms : Authority.hidesDelimiter authority = false := by
    rw [Authority.hidesDelimiter, List.any_eq_false]
    intro c hc hm
    have := (ha c hc).ascii
    simp [Authority.delimiterForms] at hm
    omega
  have hport : Authority.port authority = port.getD [] := by
    rw [Authority.port, h.split (bracket_notMem ha).1]
  rw [Authority.isWellFormed, hbrackets, hforms, hport, Authority.port_iff]
  rfl

private theorem hostName_of_notMem (ha : ∀ c ∈ authority, Plain c) (h : Server authority host port)
    (hz : '%' ∉ host) : Authority.hostName authority = host.map Char.toLower := by
  rw [Authority.hostName, Authority.host, h.split (bracket_notMem ha).1, Text.cut_of_notMem hz]
  exact Plain.lowerText fun c hc => ha c (h.mem_of_mem_host hc)

private theorem hostName_append (ha : ∀ c ∈ authority, Plain c)
    (h : Server authority (address ++ '%' :: zone) port) (hz : '%' ∉ address) :
    Authority.hostName authority = address.map Char.toLower ++ '%' :: zone := by
  rw [Authority.hostName, Authority.host, h.split (bracket_notMem ha).1, Text.cut_append hz]
  refine congrArg (· ++ '%' :: zone) (Plain.lowerText fun c hc => ha c (h.mem_of_mem_host ?_))
  exact List.mem_append_left _ hc

private theorem colon_notMem_hostName (ha : ∀ c ∈ authority, Plain c) (h : Server authority host port) :
    ':' ∉ Authority.hostName authority := by
  have hlower {t : Text} (ht : ':' ∉ t) : ':' ∉ t.map Char.toLower := by
    intro hm
    obtain ⟨c, hc, hd⟩ := List.mem_map.1 hm
    exact ht ((Unicode.toLower_eq_iff (by decide)).1 hd ▸ hc)
  have hcolon := h.colon_notMem
  by_cases hz : '%' ∈ host
  · obtain ⟨address, zone, rfl, hp⟩ := List.eq_append_cons_of_mem hz
    rw [List.mem_append, not_or] at hcolon
    rw [hostName_append ha h hp, List.mem_append, not_or]
    exact ⟨hlower hcolon.1, hcolon.2⟩
  · rw [hostName_of_notMem ha h hz]
    exact hlower hcolon

private theorem hasHost_iff (ha : ∀ c ∈ authority, Plain c) (h : Server authority host port) :
    Authority.hasHost authority ↔ HostName host := by
  rw [Authority.hasHost, List.contains_eq_mem, decide_eq_false (colon_notMem_hostName ha h),
    Bool.false_or]
  by_cases hz : '%' ∈ host
  · -- with a zone the name is more than the host in lower case, but no label holds a percent sign
    refine iff_of_false (fun hn => Authority.percent_notMem_of_isHostName hn ?_) fun hn =>
      hn.percent_notMem hz
    obtain ⟨address, zone, rfl, hp⟩ := List.eq_append_cons_of_mem hz
    rw [hostName_append ha h hp]
    exact List.mem_append_right _ List.mem_cons_self
  · rw [hostName_of_notMem ha h hz]
    exact Authority.isHostName_map_toLower host

end

private theorem isComplete_iff {scheme rest authority path host : Text} {port : Option Text}
    (ht : ∀ c ∈ scheme ++ ':' :: rest, Plain c) (hs : Scheme scheme)
    (hh : Hierarchy rest authority path) (h : Server authority host port) :
    (ofText (scheme ++ ':' :: rest)).isComplete ↔
      Port port ∧ (PathScheme scheme ∧ (authority ≠ [] ∨ path ≠ []) ∨
        ¬ PathScheme scheme ∧ HostName host) := by
  have hne : (scheme.map Char.toLower).isEmpty = false := by
    cases scheme with
    | nil => exact hs.elim
    | cons => rfl
  have ha : ∀ c ∈ authority, Plain c := fun c hc => ht c
    (List.mem_append_right _ (List.mem_cons_of_mem _ (hh.mem_of_mem_authority hc)))
  have hport := isWellFormed_iff ha h
  rw [ofText_append hs hh, isComplete, hne]
  by_cases hk : PathScheme scheme
  · rw [if_pos ((pathScheme_iff scheme).2 hk)]
    simp [hport, hk]
  · rw [if_neg (mt (pathScheme_iff scheme).1 hk)]
    simp [hport, hk, hasHost_iff ha h]

theorem exists_scheme_of_isComplete {t : Text} (h : (ofText t).isComplete) :
    ∃ scheme rest, Scheme scheme ∧ t = scheme ++ ':' :: rest := by
  refine exists_scheme fun hnil => ?_
  have hscheme : (ofText t).scheme = [] := hnil
  rw [isComplete, hscheme] at h
  contradiction

/-- Plain texts have no blanks, and none in front that would be dropped. -/
theorem isUrl_eq_isComplete {t : Text} (ht : ∀ c ∈ t, Plain c) :
    isUrl t = (ofText t).isComplete := by
  have hblank : t.any Unicode.isBlank = false :=
    List.any_eq_false.2 fun c hc => (ht c hc).not_isBlank
  have hfront : t.dropWhile isLeadingControl = t := by
    cases t with
    | nil => rfl
    | cons c t =>
      refine List.dropWhile_cons_of_neg ?_
      have := (ht c List.mem_cons_self).1
      simp [isLeadingControl]
      omega
  rw [isUrl, hblank, hfront]
  rfl

/-- Acceptance without the code: a text of plain characters passes exactly when the grammar derives
it. -/
theorem isUrl_iff_absolute {t : Text} (ht : ∀ c ∈ t, Plain c) : isUrl t ↔ Absolute t := by
  rw [isUrl_eq_isComplete ht]
  constructor
  · intro h
    obtain ⟨scheme, rest, hs, rfl⟩ := exists_scheme_of_isComplete h
    obtain ⟨authority, path, hh⟩ := exists_hierarchy rest
    obtain ⟨host, port, hserver⟩ := exists_server authority
    rcases (isComplete_iff ht hs hh hserver).1 h with ⟨hport, ⟨hk, hc⟩ | ⟨hk, hhost⟩⟩
    · exact .path hs hh hserver hport hk hc
    · exact .network hs hh hserver hport hk hhost
  · intro h
    cases h with
    | path hs hh hserver hport hk hc =>
      exact (isComplete_iff ht hs hh hserver).2 ⟨hport, .inl ⟨hk, hc⟩⟩
    | network hs hh hserver hport hk hhost =>
      exact (isComplete_iff ht hs hh hserver).2 ⟨hport, .inr ⟨hk, hhost⟩⟩

def mixedCase : Text := "Ftp://ann:x@Files.Example-1.com.:021/a?b@c:9".toList

/-- Capitals in scheme and host, a user with a colon, a dot behind the host, a zero in front of the port,
and a query with an `@` of its own. -/
theorem mixedCase_absolute : (∀ c ∈ mixedCase, Plain c) ∧ isUrl mixedCase ∧ Absolute mixedCase :=
  have plain : ∀ c ∈ mixedCase, Plain c := List.all_iff_forall_prop.1 (by decide)
  have accepted : isUrl mixedCase := by decide
  ⟨plain, accepted, (isUrl_iff_absolute plain).1 accepted⟩

end FieldRules.Url
