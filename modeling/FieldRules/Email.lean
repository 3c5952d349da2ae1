import FieldRules.AddressTest
import FieldRules.Host
import FieldRules.Unicode.Case

/-!
A test of email addresses: a mailbox of ASCII characters, an at sign and a host name.
-/

namespace FieldRules.Email

def isAtomCharacter (c : Char) : Bool :=
  c.isAlphanum || "!#$%&'*+-/=?^_`\x7b|\x7d~".toList.contains c

def isDotAtom (t : Text) : Bool :=
  (t.split '.').all fun atom => !atom.isEmpty && atom.all isAtomCharacter

def lengthLimit : Nat := 254

def isShort (t : Text) : Bool := (t.map (·.utf8Size)).foldr (· + ·) 0 ≤ lengthLimit

/-- Whether `t` is an address. It is short enough as it is, with its host in Unicode form and with
its host in ASCII form. -/
def isAddress (t : Text) : Bool :=
  match t.cut '@' with
  | (mailbox, some domain) =>
    isDotAtom mailbox && isShort t && match Host.ofText? domain with
      | some host =>
        isShort (mailbox ++ '@' :: host.unicode) && isShort (mailbox ++ '@' :: host.ascii)
      | none => false
  | (_, none) => false

private theorem ascii_of_isAtomCharacter {c : Char} (h : isAtomCharacter c) : c.toNat < 128 := by
  simp only [isAtomCharacter, Bool.or_eq_true, List.contains_iff_mem] at h
  rcases h with h | h
  · exact Unicode.ascii_of_isAlphanum h
  · have hothers : "!#$%&'*+-/=?^_`\x7b|\x7d~".toList.all fun c => c.toNat < 128 := by decide +kernel
    exact of_decide_eq_true (List.all_eq_true.1 hothers c h)

private theorem isAscii_of_pieces {t : Text}
    (h : ∀ atom ∈ t.split '.', ∀ c ∈ atom, isAtomCharacter c) : t.isAscii := by
  induction t with
  | nil => rfl
  | cons c t ih =>
    simp only [Text.split, Text.pieces] at h ih
    rw [Text.isAscii, List.all_cons, Bool.and_eq_true, decide_eq_true_eq]
    split at h
    · rename_i hc
      exact ⟨hc ▸ by decide, ih fun atom hatom => h atom (List.mem_cons_of_mem _ hatom)⟩
    · simp only [List.forall_mem_cons] at h ih
      exact ⟨ascii_of_isAtomCharacter h.1.1, ih ⟨h.1.2, h.2⟩⟩

/-- The mailbox is ASCII, whatever letters the domain has. -/
private theorem isAscii_of_isDotAtom {t : Text} (h : isDotAtom t) : t.isAscii := by
  refine isAscii_of_pieces fun atom hatom c hc => ?_
  have hall := List.all_eq_true.1 h atom hatom
  exact List.all_eq_true.1 (Bool.and_eq_true_iff.1 hall).2 c hc

/-- The test of addresses that runs are tried with. -/
def addresses : AddressTest where
  accepts := isAddress
  parts {t} h := by
    rcases hcut : t.cut '@' with ⟨mailbox, _ | domain⟩
    · simp [isAddress, hcut] at h
    · simp only [isAddress, hcut, Bool.and_eq_true] at h
      obtain ⟨rfl, hmailbox⟩ := Text.append_of_cut hcut
      exact ⟨mailbox, domain, rfl, hmailbox, isAscii_of_isDotAtom h.1.1⟩

end FieldRules.Email
