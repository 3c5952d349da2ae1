import FieldRules.Text

/-!
Tests of email addresses.
-/

namespace FieldRules

/-- A test that texts pass as email addresses. It asks for an at sign, with a mailbox of ASCII
characters in front of it; what it takes as a domain is its own affair. -/
structure AddressTest where
  accepts : Text → Bool
  parts {t : Text} (h : accepts t) :
    ∃ mailbox domain : Text, t = mailbox ++ '@' :: domain ∧ '@' ∉ mailbox ∧ mailbox.isAscii

def AddressTest.never : AddressTest := ⟨fun _ => false, nofun⟩

/-- Nothing is accepted that has no at sign: all that the other kinds of values need of the test. -/
theorem AddressTest.at_mem (test : AddressTest) {t : Text} (h : test.accepts t) : '@' ∈ t := by
  obtain ⟨mailbox, domain, rfl, -⟩ := test.parts h
  simp

end FieldRules
