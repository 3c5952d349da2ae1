import FieldRules.Proofs.Run.Contribution
import FieldRules.Proofs.Text

/-! Addresses that pass. A test of addresses is asked about texts that are not empty. It answers for the
mailbox to be ASCII, and for the domain to be nothing in particular. -/
namespace FieldRules

private theorem AddressTest.isAscii_mailbox (test : AddressTest) {mailbox domain : Text}
    (h : test.accepts (mailbox ++ '@' :: domain)) (hat : '@' ∉ mailbox) : mailbox.isAscii := by
  obtain ⟨mailbox', domain', hparts, hat', hascii⟩ := test.parts h
  -- a text has one first at sign
  have hcut := Text.cut_append hat domain
  rw [hparts, Text.cut_append hat' domain'] at hcut
  obtain ⟨rfl, -⟩ := Prod.mk.inj hcut
  exact hascii

private theorem AddressTest.isAscii_iff (test : AddressTest) {mailbox domain : Text}
    (h : test.accepts (mailbox ++ '@' :: domain)) (hat : '@' ∉ mailbox) :
    Text.isAscii (mailbox ++ '@' :: domain) ↔ domain.isAscii := by
  have hmailbox := Text.isAscii_iff.1 (test.isAscii_mailbox h hat)
  have hsign : '@'.toNat < 128 := by decide
  simp only [Text.isAscii_iff, List.forall_mem_append, List.forall_mem_cons, hsign, true_and]
  exact and_iff_right hmailbox

private theorem Trial.isEmailAddress_iff {addresses : AddressTest} {v : Value} :
    Trial.isEmailAddress addresses v ↔ ∃ t, v = .text t ∧ t ≠ [] ∧ addresses.accepts t := by
  cases v <;> simp [Trial.isEmailAddress]

private theorem email_verdict (field : Text) (v : Value) (data : FieldMap Value) (s : Surroundings)
    (argument : Option Text) :
    (Checker.email.check field v data s argument).verdict = .returned
      (if Trial.isEmailAddress s.addresses v then [] else [Checker.email.failureMessage argument]) := by
  change Verdict.ofResult (.ok (Checker.email.failureMessage argument))
    (.ok (Trial.isEmailAddress s.addresses v)) = _
  cases Trial.isEmailAddress s.addresses v <;> rfl

/-- The values that pass `email` are the texts that are not empty and that the test takes; all others get
the message of the rule. Such a text has a mailbox of ASCII characters in front of its first at sign, and
is ASCII if and only if its domain is. So the values that pass are ASCII texts as far as the test takes no
other domains, and no further. -/
theorem email_isAscii_iff_domain (field : Text) (v : Value) (data : FieldMap Value) (s : Surroundings)
    (argument : Option Text) :
    let verdict := (Checker.email.check field v data s argument).verdict
    let passes := verdict = .returned []
    (passes ↔ ∃ t, v = .text t ∧ t ≠ [] ∧ s.addresses.accepts t) ∧
    (¬ passes ↔ verdict = .returned [Checker.email.failureMessage argument]) ∧
    (passes → ∃ mailbox domain : Text, v = .text (mailbox ++ '@' :: domain) ∧ '@' ∉ mailbox ∧
      mailbox.isAscii ∧ (Text.isAscii (mailbox ++ '@' :: domain) ↔ domain.isAscii)) ∧
    ((passes → ∃ t, v = .text t ∧ t ≠ [] ∧ t.isAscii) ↔
      ∀ mailbox domain : Text, v = .text (mailbox ++ '@' :: domain) → '@' ∉ mailbox →
        s.addresses.accepts (mailbox ++ '@' :: domain) → domain.isAscii) := by
  intro verdict passes
  have hverdict : verdict = _ := email_verdict field v data s argument
  have hpasses : passes ↔ ∃ t, v = .text t ∧ t ≠ [] ∧ s.addresses.accepts t := by
    rw [← Trial.isEmailAddress_iff]
    simp only [passes, hverdict]
    split <;> simp [*]
  have hparts (hp : passes) : ∃ mailbox domain : Text, v = .text (mailbox ++ '@' :: domain) ∧
      '@' ∉ mailbox ∧ s.addresses.accepts (mailbox ++ '@' :: domain) := by
    obtain ⟨t, rfl, -, haccepts⟩ := hpasses.1 hp
    obtain ⟨mailbox, domain, rfl, hat, -⟩ := s.addresses.parts haccepts
    exact ⟨mailbox, domain, rfl, hat, haccepts⟩
  refine ⟨hpasses, ?_, fun hp => ?_, fun honly mailbox domain hv hat haccepts => ?_, fun hdomain hp => ?_⟩
  · simp only [passes, hverdict]
    split <;> simp
  · obtain ⟨mailbox, domain, hv, hat, haccepts⟩ := hparts hp
    exact ⟨mailbox, domain, hv, hat, s.addresses.isAscii_mailbox haccepts hat,
      s.addresses.isAscii_iff haccepts hat⟩
  · obtain ⟨t, ht, -, hascii⟩ := honly (hpasses.2 ⟨_, hv, by simp, haccepts⟩)
    rw [hv] at ht
    obtain rfl := Value.text.inj ht
    exact (s.addresses.isAscii_iff haccepts hat).1 hascii
  · obtain ⟨mailbox, domain, hv, hat, haccepts⟩ := hparts hp
    have hascii := hdomain mailbox domain hv hat haccepts
    exact ⟨_, hv, by simp, (s.addresses.isAscii_iff haccepts hat).2 hascii⟩

/-- A test that takes one address, which has an umlaut in its domain. -/
def umlautTest : AddressTest where
  accepts t := t = "user@b\u00fccher.de".toList
  parts h := ⟨"user".toList, "b\u00fccher.de".toList, of_decide_eq_true h, by decide, by decide⟩

/-- With such a test a domain with an umlaut passes. -/
theorem umlaut_domain_accepted :
    (Checker.email.check "a".toList (.text "user@b\u00fccher.de".toList) .empty
      { Surroundings.offline with addresses := umlautTest } none).verdict = .returned [] ∧
    ¬ Text.isAscii "user@b\u00fccher.de".toList := by decide +kernel

end FieldRules
