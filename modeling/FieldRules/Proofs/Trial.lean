import FieldRules.Checker.Trial

/-! The verdict on a value that passes; and trials that ask for an address: what each answer leaves of
a value, and what a value that gives no address leaves of the asking. -/
namespace FieldRules

/-- A value passes if and only if it fits, when the message can be written. -/
theorem Verdict.ofResult_eq_nil_iff {message : Text} {result : Except Fault Bool} :
    ofResult (.ok message) result = .returned [] ↔ result = .ok true := by
  rcases result with fault | _ | _ <;> simp [ofResult]

namespace Trial
variable {message : Except Fault Text} {field url : Text} {s : Surroundings} {request : Request}

theorem reach_error {fault : Fault} (asked : s.request url = .error fault) :
    reach message field url s = silent message (.error fault) := by
  simp [reach, asked]

/-- An answer below 400 passes and says nothing. -/
theorem reach_passed {code : Int} (asked : s.request url = .ok request)
    (answer : s.respond request = .status code) (low : code < 400) :
    reach message field url s = ⟨.ofResult message (.ok true), [], [request]⟩ := by
  simp [reach, asked, answer, low]

/-- From 400 on the answer is announced with its status. -/
theorem reach_status {code : Int} (asked : s.request url = .ok request)
    (answer : s.respond request = .status code) (high : 400 ≤ code) :
    reach message field url s =
      ⟨.ofResult message (.ok false), [.unreachable field url (.status code)], [request]⟩ := by
  simp [reach, asked, answer, Int.not_lt.2 high]

/-- A host that cannot be reached is announced with the problem in place of a status. -/
theorem reach_unreachable {problem : Text} (asked : s.request url = .ok request)
    (answer : s.respond request = .unreachable problem) :
    reach message field url s =
      ⟨.ofResult message (.ok false), [.unreachable field url (.problem problem)], [request]⟩ := by
  simp [reach, asked, answer]

/-- Every other failure of the request ends the check with a fault. -/
theorem reach_broken {problem : Text} (asked : s.request url = .ok request)
    (answer : s.respond request = .broken problem) :
    reach message field url s =
      ⟨.ofResult message (.error (.network problem)), [], [request]⟩ := by
  simp [reach, asked, answer]

/-- A value asks for an address if its text is one, and for nothing otherwise. -/
theorem isActive_cases (message : Except Fault Text) (field : Text) (v : Value) (s : Surroundings) :
    (∃ url, v.asText = .ok url ∧ Url.isUrl url ∧
        isActive message field v s = reach message field url s) ∨
      (∀ url, v.asText = .ok url → ¬ Url.isUrl url) ∧
        ∃ result, result ≠ .ok true ∧ isActive message field v s = silent message result := by
  unfold isActive
  cases htext : v.asText with
  | error fault => exact .inr ⟨by simp, _, by simp, rfl⟩
  | ok url =>
    by_cases hurl : Url.isUrl url
    · exact .inl ⟨url, rfl, hurl, if_pos hurl⟩
    · refine .inr ⟨by simpa using hurl, _, ?_, if_neg hurl⟩
      simp

end Trial
end FieldRules
