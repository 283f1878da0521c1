import SqlWeave.Postgres.Failure

/-!
# Codes of failures

Which code a failure has once it has become a query error, and what callers may tell from it. A
failure and its query error agree on whether the connection is at fault. They agree on whether time
ran out unless the server cancelled a statement: only the query error counts that as a timeout
(`flags_agree_iff`).
-/
namespace SqlWeave.Postgres

namespace Failure

/-- On a connection the SQLSTATE decides, if it has a code of its own. -/
theorem code_wire (error : WireError) : (wire error).toQueryError.code =
    (error.server?.bind fun refusal => codeOfState? refusal.code).getD
      (if error = .closed then .connectionFailed else .databaseError) := by
  have placed : (wire error).toQueryError.code = (wireError error).code := by
    rw [toQueryError]
    split <;> rfl
  rw [placed, wireError]
  split
  next known =>
    rw [known]
    rfl
  next code _ known =>
    rw [known]
    rfl
  next unknown =>
    rw [unknown]
    split <;> rfl

theorem codeOfState?_ne_parameterConversion (state : String) :
    codeOfState? state ≠ some .parameterConversion := by
  unfold codeOfState?
  repeat' split
  all_goals nofun

/-- Only values that do not fit are reported as such. -/
theorem code_eq_parameterConversion_iff {failure : Failure} :
    failure.toQueryError.code = .parameterConversion ↔
      ∃ message, failure = .conversion message := by
  constructor
  · intro code
    cases failure with
    | conversion message => exact ⟨message, rfl⟩
    | pool error => cases error <;> cases code
    | config | timeout => cases code
    | wire error =>
      rw [code_wire] at code
      -- The code comes from the server's SQLSTATE, or else from the kind of failure.
      cases known : error.server?.bind fun refusal => codeOfState? refusal.code with
      | none =>
        rw [known, Option.getD_none] at code
        split at code <;> cases code
      | some other =>
        rw [known, Option.getD_some] at code
        obtain ⟨refusal, -, state⟩ := Option.bind_eq_some_iff.mp known
        exact absurd (code ▸ state) (codeOfState?_ne_parameterConversion refusal.code)
  · rintro ⟨message, rfl⟩
    rfl

/-! ### Connections and time -/

theorem flags_of_isConstraintViolation {code : ErrorCode} :
    code.isConstraintViolation = true → code.isConnection = false ∧ code.isTimeout = false := by
  cases code <;> decide

/-- The codes that a SQLSTATE can have: three for constraints and one for cancelled statements. -/
theorem codeOfState?_cases {state : String} {code : ErrorCode}
    (known : codeOfState? state = some code) :
    code.isConstraintViolation = true ∧ state ≠ "57014" ∨
      code = .queryTimeout ∧ state = "57014" := by
  unfold codeOfState? at known
  split at known
  next unique =>
    cases known
    exact .inl ⟨rfl, by rw [unique]; decide⟩
  split at known
  next foreignKey =>
    cases known
    exact .inl ⟨rfl, by rw [foreignKey]; decide⟩
  split at known
  next notNull =>
    cases known
    exact .inl ⟨rfl, by rw [notNull]; decide⟩
  split at known
  next canceled =>
    cases known
    exact .inr ⟨rfl, canceled⟩
  next => cases known

theorem codeOfState?_canceled : codeOfState? "57014" = some .queryTimeout := by decide

theorem isConnection_of_codeOfState? {state : String} {code : ErrorCode}
    (known : codeOfState? state = some code) : code.isConnection = false := by
  rcases codeOfState?_cases known with ⟨constraint, -⟩ | ⟨rfl, -⟩
  · exact (flags_of_isConstraintViolation constraint).1
  · rfl

theorem isTimeout_of_codeOfState? {state : String} {code : ErrorCode}
    (known : codeOfState? state = some code) : code.isTimeout = true ↔ state = "57014" := by
  rcases codeOfState?_cases known with ⟨constraint, other⟩ | ⟨rfl, canceled⟩
  · simp [(flags_of_isConstraintViolation constraint).2, other]
  · simp [canceled, ErrorCode.isTimeout]

/-- A server that refuses has not ended the connection, whatever the SQLSTATE. -/
theorem isConnection_code_wire (error : WireError) :
    (wire error).toQueryError.code.isConnection = true ↔ error = .closed := by
  rw [code_wire]
  cases known : error.server?.bind fun refusal => codeOfState? refusal.code with
  | none =>
    rw [Option.getD_none]
    split
    next closed => simp [closed, ErrorCode.isConnection]
    next other => simp [other, ErrorCode.isConnection]
  | some code =>
    obtain ⟨refusal, refused, state⟩ := Option.bind_eq_some_iff.mp known
    have opened : error ≠ .closed := by
      rintro rfl
      cases refused
    rw [Option.getD_some, isConnection_of_codeOfState? state]
    simp [opened]

theorem isTimeout_code_wire (error : WireError) :
    (wire error).toQueryError.code.isTimeout = true ↔
      (wire error).sqlState? = some "57014" := by
  rw [code_wire]
  cases error with
  | refused refusal =>
    simp only [WireError.server?, Option.bind_some, sqlState?, Option.some.injEq]
    cases known : codeOfState? refusal.code with
    | none =>
      have other : refusal.code ≠ "57014" := by
        intro canceled
        rw [canceled, codeOfState?_canceled] at known
        cases known
      simp [other, ErrorCode.isTimeout]
    | some code => exact isTimeout_of_codeOfState? known
  | closed | unsendable | unencodable | other =>
    simp [WireError.server?, sqlState?, ErrorCode.isTimeout]

theorem isConnection_toQueryError (failure : Failure) :
    failure.toQueryError.code.isConnection = true ↔ failure.isConnection = true := by
  cases failure with
  | wire error =>
    rw [isConnection_code_wire]
    simp [isConnection]
  | pool error => cases error <;> exact Iff.rfl
  | config | conversion | timeout => exact Iff.rfl

/-- The query error also counts a cancelled statement as a timeout. -/
theorem isTimeout_toQueryError (failure : Failure) :
    failure.toQueryError.code.isTimeout = true ↔
      failure.isTimeout = true ∨ failure.sqlState? = some "57014" := by
  cases failure with
  | wire error =>
    rw [isTimeout_code_wire]
    simp [isTimeout]
  | pool error =>
    have noState : (pool error).sqlState? ≠ some "57014" := nofun
    cases error <;> simp only [noState, or_false] <;> exact Iff.rfl
  | config message | conversion message | timeout milliseconds =>
    simp only [sqlState?, reduceCtorEq, or_false]
    exact Iff.rfl

/-- What the server reports is never a timeout of its own. -/
theorem isTimeout_of_sqlState? {failure : Failure} {state : String}
    (reported : failure.sqlState? = some state) : failure.isTimeout = false := by
  cases failure with
  | wire => rfl
  | pool | config | conversion | timeout => cases reported

theorem flags_agree_iff (failure : Failure) :
    (failure.toQueryError.code.isConnection = true ↔ failure.isConnection = true) ∧
      (failure.toQueryError.code.isTimeout = true ↔
        failure.isTimeout = true ∨ failure.sqlState? = some "57014") ∧
      ((failure.toQueryError.code.isTimeout = true ↔ failure.isTimeout = true) ↔
        failure.sqlState? ≠ some "57014") := by
  refine ⟨isConnection_toQueryError failure, isTimeout_toQueryError failure, ?_⟩
  rw [isTimeout_toQueryError]
  constructor
  · intro agree canceled
    have timeout := agree.mp (.inr canceled)
    rw [isTimeout_of_sqlState? canceled] at timeout
    cases timeout
  · intro other
    simp [other]

/-- The server ran out of patience with a statement: the query error is a timeout, the failure that
it came from is none. -/
theorem flags_disagree_canceled :
    let failure := wire (.refused ⟨"57014", "canceling statement due to statement timeout", none⟩)
    failure.toQueryError.code.isTimeout = true ∧ failure.isTimeout = false := by
  decide

end Failure

end SqlWeave.Postgres
