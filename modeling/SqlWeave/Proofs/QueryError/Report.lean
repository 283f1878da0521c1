import SqlWeave.Proofs.Text.Boundary
import SqlWeave.QueryError.Basic

/-!
# Reports of errors

A report shows the SQL of an error on a line of its own, whole if it is short, else cut between two
characters (`displayFull_withSql`). Nothing else in the report depends on it.
-/
namespace SqlWeave.QueryError

open Text (byteLength)

/-- What is kept of a text of SQL that is too long for a report. -/
structure Shortens (sql kept : String) : Prop where
  /-- The text can be cut at the boundary that is found from byte 200 downwards. -/
  sliced : Text.slice? 0 (Text.lastBoundary sql.toList 200) sql.toList = some kept.toList
  begins : kept.toList <+: sql.toList
  longest : ∀ front, front <+: sql.toList → byteLength front ≤ 200 → front <+: kept.toList
  atMost : kept.utf8ByteSize ≤ 200
  atLeast : 197 ≤ kept.utf8ByteSize

theorem shortens_splitBytes {sql : String} (long : 200 < sql.utf8ByteSize) :
    Shortens sql (String.ofList (Text.splitBytes 200 sql.toList).1) := by
  rw [Text.utf8ByteSize_eq_byteLength] at long
  constructor
  case sliced =>
    rw [String.toList_ofList]
    exact Text.slice?_lastBoundary sql.toList 200
  case begins =>
    rw [String.toList_ofList]
    exact Text.splitBytes_isPrefix 200 sql.toList
  case longest =>
    intro front begins within
    rw [String.toList_ofList]
    exact Text.isPrefix_splitBytes begins within
  case atMost =>
    rw [Text.utf8ByteSize_eq_byteLength, String.toList_ofList]
    exact Text.byteLength_splitBytes_le 200 sql.toList
  case atLeast =>
    rw [Text.utf8ByteSize_eq_byteLength, String.toList_ofList]
    have rest := Text.lt_byteLength_splitBytes long
    omega

theorem shortenedSql_of_short {sql : String} (short : sql.utf8ByteSize ≤ 200) :
    shortenedSql sql = sql := by
  rw [Text.utf8ByteSize_eq_byteLength] at short
  exact if_neg (Nat.not_lt.mpr short)

theorem shortenedSql_of_long {sql : String} (long : 200 < sql.utf8ByteSize) :
    shortenedSql sql = String.ofList (Text.splitBytes 200 sql.toList).1 ++ "..." := by
  rw [Text.utf8ByteSize_eq_byteLength] at long
  exact if_pos long

/-! ### The rest of the report -/

/-- The lines in front of the one that shows the SQL. -/
def reportHead (error : QueryError) : String :=
  "Error [" ++ error.code.text ++ "]: " ++ error.message ++ "\n" ++
    reportLine "While" error.operation ++ reportLine "Table" error.table

/-- The lines behind it. -/
def reportFoot (error : QueryError) : String :=
  if error.suggestions.isEmpty then ""
  else "\nSuggestions:\n" ++ suggestionLines error.suggestions

theorem displayFull_eq (error : QueryError) : error.displayFull =
    error.reportHead ++ reportLine "SQL" (error.sql.map shortenedSql) ++ error.reportFoot := rfl

theorem reportLine_sql (shown : String) :
    reportLine "SQL" (some shown) = "  → SQL: " ++ shown ++ "\n" := rfl

/-- A report with SQL is the report without it and one more line. -/
theorem displayFull_withSql (error : QueryError) :
    ∃ head foot, { error with sql := none }.displayFull = head ++ foot ∧ ∀ sql, ∃ shown,
      (error.withSql sql).displayFull = head ++ ("  → SQL: " ++ shown ++ "\n") ++ foot ∧
      (sql.utf8ByteSize ≤ 200 → shown = sql) ∧
      (200 < sql.utf8ByteSize → ∃ kept, shown = kept ++ "..." ∧ Shortens sql kept) := by
  refine ⟨error.reportHead, error.reportFoot, ?_, fun sql => ⟨shortenedSql sql, ?_, ?_, ?_⟩⟩
  · -- Without SQL the line is empty.
    rw [displayFull_eq]
    exact congrArg (· ++ error.reportFoot) String.append_empty
  · rw [displayFull_eq, ← reportLine_sql]
    rfl
  · exact shortenedSql_of_short
  · intro long
    exact ⟨_, shortenedSql_of_long long, shortens_splitBytes long⟩

/-- Characters of three bytes do not fill the 200 bytes. -/
example : (Text.splitBytes 200 (List.replicate 67 '€')).1 = List.replicate 66 '€' := by
  decide +kernel

end SqlWeave.QueryError
