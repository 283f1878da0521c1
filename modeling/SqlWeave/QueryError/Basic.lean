import SqlWeave.QueryError.Code
import SqlWeave.Text.Quoted
import SqlWeave.Text.Utf8

/-!
# Query errors

What went wrong while a statement was composed or run: a cause, from which the code and the
message follow, and what the caller may want to know about the place where it happened.
-/
namespace SqlWeave

/-- Why a statement could not be composed or run. -/
inductive Cause where
  | templateArity (segments values : Nat)
  | raggedBatch (row expected found : Nat)
  | emptyBatch
  | misplacedTable (table : String)
  | unsafeBatchCell (text keyword : String)
  | nestedBatch
  | untrustedIdentifier (kind name : String)
  | connection (message : String)
  | poolExhausted (maxConnections : Nat)
  | timeout (milliseconds : Nat)
  | database (message : String)
  | parameterConversion (message : String)
  | serialization (message : String)
  | configuration (message : String)
  | internal (message : String)
  /-- A code with a message of its own. -/
  | reported (code : ErrorCode) (message : String)
deriving DecidableEq, Repr

namespace Cause

def code : Cause → ErrorCode
  | .templateArity .. => .templateArity
  | .raggedBatch .. => .raggedBatch
  | .emptyBatch => .emptyBatch
  | .misplacedTable _ => .misplacedTable
  | .unsafeBatchCell .. => .unsafeBatchCell
  | .nestedBatch => .nestedBatch
  | .untrustedIdentifier .. => .untrustedIdentifier
  | .connection _ => .connectionFailed
  | .poolExhausted _ => .poolExhausted
  | .timeout _ => .queryTimeout
  | .database _ => .databaseError
  | .parameterConversion _ => .parameterConversion
  | .serialization _ => .serializationError
  | .configuration _ => .invalidConfiguration
  | .internal _ => .internal
  | .reported code _ => code

def message : Cause → String
  | .templateArity segments values =>
    "Template has " ++ toString segments ++ " segments for " ++ toString values ++
      " values; expected " ++ toString (values + 1)
  | .raggedBatch row expected found =>
    "Batch row " ++ toString row ++ " has " ++ toString found ++ " cells, expected " ++
      toString expected ++ " like the first row"
  | .emptyBatch => "Batch must contain at least one non-empty row"
  | .misplacedTable table =>
    "Table " ++ table ++
      " is not preceded by FROM, INSERT INTO, UPDATE, DELETE FROM, JOIN or USING"
  | .unsafeBatchCell text keyword =>
    "Raw batch cell " ++ Text.quoted text ++ " is not the " ++ keyword ++ " keyword"
  | .nestedBatch => "A batch cannot be used as a batch cell"
  | .untrustedIdentifier kind name => "Unknown " ++ kind ++ " " ++ Text.quoted name
  | .connection message => "Connection error: " ++ message
  | .poolExhausted maxConnections =>
    "Connection pool exhausted (max " ++ toString maxConnections ++ " connections)"
  | .timeout milliseconds => "Query timed out after " ++ toString milliseconds ++ "ms"
  | .database message => message
  | .parameterConversion message => "Cannot convert parameter: " ++ message
  | .serialization message => message
  | .configuration message => "Invalid configuration: " ++ message
  | .internal message => "Internal error: " ++ message
  | .reported _ message => message

def suggestions : Cause → List String
  | .templateArity .. =>
    ["Every value must sit between two literal segments, use \"\" for empty ends"]
  | .raggedBatch .. => ["Pad missing cells with Value::raw(\"DEFAULT\") or Value::null()"]
  | .emptyBatch => ["Skip the INSERT entirely when there is nothing to write"]
  | .misplacedTable _ => ["Bind the value as a plain parameter if it is data, not a table name"]
  | .unsafeBatchCell .. => ["Batch cells are parameterized, only the default keyword may be raw"]
  | .untrustedIdentifier .. =>
    ["Identifiers must come from the table definition, never from request input"]
  | .connection _ =>
    ["Check that the database server is running", "Verify the connection URL is correct"]
  | .poolExhausted _ => ["Increase max_connections in pool configuration"]
  | _ => []

/-- The table that the cause itself names. -/
def table? : Cause → Option String
  | .misplacedTable table => some table
  | _ => none

end Cause

/-- A cause with its circumstances. -/
structure QueryError where
  cause : Cause
  /-- What was being done. -/
  operation : Option String
  table : Option String
  sql : Option String
  suggestions : List String
  /-- Did another error lead to this one? -/
  hasSource : Bool
deriving DecidableEq, Repr

namespace QueryError

/-- An error with the circumstances that its cause brings along. -/
def of (cause : Cause) : QueryError := ⟨cause, none, cause.table?, none, cause.suggestions, false⟩

def code (error : QueryError) : ErrorCode := error.cause.code

def message (error : QueryError) : String := error.cause.message

def withOperation (error : QueryError) (operation : String) : QueryError :=
  { error with operation := some operation }

def withTable (error : QueryError) (table : String) : QueryError :=
  { error with table := some table }

def withSql (error : QueryError) (sql : String) : QueryError := { error with sql := some sql }

def withSuggestion (error : QueryError) (suggestion : String) : QueryError :=
  { error with suggestions := error.suggestions ++ [suggestion] }

def withSource (error : QueryError) : QueryError := { error with hasSource := true }

def display (error : QueryError) : String := "[" ++ error.code.text ++ "] " ++ error.message

/-- Reports show at most this many bytes of SQL. -/
def maxShownBytes : Nat := 200

/-- SQL for a report: the whole text if it is short, else its beginning and three dots. -/
def shortenedSql (sql : String) : String :=
  if maxShownBytes < Text.byteLength sql.toList then
    String.ofList (Text.splitBytes maxShownBytes sql.toList).1 ++ "..."
  else sql

/-- A line of the report, if there is something to show. -/
def reportLine (label : String) (shown : Option String) : String :=
  match shown with
  | some text => "  → " ++ label ++ ": " ++ text ++ "\n"
  | none => ""

def suggestionLines (suggestions : List String) : String :=
  String.join (suggestions.zipIdx.map fun (suggestion, i) =>
    "  " ++ toString (i + 1) ++ ". " ++ suggestion ++ "\n")

/-- The error with its circumstances and suggestions, on several lines. -/
def displayFull (error : QueryError) : String :=
  "Error [" ++ error.code.text ++ "]: " ++ error.message ++ "\n" ++
    reportLine "While" error.operation ++ reportLine "Table" error.table ++
    reportLine "SQL" (error.sql.map shortenedSql) ++
    if error.suggestions.isEmpty then ""
    else "\nSuggestions:\n" ++ suggestionLines error.suggestions

end QueryError

end SqlWeave
