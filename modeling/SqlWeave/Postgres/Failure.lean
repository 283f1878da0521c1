import SqlWeave.QueryError.Basic

/-!
# Failures of database access

What goes wrong between a statement and its rows: the server refuses, a connection is lost, the
pool has none to give, or values do not fit their types. A failure tells whether it is about the
connection or about time, and so does the query error that it turns into.
-/
namespace SqlWeave.Postgres

structure ServerError where
  /-- The SQLSTATE. -/
  code : String
  message : String
  table : Option String
deriving DecidableEq, Repr

inductive WireError where
  | refused (error : ServerError)
  | closed
  /-- The parameter of this number, counted from zero, cannot be sent. -/
  | unsendable (parameter : Nat)
  /-- A text that the server is told cannot be sent. -/
  | unencodable
  /-- Anything else that the driver reports, in its own words. -/
  | other (text : String)
deriving DecidableEq, Repr

namespace WireError

def text : WireError → String
  | .refused _ => "db error"
  | .closed => "connection closed"
  | .unsendable parameter => "error serializing parameter " ++ toString parameter
  | .unencodable => "error encoding message to server"
  | .other text => text

def server? : WireError → Option ServerError
  | .refused error => some error
  | _ => none

end WireError

/-- What a pool was doing when its time ran out. -/
inductive PoolPhase where
  | wait | create | recycle
deriving DecidableEq, Repr

def PoolPhase.name : PoolPhase → String
  | .wait => "Wait"
  | .create => "Create"
  | .recycle => "Recycle"

inductive PoolError where
  | timeout (phase : PoolPhase)
  | connect (error : WireError)
  | closed
  | noRuntime
  /-- What was to be done with each new connection failed, in the words of whoever asked for it. -/
  | hook (text : String)
deriving DecidableEq, Repr

def PoolError.text : PoolError → String
  | .timeout .wait => "Timeout occurred while waiting for a slot to become available"
  | .timeout .create => "Timeout occurred while creating a new object"
  | .timeout .recycle => "Timeout occurred while recycling an object"
  | .connect error => "Error occurred while creating a new object: " ++ error.text
  | .closed => "Pool has been closed"
  | .noRuntime => "No runtime specified"
  | .hook text => text

inductive Failure where
  | pool (error : PoolError)
  | wire (error : WireError)
  | config (message : String)
  | conversion (message : String)
  | timeout (milliseconds : Nat)
deriving DecidableEq, Repr

namespace Failure

def message : Failure → String
  | .pool error => "pool error: " ++ error.text
  | .wire error => "postgres error: " ++ error.text
  | .config message => "configuration error: " ++ message
  | .conversion message => "type conversion error: " ++ message
  | .timeout milliseconds => "operation timed out after " ++ toString milliseconds ++ "ms"

/-- Is there no connection, or none any more? -/
def isConnection : Failure → Bool
  | .pool _ => true
  | .wire error => error = .closed
  | _ => false

def isTimeout : Failure → Bool
  | .timeout _ => true
  | .pool (.timeout _) => true
  | _ => false

def sqlState? : Failure → Option String
  | .wire (.refused error) => some error.code
  | _ => none

/-- The code for a SQLSTATE that has one of its own. -/
def codeOfState? (state : String) : Option ErrorCode :=
  if state = "23505" then some .uniqueConstraint
  else if state = "23503" then some .foreignKeyConstraint
  else if state = "23502" then some .notNullConstraint
  else if state = "57014" then some .queryTimeout
  else none

/-- The error for a failure on a connection, before its circumstances. -/
def wireError (error : WireError) : QueryError :=
  let message := match error.server? with
    | some refusal => refusal.message
    | none => error.text
  match error.server?.bind fun refusal => codeOfState? refusal.code with
  | some .queryTimeout =>
    (QueryError.of (.reported .queryTimeout message)).withSuggestion
      "Raise statement_timeout or narrow the query"
  | some code => QueryError.of (.reported code message)
  | none =>
    QueryError.of (if error = .closed then .connection message else .database message)

/-- The error for callers that run queries. -/
def toQueryError : Failure → QueryError
  | .pool (.timeout phase) =>
    (QueryError.of (.reported .connectionTimeout
      ("Timed out waiting for a connection (" ++ phase.name ++ ")"))).withSuggestion
      "Increase max_connections or the pool wait timeout"
  | .pool error => (QueryError.of (.connection error.text)).withSource
  | .wire error =>
    let mapped := wireError error
    let placed := match error.server?.bind (·.table) with
      | some table => mapped.withTable table
      | none => mapped
    placed.withSource
  | .config message => QueryError.of (.configuration message)
  | .conversion message => QueryError.of (.parameterConversion message)
  | .timeout milliseconds => QueryError.of (.timeout milliseconds)

end Failure

end SqlWeave.Postgres
