import SqlWeave.Environment
import SqlWeave.Postgres.Failure
import SqlWeave.Url.Reader

/-!
# Connection settings

Where the server is and who asks. The settings come from a URL, from an environment that holds one,
or are put together one by one; what is put together overrides the URL.
-/
namespace SqlWeave.Postgres

/-- Times are in milliseconds. -/
structure ConnectionSettings where
  host : String
  port : Nat
  database : String
  user : String
  password : Option String
  connectTimeout : Nat
  /-- The server cancels statements after this time. -/
  statementTimeout : Option Nat
  applicationName : Option String
deriving DecidableEq, Repr

inductive SettingsProblem where
  | url (error : Url.UrlError)
  | scheme (found : String)
  | noHost
  | noDatabase
  | connectTimeout
  | statementTimeout
  | sslMode (mode : String)
  | unknownParameter (name : String)
  | noVariable
  | databaseRequired
  | noTarget
  | noConnections
deriving DecidableEq, Repr

def SettingsProblem.message : SettingsProblem → String
  | .url error => "invalid database URL: " ++ error.message
  | .scheme found => "invalid scheme: expected 'postgresql' or 'postgres', got '" ++ found ++ "'"
  | .noHost => "missing host in URL"
  | .noDatabase => "missing database name in URL"
  | .connectTimeout => "invalid connect_timeout"
  | .statementTimeout => "invalid statement_timeout"
  | .sslMode mode => "unsupported sslmode: " ++ mode
  | .unknownParameter name => "unknown connection parameter: " ++ name
  | .noVariable => "TAGSQL_DATABASE_URL or DATABASE_URL must be set"
  | .databaseRequired => "database name is required"
  | .noTarget => "no database URL or config provided"
  | .noConnections => "max_connections must be at least 1"

def SettingsProblem.toFailure (problem : SettingsProblem) : Failure := .config problem.message

namespace ConnectionSettings

/-- The settings of a database on this machine. -/
def onThisMachine (database : String) : ConnectionSettings :=
  ⟨"localhost", 5432, database, "postgres", none, 30000, none, none⟩

/-- Applies a parameter of the query of a URL. -/
def applyParameter (settings : ConnectionSettings) (parameter : String × String) :
    Except SettingsProblem ConnectionSettings :=
  let (name, value) := parameter
  if name = "connect_timeout" then
    match Text.readWord64? value.toList with
    | some seconds => .ok { settings with connectTimeout := seconds * 1000 }
    | none => .error .connectTimeout
  else if name = "statement_timeout" then
    match Text.readWord64? value.toList with
    | some milliseconds => .ok { settings with statementTimeout := some milliseconds }
    | none => .error .statementTimeout
  else if name = "application_name" then .ok { settings with applicationName := some value }
  else if name = "sslmode" then
    if value = "disable" ∨ value = "prefer" then .ok settings else .error (.sslMode value)
  else .error (.unknownParameter name)

/-- A part of a URL; an empty user name stands for the usual one. -/
def userOf (username : List Char) : String :=
  if username.isEmpty then "postgres" else String.ofList username

/-- The settings of a URL; user, password and database stay percent-encoded. -/
def ofUrl (text : String) : Except SettingsProblem ConnectionSettings := do
  let url ← (Url.read text).mapError .url
  if url.scheme ≠ "postgresql" ∧ url.scheme ≠ "postgres" then throw (.scheme url.scheme)
  let some location := url.location | throw .noHost
  let some host := location.authority.host | throw .noHost
  let database := location.path.dropWhile (· = '/')
  if database.isEmpty then throw .noDatabase
  let userinfo := location.authority.userinfo
  let settings := { onThisMachine (String.ofList database) with
    host := String.ofList host
    port := location.authority.port.getD 5432
    user := userOf userinfo.username
    password := userinfo.password.map String.ofList }
  location.query.foldlM applyParameter settings

/-- The variables that may hold a URL; the first one that is set counts. -/
def urlVariables : List String := ["TAGSQL_DATABASE_URL", "DATABASE_URL"]

def ofEnvironment (env : Environment) : Except SettingsProblem ConnectionSettings :=
  match urlVariables.findSome? env with
  | some url => ofUrl url
  | none => .error .noVariable

structure Parts where
  url : Option String := none
  host : Option String := none
  port : Option Nat := none
  database : Option String := none
  user : Option String := none
  password : Option String := none
  connectTimeout : Option Nat := none
  statementTimeout : Option Nat := none
  applicationName : Option String := none

/-- What the parts start from: the URL, or a database on this machine. -/
def Parts.base (parts : Parts) : Except SettingsProblem ConnectionSettings :=
  match parts.url, parts.database with
  | some url, _ => ofUrl url
  | none, some database => .ok (onThisMachine database)
  | none, none => .error .databaseRequired

def Parts.build (parts : Parts) : Except SettingsProblem ConnectionSettings :=
  parts.base.map fun base =>
    { host := parts.host.getD base.host
      port := parts.port.getD base.port
      database := parts.database.getD base.database
      user := parts.user.getD base.user
      password := parts.password.or base.password
      connectTimeout := parts.connectTimeout.getD base.connectTimeout
      statementTimeout := parts.statementTimeout.or base.statementTimeout
      applicationName := parts.applicationName.or base.applicationName }

/-- A host that starts with a slash is a socket of this machine. -/
def isSocket (settings : ConnectionSettings) : Bool := settings.host.toList.head? = some '/'

def options? (settings : ConnectionSettings) : Option String :=
  settings.statementTimeout.map fun milliseconds =>
    "-c statement_timeout=" ++ toString milliseconds

/-- A URL for logs, without the password. -/
def redacted (settings : ConnectionSettings) : String :=
  "postgresql://" ++ settings.user ++ "@" ++ settings.host ++ ":" ++ toString settings.port ++
    "/" ++ settings.database

/-- What a new connection tells the server. -/
def startup (settings : ConnectionSettings) : List (String × String) :=
  [("client_encoding", "UTF8"), ("user", settings.user), ("database", settings.database)] ++
    (settings.options?.map (("options", ·))).toList ++
    (settings.applicationName.map (("application_name", ·))).toList

end ConnectionSettings

end SqlWeave.Postgres
