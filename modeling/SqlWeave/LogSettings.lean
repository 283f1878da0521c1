import SqlWeave.Environment
import SqlWeave.Text.Case

/-!
# Settings for logging

Logging is asked for by variables. Their values are words, in any case; an unknown word counts as
none.
-/
namespace SqlWeave

inductive LogLevel where
  | trace | debug | info | warn | error
deriving DecidableEq, Repr

def LogLevel.name : LogLevel → String
  | .trace => "trace"
  | .debug => "debug"
  | .info => "info"
  | .warn => "warn"
  | .error => "error"

inductive LogFormat where
  | json | pretty | compact
deriving DecidableEq, Repr

def LogFormat.name : LogFormat → String
  | .json => "json"
  | .pretty => "pretty"
  | .compact => "compact"

structure LogSettings where
  debug : Bool
  level : LogLevel
  format : LogFormat
  /-- Did anything ask for logging? -/
  requested : Bool
deriving DecidableEq, Repr

namespace LogSettings

def debugVariable : String := "TAGSQL_DEBUG"

def levelVariable : String := "TAGSQL_LOG_LEVEL"

def formatVariable : String := "TAGSQL_LOG_FORMAT"

/-- The value of a variable in lower case. -/
def word? (env : Environment) (name : String) : Option String :=
  (env name).map fun text => String.ofList (Text.lowered text)

def isYes (word : String) : Bool := word = "true" || word = "1" || word = "yes"

/-- Debugging lowers the level of an environment that does not name one. -/
def ofEnvironment (env : Environment) : LogSettings :=
  let debug := (word? env debugVariable).any isYes
  let named := [LogLevel.trace, .debug, .info, .warn, .error].find? fun level =>
    word? env levelVariable = some level.name
  let format := [LogFormat.pretty, .compact].find? fun format =>
    word? env formatVariable = some format.name
  { debug
    level := named.getD (if debug then .debug else .warn)
    format := format.getD .json
    requested := debug || (env levelVariable).isSome }

/-- The level for each part of the program. -/
def directive (settings : LogSettings) : String :=
  ",".intercalate (["tagsql", "tagsql_query", "tagsql_postgres"].map fun target =>
    target ++ "=" ++ settings.level.name)

end LogSettings

end SqlWeave
