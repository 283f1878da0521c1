import SqlWeave.Postgres.Pool
import SqlWeave.Postgres.Row
import SqlWeave.Statement

/-!
# Running statements

A statement is prepared on a connection of the pool, its values are bound to the types that the
server reports, and then it is executed. Nothing is executed unless all values fit. A statement
with a name is prepared once on each connection, whatever its name.
-/
namespace SqlWeave.Postgres

/-- A result, and the connection and the pool after it. -/
structure Step (α : Type) where
  result : Except Failure α
  connection : Connection
  pool : Pool

namespace Connection

/-- The connection after the server has ended it. -/
def ended (connection : Connection) : Connection := { connection with isOpen := false }

def prepare (server : Server) (pool : Pool) (connection : Connection) (sql : String) :
    Step Prepared :=
  if Pool.isSendable sql then
    let handle := pool.sent.length
    let pool := pool.send (.prepare connection.id handle sql)
    match server.prepare pool.sent with
    | .answer description =>
      ⟨.ok ⟨handle, sql, description.types, description.columns⟩, connection, pool⟩
    | .refused error => ⟨.error (.wire (.refused error)), connection, pool⟩
    | .lost => ⟨.error (.wire .closed), connection.ended, pool⟩
  else ⟨.error (.wire .unencodable), connection, pool⟩

/-- Finds a text among the kept statements, or prepares it and keeps it. -/
def prepareKept (server : Server) (pool : Pool) (connection : Connection) (sql : String) :
    Step Prepared :=
  match connection.cached.find? fun prepared => prepared.sql = sql with
  | some prepared => ⟨.ok prepared, connection, pool⟩
  | none =>
    let step := connection.prepare server pool sql
    match step.result with
    | .ok prepared =>
      { step with connection.cached := step.connection.cached ++ [prepared] }
    | .error _ => step

def execute (server : Server) (pool : Pool) (connection : Connection) (prepared : Prepared)
    (cells : List Cell) : Step (Prepared × Outcome) :=
  let pool := pool.send (.execute connection.id prepared.handle cells)
  match server.execute pool.sent with
  | .answer outcome => ⟨.ok (prepared, outcome), connection, pool⟩
  | .refused error => ⟨.error (.wire (.refused error)), connection, pool⟩
  | .lost => ⟨.error (.wire .closed), connection.ended, pool⟩

/-- The cells for the values of a statement. -/
def cellsFor (types : List ServerType) (values : List Scalar) : Except Failure (List Cell) := do
  let params ← (bindAll types values).mapError fun failure => .conversion failure.message
  (encodeFrom 0 (types.zip params)).mapError fun i => .wire (.unsendable i)

/-- Prepares a statement, binds its values and executes it. -/
def run (server : Server) (pool : Pool) (connection : Connection) (statement : Statement) :
    Step (Prepared × Outcome) :=
  let step := match statement.name with
    | some _ => connection.prepareKept server pool statement.text
    | none => connection.prepare server pool statement.text
  match step.result with
  | .error failure => { step with result := .error failure }
  | .ok prepared =>
    match cellsFor prepared.types statement.values with
    | .error failure => { step with result := .error failure }
    | .ok cells => step.connection.execute server step.pool prepared cells

end Connection

namespace Pool

/-- Takes a connection, uses it, and puts it back. -/
def withConnection (server : Server) (pool : Pool) (use : Pool → Connection → Step α) :
    Except Failure α × Pool :=
  match pool.acquire server with
  | (.error error, pool) => (.error (.pool error), pool)
  | (.ok connection, pool) =>
    let step := use pool connection
    (step.result, step.pool.release step.connection)

/-- Runs a statement; a failure tells its text. -/
def run (server : Server) (pool : Pool) (statement : Statement) :
    Except QueryError (Prepared × Outcome) × Pool :=
  let (result, pool) := pool.withConnection server fun pool connection =>
    connection.run server pool statement
  (result.mapError fun failure => failure.toQueryError.withSql statement.text, pool)

def query (server : Server) (pool : Pool) (statement : Statement) :
    Except QueryError (List Row) × Pool :=
  let (result, pool) := pool.run server statement
  (result.map fun (prepared, outcome) =>
    outcome.rows.map fun cells => (⟨prepared.columns, cells⟩ : Row), pool)

/-- Runs a statement for its first row. -/
def queryOptional (server : Server) (pool : Pool) (statement : Statement) :
    Except QueryError (Option Row) × Pool :=
  let (result, pool) := pool.query server statement
  (result.map List.head?, pool)

/-- Runs a statement for the number of rows it affects. -/
def execute (server : Server) (pool : Pool) (statement : Statement) :
    Except QueryError Nat × Pool :=
  let (result, pool) := pool.run server statement
  (result.map fun (_, outcome) => affectedRows outcome.tag, pool)

/-- Runs a statement and decodes its rows. -/
def queryAs (server : Server) (pool : Pool) (decode : Row → Except Failure α)
    (statement : Statement) : Except QueryError (List α) × Pool :=
  let (result, pool) := pool.query server statement
  let decoded := result.bind fun rows =>
    (rows.mapM decode).mapError fun failure => failure.toQueryError.withSql statement.text
  (decoded, pool)

/-- Has the server prepare a text and reports the types of its parameters. -/
def parameterTypes (server : Server) (pool : Pool) (sql : String) :
    Except Failure (List ServerType) × Pool :=
  let (result, pool) := pool.withConnection server fun pool connection =>
    connection.prepare server pool sql
  (result.map (·.types), pool)

/-- The statement that a server in good health answers with one row. -/
def probe : Statement := .literal "SELECT 1"

/-- Is there a connection, and does the server answer? -/
def isHealthy (server : Server) (pool : Pool) : Bool × Pool :=
  let (result, pool) := pool.withConnection server fun pool connection =>
    connection.run server pool probe
  match result with
  | .ok (_, outcome) => (outcome.rows.length = 1, pool)
  | .error _ => (false, pool)

end Pool

end SqlWeave.Postgres
