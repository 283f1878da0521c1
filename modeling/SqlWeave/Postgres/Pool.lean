import SqlWeave.Postgres.ConnectionSettings
import SqlWeave.Postgres.Server

/-!
# Connection pools

A pool opens connections when they are asked for, up to a limit, and keeps them for later. The
connection that has been idle longest is taken first; one that the server has ended is dropped.
-/
namespace SqlWeave.Postgres

/-- A statement that a connection has prepared. -/
structure Prepared where
  handle : Nat
  sql : String
  types : List ServerType
  columns : List Column
deriving DecidableEq, Repr

structure Connection where
  id : Nat
  isOpen : Bool
  /-- The statements that were prepared to be used again. -/
  cached : List Prepared
deriving DecidableEq, Repr

structure PoolStatus where
  available : Nat
  size : Nat
  maxSize : Nat
  waiting : Nat
deriving DecidableEq, Repr

structure Pool where
  settings : ConnectionSettings
  maxSize : Nat
  /-- All connections of the pool, idle or in use. -/
  size : Nat
  /-- The one that has been idle longest comes first. -/
  idle : List Connection
  isClosed : Bool
  /-- What was sent to the server so far. -/
  sent : List Request

namespace Pool

/-- Pools hold this many connections unless told otherwise. -/
def standardSize : Nat := 10

def new (settings : ConnectionSettings) (maxSize : Nat) : Pool :=
  ⟨settings, maxSize, 0, [], false, []⟩

/-- A pool of the given settings, or else of a URL. -/
def build (settings : Option ConnectionSettings) (url : Option String) (maxSize : Nat) :
    Except SettingsProblem Pool := do
  let settings ← match settings, url with
    | some settings, _ => .ok settings
    | none, some url => ConnectionSettings.ofUrl url
    | none, none => .error .noTarget
  if maxSize = 0 then .error .noConnections else .ok (new settings maxSize)

def status (pool : Pool) : PoolStatus := ⟨pool.idle.length, pool.size, pool.maxSize, 0⟩

def inUse (pool : Pool) : Nat := pool.size - pool.idle.length

def send (pool : Pool) (request : Request) : Pool := { pool with sent := pool.sent ++ [request] }

/-- Texts with a NUL in them cannot be sent. -/
def isSendable (text : String) : Bool := !text.toList.contains '\x00'

def connect (server : Server) (pool : Pool) : Except WireError Connection × Pool :=
  let parameters := pool.settings.startup
  if parameters.all fun parameter => isSendable parameter.2 then
    let id := pool.sent.length
    let pool := pool.send (.connect id parameters)
    match server.connect pool.sent with
    | .answer () => (.ok ⟨id, true, []⟩, { pool with size := pool.size + 1 })
    | .refused error => (.error (.refused error), pool)
    | .lost => (.error .closed, pool)
  else (.error .unencodable, pool)

/--
Takes the first idle connection that is still open, or opens one; those before it are dropped. No
connection is opened in no time.
-/
def takeOrConnect (server : Server) (pool : Pool) :
    List Connection → Except PoolError Connection × Pool
  | [] =>
    if pool.settings.connectTimeout = 0 then (.error (.timeout .create), { pool with idle := [] })
    else
      let (result, pool) := connect server { pool with idle := [] }
      (result.mapError .connect, pool)
  | connection :: idle =>
    if connection.isOpen then (.ok connection, { pool with idle })
    else takeOrConnect server { pool with idle, size := pool.size - 1 } idle

/-- Takes a connection out of the pool. -/
def acquire (server : Server) (pool : Pool) : Except PoolError Connection × Pool :=
  if pool.isClosed then (.error .closed, pool)
  else if pool.maxSize ≤ pool.inUse then (.error (.timeout .wait), pool)
  else takeOrConnect server pool pool.idle

/-- Puts a connection back; a pool that has shrunk drops it. -/
def release (pool : Pool) (connection : Connection) : Pool :=
  if pool.size ≤ pool.maxSize then { pool with idle := pool.idle ++ [connection] }
  else { pool with size := pool.size - 1 }

/-- Closes the pool: idle connections are dropped, and no more are given. -/
def close (pool : Pool) : Pool :=
  { pool with maxSize := 0, size := pool.inUse, idle := [], isClosed := true }

end Pool

end SqlWeave.Postgres
