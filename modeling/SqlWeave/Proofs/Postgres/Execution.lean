import SqlWeave.Postgres.Executor
import SqlWeave.Proofs.Postgres.Encoding

/-!
# Executions

Whatever the server answers, running a statement executes nothing but the text of that statement,
on a connection that prepared it, and only with values that were bound to the types that the server
reported (`runsOnPool_run`). The reason is that the log of requests vouches for every statement that
a connection keeps, and that the log only grows.
-/
namespace SqlWeave.Postgres

/-! ### The log -/

namespace Request

def isExecution : Request → Bool
  | .execute .. => true
  | .connect .. | .prepare .. => false

end Request

/-- Nothing is executed. -/
def Quiet (requests : List Request) : Prop := ∀ request ∈ requests, request.isExecution = false

theorem quiet_nil : Quiet [] := fun _ member => nomatch member

theorem Quiet.append {a b : List Request} (first : Quiet a) (second : Quiet b) : Quiet (a ++ b) :=
  fun request member => (List.mem_append.mp member).elim (first request) (second request)

variable {server : Server} {log : List Request} {connection : Connection} {pool : Pool}

/-- The log vouches for a statement of a connection: it was prepared there, and the server reported
what is known of it. The handle is the place of the request in the log. -/
structure Prepared.Vouched (server : Server) (log : List Request) (connection : Nat)
    (prepared : Prepared) : Prop where
  requested : log[prepared.handle]? = some (.prepare connection prepared.handle prepared.sql)
  answered : server.prepare (log.take (prepared.handle + 1)) =
    .answer ⟨prepared.types, prepared.columns⟩

theorem Prepared.Vouched.append {id : Nat} {prepared : Prepared}
    (vouched : prepared.Vouched server log id) (more : List Request) :
    prepared.Vouched server (log ++ more) id := by
  obtain ⟨requested, answered⟩ := vouched
  obtain ⟨inside, -⟩ := List.getElem?_eq_some_iff.mp requested
  refine ⟨?_, ?_⟩
  · rw [List.getElem?_append_left inside, requested]
  · rw [List.take_append_of_le_length inside, answered]

def Connection.Sound (server : Server) (log : List Request) (connection : Connection) : Prop :=
  ∀ prepared ∈ connection.cached, prepared.Vouched server log connection.id

theorem Connection.Sound.append (sound : connection.Sound server log) (more : List Request) :
    connection.Sound server (log ++ more) :=
  fun prepared member => (sound prepared member).append more

theorem Connection.Sound.ended (sound : connection.Sound server log) :
    connection.ended.Sound server log := sound

def Pool.Sound (server : Server) (pool : Pool) : Prop :=
  ∀ connection ∈ pool.idle, connection.Sound server pool.sent

/-! ### Preparing -/

structure Prepares (server : Server) (pool : Pool) (connection : Connection) (sql : String)
    (step : Step Prepared) : Prop where
  sent : ∃ setup, Quiet setup ∧ step.pool = { pool with sent := pool.sent ++ setup }
  same : step.connection.id = connection.id
  sound : step.connection.Sound server step.pool.sent
  prepared : ∀ prepared, step.result = .ok prepared →
    prepared.sql = sql ∧ prepared.Vouched server step.pool.sent connection.id

theorem prepares_prepare (sound : connection.Sound server pool.sent) (sql : String) :
    Prepares server pool connection sql (connection.prepare server pool sql) := by
  rw [Connection.prepare]
  split
  next =>
    have quiet : Quiet [.prepare connection.id pool.sent.length sql] :=
      fun request member => List.mem_singleton.mp member ▸ rfl
    dsimp only
    split
    next description answered =>
      refine ⟨⟨_, quiet, rfl⟩, rfl, sound.append _, ?_⟩
      rintro _ ⟨⟩
      -- The request is the last one in the log.
      refine ⟨rfl, ⟨List.getElem?_concat_length, ?_⟩⟩
      have whole : (pool.send (.prepare connection.id pool.sent.length sql)).sent.take
          (pool.sent.length + 1) =
            (pool.send (.prepare connection.id pool.sent.length sql)).sent :=
        List.take_of_length_le (by simp [Pool.send])
      exact (congrArg server.prepare whole).trans answered
    next => exact ⟨⟨_, quiet, rfl⟩, rfl, sound.append _, nofun⟩
    next => exact ⟨⟨_, quiet, rfl⟩, rfl, (sound.append _).ended, nofun⟩
  next => exact ⟨⟨[], quiet_nil, by simp⟩, rfl, sound, nofun⟩

theorem prepares_prepareKept (sound : connection.Sound server pool.sent) (sql : String) :
    Prepares server pool connection sql (connection.prepareKept server pool sql) := by
  rw [Connection.prepareKept]
  split
  next prepared found =>
    have same : prepared.sql = sql := by simpa using List.find?_some found
    refine ⟨⟨[], quiet_nil, by simp⟩, rfl, sound, ?_⟩
    rintro _ ⟨⟩
    exact ⟨same, sound prepared (List.mem_of_find?_eq_some found)⟩
  next =>
    obtain ⟨sent, same, stillSound, prepared⟩ := prepares_prepare sound sql
    dsimp only
    split
    next new result =>
      obtain ⟨sameText, vouched⟩ := prepared new result
      refine ⟨sent, same, ?_, prepared⟩
      -- What is kept now is what was kept before and the new statement.
      intro kept member
      rcases List.mem_append.mp member with before | here
      · exact stillSound kept before
      · rw [List.mem_singleton.mp here]
        exact same.symm ▸ vouched
    next => exact ⟨sent, same, stillSound, prepared⟩

/-! ### Executing -/

/-- The execution is of a statement that the connection prepared from the text, and the cells are
the values, bound to the types that the server reported for it. -/
structure Justified (server : Server) (log : List Request) (statement : Statement)
    (connection handle : Nat) (cells : List Cell) : Prop where
  prepared : log[handle]? = some (.prepare connection handle statement.text)
  bound : ∃ description params,
    server.prepare (log.take (handle + 1)) = .answer description ∧
    bindAll description.types statement.values = .ok params ∧
    List.Forall₂ (fun (parameter : ServerType × Param) cell =>
      parameter.2.encode parameter.1 = .ok cell) (description.types.zip params) cells

/-- What running a statement sends, and what comes of it: either nothing is executed and the run
fails, or it ends with one execution that is justified. -/
inductive Runs (server : Server) (before : List Request) (statement : Statement) {α : Type} :
    List Request → Except Failure α → Prop
  | stopped {setup : List Request} {failure : Failure} : Quiet setup →
      Runs server before statement setup (.error failure)
  | executed {setup : List Request} {connection handle : Nat} {cells : List Cell}
      {result : Except Failure α} : Quiet setup →
      Justified server (before ++ setup) statement connection handle cells →
      (∀ message, result ≠ .error (.conversion message)) →
      Runs server before statement (setup ++ [.execute connection handle cells]) result

theorem Runs.prepend {before setup sent : List Request} {statement : Statement} {α : Type}
    {result : Except Failure α} (quiet : Quiet setup)
    (runs : Runs server (before ++ setup) statement sent result) :
    Runs server before statement (setup ++ sent) result := by
  cases runs with
  | stopped more => exact .stopped (quiet.append more)
  | executed more justified noConversion =>
    rw [List.append_assoc] at justified
    rw [← List.append_assoc]
    exact .executed (quiet.append more) justified noConversion

theorem encodeFrom_eq_ok_iff {i : Nat} {parameters : List (ServerType × Param)}
    {cells : List Cell} : encodeFrom i parameters = .ok cells ↔
      List.Forall₂ (fun parameter cell => parameter.2.encode parameter.1 = .ok cell)
        parameters cells := by
  induction parameters generalizing i cells with
  | nil => simp [encodeFrom, eq_comm]
  | cons parameter others ih =>
    rw [encodeFrom, cons_eq_ok_iff, List.forall₂_cons_left_iff]
    simp only [mapError_eq_ok_iff, ih, exists_and_left]

theorem cellsFor_eq_ok_iff {types : List ServerType} {values : List Scalar} {cells : List Cell} :
    Connection.cellsFor types values = .ok cells ↔ ∃ params, bindAll types values = .ok params ∧
      List.Forall₂ (fun (parameter : ServerType × Param) cell =>
        parameter.2.encode parameter.1 = .ok cell) (types.zip params) cells := by
  rw [Connection.cellsFor]
  cases bound : bindAll types values with
  | error failure => simp [Except.mapError, Bind.bind, Except.bind]
  | ok params =>
    have sent : (encodeFrom 0 (types.zip params)).mapError
        (fun i => Failure.wire (.unsendable i)) = .ok cells ↔ _ :=
      mapError_eq_ok_iff.trans encodeFrom_eq_ok_iff
    simpa [Except.mapError, Bind.bind, Except.bind] using sent

structure Executes (server : Server) (pool : Pool) (request : Request)
    (step : Step (Prepared × Outcome)) : Prop where
  sent : step.pool = { pool with sent := pool.sent ++ [request] }
  sound : step.connection.Sound server step.pool.sent
  noConversion : ∀ message, step.result ≠ .error (.conversion message)

theorem executes_execute (sound : connection.Sound server pool.sent) (prepared : Prepared)
    (cells : List Cell) : Executes server pool (.execute connection.id prepared.handle cells)
      (connection.execute server pool prepared cells) := by
  rw [Connection.execute]
  split
  next => exact ⟨rfl, sound.append _, nofun⟩
  next => exact ⟨rfl, sound.append _, nofun⟩
  next => exact ⟨rfl, (sound.append _).ended, nofun⟩

structure RunsOn (server : Server) (pool : Pool) (statement : Statement)
    (step : Step (Prepared × Outcome)) : Prop where
  sent : ∃ sent, step.pool = { pool with sent := pool.sent ++ sent } ∧
    Runs server pool.sent statement sent step.result
  sound : step.connection.Sound server step.pool.sent

/-- Binds the values of a statement and executes what a step has prepared for it. -/
def Step.finish (server : Server) (statement : Statement) (step : Step Prepared) :
    Step (Prepared × Outcome) :=
  match step.result with
  | .error failure => { step with result := .error failure }
  | .ok prepared =>
    match Connection.cellsFor prepared.types statement.values with
    | .error failure => { step with result := .error failure }
    | .ok cells => step.connection.execute server step.pool prepared cells

theorem run_eq_finish (server : Server) (pool : Pool) (connection : Connection)
    (statement : Statement) : connection.run server pool statement =
      Step.finish server statement (match statement.name with
        | some _ => connection.prepareKept server pool statement.text
        | none => connection.prepare server pool statement.text) := rfl

theorem runsOn_finish {statement : Statement} {step : Step Prepared}
    (prepares : Prepares server pool connection statement.text step) :
    RunsOn server pool statement (step.finish server statement) := by
  obtain ⟨⟨setup, quiet, grown⟩, same, sound, prepared⟩ := prepares
  rw [Step.finish]
  split
  next => exact ⟨⟨setup, grown, .stopped quiet⟩, sound⟩
  next ready result =>
    split
    next => exact ⟨⟨setup, grown, .stopped quiet⟩, sound⟩
    next cells encoded =>
      -- Only now is something executed: the text is prepared and every value is a cell.
      obtain ⟨sameText, requested, answered⟩ := prepared ready result
      obtain ⟨params, bound, encoded⟩ := cellsFor_eq_ok_iff.mp encoded
      have justified : Justified server (pool.sent ++ setup) statement step.connection.id
          ready.handle cells := by
        rw [grown] at requested answered
        refine ⟨?_, _, params, answered, bound, encoded⟩
        rw [requested, same, sameText]
      obtain ⟨executed, stillSound, noConversion⟩ :=
        executes_execute sound ready cells
      refine ⟨⟨setup ++ [.execute step.connection.id ready.handle cells], ?_, ?_⟩, stillSound⟩
      · rw [executed, grown, List.append_assoc]
      · exact .executed quiet justified noConversion

theorem runsOn_run (sound : connection.Sound server pool.sent) (statement : Statement) :
    RunsOn server pool statement (connection.run server pool statement) := by
  rw [run_eq_finish]
  -- A name only decides whether the statement is kept.
  cases statement.name with
  | some _ => exact runsOn_finish (prepares_prepareKept sound _)
  | none => exact runsOn_finish (prepares_prepare sound _)

/-! ### Connections of the pool -/

structure Acquires (before : List Request) (idle : List Connection)
    (acquired : Except PoolError Connection × Pool) : Prop where
  sent : ∃ setup, Quiet setup ∧ acquired.2.sent = before ++ setup
  fewer : ∀ connection ∈ acquired.2.idle, connection ∈ idle
  found : ∀ connection, acquired.1 = .ok connection → connection ∈ idle ∨ connection.cached = []

theorem acquires_connect (server : Server) (pool : Pool) :
    Acquires pool.sent pool.idle
      ((pool.connect server).1.mapError .connect, (pool.connect server).2) := by
  have quiet : Quiet [.connect pool.sent.length pool.settings.startup] :=
    fun request member => List.mem_singleton.mp member ▸ rfl
  rw [Pool.connect]
  dsimp only
  split
  next =>
    split
    next =>
      refine ⟨⟨_, quiet, rfl⟩, fun connection member => member, ?_⟩
      rintro _ ⟨⟩
      exact .inr rfl
    next => exact ⟨⟨_, quiet, rfl⟩, fun connection member => member, nofun⟩
    next => exact ⟨⟨_, quiet, rfl⟩, fun connection member => member, nofun⟩
  next => exact ⟨⟨[], quiet_nil, by simp⟩, fun connection member => member, nofun⟩

theorem acquires_takeOrConnect (server : Server) (pool : Pool) (idle : List Connection) :
    Acquires pool.sent idle (pool.takeOrConnect server idle) := by
  induction idle generalizing pool with
  | nil =>
    rw [Pool.takeOrConnect]
    split
    next => exact ⟨⟨[], quiet_nil, by simp⟩, fun connection member => member, nofun⟩
    next =>
      have connects := acquires_connect server { pool with idle := [] }
      rcases connected : Pool.connect server { pool with idle := [] } with ⟨result, rest⟩
      rw [connected] at connects
      exact connects
  | cons connection idle ih =>
    rw [Pool.takeOrConnect]
    split
    next =>
      refine ⟨⟨[], quiet_nil, by simp⟩, fun other member => List.mem_cons_of_mem _ member, ?_⟩
      rintro _ ⟨⟩
      exact .inl List.mem_cons_self
    next =>
      -- A connection that has ended is dropped.
      obtain ⟨sent, fewer, found⟩ := ih { pool with idle, size := pool.size - 1 }
      refine ⟨sent, fun other member => List.mem_cons_of_mem _ (fewer other member), ?_⟩
      intro other result
      exact (found other result).imp_left (List.mem_cons_of_mem _)

theorem acquires_acquire (server : Server) (pool : Pool) :
    Acquires pool.sent pool.idle (pool.acquire server) := by
  rw [Pool.acquire]
  split
  next => exact ⟨⟨[], quiet_nil, by simp⟩, fun connection member => member, nofun⟩
  next =>
    split
    next => exact ⟨⟨[], quiet_nil, by simp⟩, fun connection member => member, nofun⟩
    next => exact acquires_takeOrConnect server pool pool.idle

/-- The log vouches for what is acquired, and still for what stays idle. -/
theorem Pool.Sound.acquired (sound : pool.Sound server)
    {acquired : Except PoolError Connection × Pool}
    (acquires : Acquires pool.sent pool.idle acquired) :
    acquired.2.Sound server ∧
      ∀ connection, acquired.1 = .ok connection → connection.Sound server acquired.2.sent := by
  obtain ⟨⟨setup, -, grown⟩, fewer, found⟩ := acquires
  constructor
  · intro connection member
    rw [grown]
    exact (sound connection (fewer connection member)).append setup
  · -- A new connection keeps nothing, so that there is nothing to vouch for.
    intro connection result
    rw [grown]
    rcases found connection result with idle | new
    · exact (sound connection idle).append setup
    · intro prepared member
      rw [new] at member
      cases member

theorem Pool.Sound.release (sound : pool.Sound server) (known : connection.Sound server pool.sent) :
    (pool.release connection).Sound server := by
  rw [Pool.release]
  split
  next =>
    intro other member
    rcases List.mem_append.mp member with idle | here
    · exact sound other idle
    · exact List.mem_singleton.mp here ▸ known
  next => exact sound

theorem sent_release (pool : Pool) (connection : Connection) :
    (pool.release connection).sent = pool.sent := by
  rw [Pool.release]
  split <;> rfl

/-! ### Statements on the pool -/

structure RunsOnPool (server : Server) (pool : Pool) (statement : Statement)
    (ran : Except QueryError (Prepared × Outcome) × Pool) : Prop where
  sent : ∃ sent result, ran.2.sent = pool.sent ++ sent ∧
    Runs server pool.sent statement sent result ∧
    ran.1 = result.mapError fun failure => failure.toQueryError.withSql statement.text
  sound : ran.2.Sound server

theorem runsOnPool_run (sound : pool.Sound server) (statement : Statement) :
    RunsOnPool server pool statement (pool.run server statement) := by
  have acquires := acquires_acquire server pool
  obtain ⟨setup, quiet, grown⟩ := acquires.sent
  obtain ⟨stillSound, known⟩ := sound.acquired acquires
  rw [Pool.run, Pool.withConnection]
  rcases acquired : pool.acquire server with ⟨result, rest⟩
  rw [acquired] at grown stillSound known
  cases result with
  | error error =>
    -- Without a connection nothing is run, and connecting has executed nothing.
    exact ⟨⟨setup, _, grown, .stopped quiet, rfl⟩, stillSound⟩
  | ok connection =>
    obtain ⟨⟨sent, more, runs⟩, knownAfter⟩ := runsOn_run (known connection rfl) statement
    dsimp only at grown stillSound ⊢
    refine ⟨⟨setup ++ sent, _, ?_, (grown ▸ runs).prepend quiet, rfl⟩, ?_⟩
    · rw [sent_release, more, grown, List.append_assoc]
    · apply Pool.Sound.release _ knownAfter
      -- What is idle has not been touched.
      intro other member
      rw [more] at member ⊢
      exact (stillSound other member).append sent

end SqlWeave.Postgres
