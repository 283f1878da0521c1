import SqlWeave.Proofs.Postgres.Execution
import SqlWeave.Proofs.Postgres.Failure

/-!
# Calls of an executor

A run of an executor is a sequence of calls, with other users of the pool between them. Each call
executes its statement at most once, and only with values that fit, and it fails with an error that
tells the text (`runs_of_mem_exchanges`).
-/
namespace SqlWeave.Postgres

variable {server : Server} {pool : Pool}

/-! ### Calls -/

inductive Call (α : Type) where
  | query (statement : Statement)
  | queryOptional (statement : Statement)
  | queryAs (decode : Row → Except Failure α) (statement : Statement)
  | execute (statement : Statement)

namespace Call

variable {α : Type}

def statement : Call α → Statement
  | query statement | queryOptional statement | queryAs _ statement | execute statement => statement

/-- Rows may fail to be decoded after they have been fetched. -/
def decodes : Call α → Bool
  | queryAs .. => true
  | query _ | queryOptional _ | execute _ => false

end Call

def failure? {ε β : Type} : Except ε β → Option ε
  | .ok _ => none
  | .error e => some e

/-- Makes a call; of its result only the error is kept. -/
def Call.make {α : Type} (server : Server) (pool : Pool) : Call α → Option QueryError × Pool
  | query statement => (pool.query server statement).map failure? id
  | queryOptional statement => (pool.queryOptional server statement).map failure? id
  | queryAs decode statement => (pool.queryAs server decode statement).map failure? id
  | execute statement => (pool.execute server statement).map failure? id

/-- What a call sends, and what error it gives. Either nothing is executed and the call fails, or it
ends with one execution that is justified; values that do not fit are never executed. Every error
tells the text of the statement. -/
inductive Call.Runs {α : Type} (server : Server) (before : List Request) (call : Call α) :
    List Request → Option QueryError → Prop
  | stopped {setup : List Request} {error : QueryError} : Quiet setup →
      error.sql = some call.statement.text → Runs server before call setup (some error)
  | executed {setup : List Request} {connection handle : Nat} {cells : List Cell}
      {failure : Option QueryError} : Quiet setup →
      Justified server (before ++ setup) call.statement connection handle cells →
      (∀ error ∈ failure, error.sql = some call.statement.text ∧
        (error.code = .parameterConversion → call.decodes = true)) →
      Runs server before call (setup ++ [.execute connection handle cells]) failure

theorem failure?_map {ε β γ : Type} (f : β → γ) (result : Except ε β) :
    failure? (result.map f) = failure? result := by
  cases result <;> rfl

structure Makes {α : Type} (server : Server) (pool : Pool) (call : Call α)
    (made : Option QueryError × Pool) : Prop where
  sent : ∃ sent, made.2.sent = pool.sent ++ sent ∧ call.Runs server pool.sent sent made.1
  sound : made.2.Sound server

theorem makes_of_runsOnPool {α : Type} {call : Call α}
    {ran : Except QueryError (Prepared × Outcome) × Pool}
    (runs : RunsOnPool server pool call.statement ran) {failed : Option QueryError}
    (kept : ∀ error, ran.1 = .error error → failed = some error)
    (decoded : ∀ value, ran.1 = .ok value → ∀ error ∈ failed,
      error.sql = some call.statement.text ∧ call.decodes = true) :
    Makes server pool call (failed, ran.2) := by
  obtain ⟨⟨sent, result, grown, runs, mapped⟩, sound⟩ := runs
  refine ⟨⟨sent, grown, ?_⟩, sound⟩
  cases runs with
  | stopped quiet =>
    rw [kept _ mapped]
    exact .stopped quiet rfl
  | executed quiet justified noConversion =>
    -- After an execution the only conversion that can still fail is that of the rows.
    refine .executed quiet justified fun error member => ?_
    cases result with
    | ok value =>
      obtain ⟨quoted, decodes⟩ := decoded value mapped error member
      exact ⟨quoted, fun _ => decodes⟩
    | error failure =>
      rw [kept _ mapped] at member
      cases member
      refine ⟨rfl, fun code => ?_⟩
      obtain ⟨message, rfl⟩ := Failure.code_eq_parameterConversion_iff.mp code
      exact absurd rfl (noConversion message)

theorem makes_make {α : Type} (sound : pool.Sound server) (call : Call α) :
    Makes server pool call (call.make server pool) := by
  have runs := runsOnPool_run sound call.statement
  -- What is made of a result that is no error does not matter, unless it is decoded.
  have plain (failed : Option QueryError)
      (same : failed = failure? (pool.run server call.statement).1) :
      Makes server pool call (failed, (pool.run server call.statement).2) := by
    apply makes_of_runsOnPool runs
    · rintro error result
      rw [same, result, failure?]
    · rintro value result error member
      rw [same, result, failure?] at member
      cases member
  cases call with
  | query statement => exact plain _ (failure?_map _ _)
  | queryOptional statement => exact plain _ ((failure?_map _ _).trans (failure?_map _ _))
  | execute statement => exact plain _ (failure?_map _ _)
  | queryAs decode statement =>
    change RunsOnPool server pool statement (pool.run server statement) at runs
    rw [Call.make, Pool.queryAs, Pool.query]
    generalize pool.run server statement = ran at runs ⊢
    obtain ⟨result, rest⟩ := ran
    have runs : RunsOnPool server pool (Call.queryAs decode statement).statement (result, rest) :=
      runs
    refine makes_of_runsOnPool runs ?_ ?_
    · rintro error ⟨⟩
      rfl
    · rintro ⟨prepared, outcome⟩ ⟨⟩ error failed
      -- The rows are there, so that the error is one of decoding.
      refine ⟨?_, rfl⟩
      simp only [Except.map, Except.bind] at failed
      generalize List.mapM decode _ = rows at failed
      cases rows <;> cases failed
      rfl

/-! ### Runs -/

/-- What happens to the pool of an executor: calls, and other users of the pool between them. -/
inductive Event (α : Type) where
  | call (call : Call α)
  /-- Someone takes a connection and keeps it. -/
  | hold
  /-- The connection that was taken last is given back. -/
  | giveBack
  | close

/-- A call, what had been sent before it, what it sent, and the error that it gave. -/
structure Exchange (α : Type) where
  call : Call α
  before : List Request
  sent : List Request
  failure : Option QueryError

/-- A pool, and the connections that were taken out of it. -/
structure Service where
  pool : Pool
  held : List Connection

namespace Service

variable {α : Type} {service : Service}

def start (settings : ConnectionSettings) (maxSize : Nat) : Service := ⟨.new settings maxSize, []⟩

def after (server : Server) (service : Service) : Event α → Service
  | .call call => { service with pool := (call.make server service.pool).2 }
  | .hold =>
    match service.pool.acquire server with
    | (.ok connection, pool) => ⟨pool, connection :: service.held⟩
    | (.error _, pool) => { service with pool }
  | .giveBack =>
    match service.held with
    | [] => service
    | connection :: held => ⟨service.pool.release connection, held⟩
  | .close => { service with pool := service.pool.close }

def exchange? (server : Server) (service : Service) : Event α → Option (Exchange α)
  | .call call =>
    let (failure, pool) := call.make server service.pool
    some ⟨call, service.pool.sent, pool.sent.drop service.pool.sent.length, failure⟩
  | .hold | .giveBack | .close => none

def exchanges (server : Server) (service : Service) : List (Event α) → List (Exchange α)
  | [] => []
  | event :: events =>
    (service.exchange? server event).toList ++ (service.after server event).exchanges server events

def afterAll (server : Server) (service : Service) (events : List (Event α)) : Service :=
  events.foldl (fun service event => service.after server event) service

/-- The log vouches for the connections in the pool and for those that were taken out of it. -/
structure Sound (server : Server) (service : Service) : Prop where
  pool : service.pool.Sound server
  held : ∀ connection ∈ service.held, connection.Sound server service.pool.sent

theorem sound_start (server : Server) (settings : ConnectionSettings) (maxSize : Nat) :
    (start settings maxSize).Sound server := ⟨nofun, nofun⟩

/-- What an event comes to: the log grows by what a call sends, and no other event executes
anything. -/
structure Happens (server : Server) (service : Service) (exchange? : Option (Exchange α))
    (after : Service) : Prop where
  sent : ∃ sent, after.pool.sent = service.pool.sent ++ sent ∧
    (exchange? = none → Quiet sent) ∧
    ∀ exchange ∈ exchange?, exchange.before = service.pool.sent ∧ exchange.sent = sent ∧
      exchange.call.Runs server exchange.before exchange.sent exchange.failure
  sound : after.Sound server

theorem happens_quietly {after : Service} {setup : List Request} (quiet : Quiet setup)
    (grown : after.pool.sent = service.pool.sent ++ setup) (sound : after.Sound server) :
    Happens server service (none : Option (Exchange α)) after :=
  ⟨⟨setup, grown, fun _ => quiet, by simp⟩, sound⟩

theorem happens_call (sound : service.Sound server) (call : Call α) :
    Happens server service (service.exchange? server (.call call))
      (service.after server (.call call)) := by
  obtain ⟨idle, held⟩ := sound
  obtain ⟨⟨sent, grown, runs⟩, stillSound⟩ := makes_make idle call
  rw [exchange?, after]
  generalize call.make server service.pool = made at grown runs stillSound ⊢
  obtain ⟨failure, pool⟩ := made
  dsimp only at grown runs stillSound ⊢
  refine ⟨⟨sent, grown, by simp, ?_⟩, stillSound, fun connection member => ?_⟩
  · rintro _ ⟨⟩
    have rest : pool.sent.drop service.pool.sent.length = sent := by rw [grown, List.drop_left]
    exact ⟨rfl, rest, rest.symm ▸ runs⟩
  · rw [grown]
    exact (held connection member).append sent

theorem happens_hold (sound : service.Sound server) :
    Happens server service (none : Option (Exchange α))
      (service.after server (.hold : Event α)) := by
  obtain ⟨idle, held⟩ := sound
  have acquires := acquires_acquire server service.pool
  obtain ⟨setup, quiet, grown⟩ := acquires.sent
  obtain ⟨stillSound, known⟩ := idle.acquired acquires
  rw [after]
  generalize service.pool.acquire server = acquired at grown stillSound known ⊢
  obtain ⟨result, pool⟩ := acquired
  dsimp only at grown stillSound known
  -- What was sent in the meantime does not unsettle the connections that are held already.
  have heldStill : ∀ connection ∈ service.held, connection.Sound server pool.sent := by
    intro connection member
    rw [grown]
    exact (held connection member).append setup
  cases result with
  | error => exact happens_quietly quiet grown ⟨stillSound, heldStill⟩
  | ok connection =>
    exact happens_quietly quiet grown
      ⟨stillSound, List.forall_mem_cons.mpr ⟨known connection rfl, heldStill⟩⟩

theorem happens_giveBack (sound : service.Sound server) :
    Happens server service (none : Option (Exchange α))
      (service.after server (.giveBack : Event α)) := by
  rw [after]
  split
  next => exact happens_quietly quiet_nil (by simp) sound
  next connection others taken =>
    obtain ⟨idle, held⟩ := sound
    rw [taken] at held
    obtain ⟨known, others⟩ := List.forall_mem_cons.mp held
    refine happens_quietly quiet_nil (by simp [sent_release]) ⟨idle.release known, ?_⟩
    rw [sent_release]
    exact others

theorem happens_after (sound : service.Sound server) (event : Event α) :
    Happens server service (service.exchange? server event) (service.after server event) := by
  cases event with
  | call call => exact happens_call sound call
  | hold => exact happens_hold sound
  | giveBack => exact happens_giveBack sound
  | close =>
    -- A closed pool keeps its log and loses its idle connections.
    have grown : service.pool.close.sent = service.pool.sent ++ [] := by simp [Pool.close]
    exact happens_quietly quiet_nil grown
      ⟨fun connection member => absurd member List.not_mem_nil, sound.held⟩

theorem sent_prefix_afterAll (sound : service.Sound server) (events : List (Event α)) :
    service.pool.sent <+: (service.afterAll server events).pool.sent := by
  induction events generalizing service with
  | nil => exact List.prefix_rfl
  | cons event events ih =>
    obtain ⟨⟨sent, grown, -⟩, stillSound⟩ := happens_after sound event
    exact (grown ▸ List.prefix_append _ sent).trans (ih stillSound)

theorem runs_of_mem (sound : service.Sound server) (events : List (Event α)) :
    ∀ exchange ∈ service.exchanges server events,
      exchange.call.Runs server exchange.before exchange.sent exchange.failure ∧
      exchange.before ++ exchange.sent <+: (service.afterAll server events).pool.sent := by
  induction events generalizing service with
  | nil => simp [exchanges]
  | cons event events ih =>
    obtain ⟨⟨sent, grown, -, made⟩, stillSound⟩ := happens_after sound event
    intro exchange member
    rw [exchanges, List.mem_append, Option.mem_toList] at member
    rcases member with here | later
    · -- The log of the whole run begins with what has been sent up to here.
      obtain ⟨before, same, runs⟩ := made exchange here
      refine ⟨runs, ?_⟩
      rw [before, same, ← grown]
      exact sent_prefix_afterAll stillSound events
    · exact ih stillSound exchange later

/-- All executions are those of the calls. -/
theorem filter_isExecution_afterAll (sound : service.Sound server) (events : List (Event α)) :
    (service.afterAll server events).pool.sent.filter Request.isExecution =
      service.pool.sent.filter Request.isExecution ++
        (service.exchanges server events).flatMap (·.sent.filter Request.isExecution) := by
  induction events generalizing service with
  | nil => simp [afterAll, exchanges]
  | cons event events ih =>
    obtain ⟨⟨sent, grown, quiet, made⟩, stillSound⟩ := happens_after sound event
    have rest : service.afterAll server (event :: events) =
      (service.after server event).afterAll server events := rfl
    rw [rest, ih stillSound, grown, exchanges, List.filter_append, List.flatMap_append,
      List.append_assoc, List.append_cancel_left_eq, List.append_cancel_right_eq]
    cases happened : service.exchange? server event with
    | none => simpa [Quiet] using quiet happened
    | some exchange =>
      obtain ⟨-, same, -⟩ := made exchange happened
      simp [same]

end Service

/-- Every call of a run, whatever the server answers, either executes nothing and fails, or ends
with one execution: of a statement that this connection prepared from the text of the call, with the
values of the call, bound to the types that the server reported for it. Values that do not fit are
not executed, and every error tells the text. The log has no other executions than those of the
calls. -/
theorem runs_of_mem_exchanges {α : Type} (server : Server) (settings : ConnectionSettings)
    (maxSize : Nat) (events : List (Event α)) :
    (∀ exchange ∈ (Service.start settings maxSize).exchanges server events,
      exchange.call.Runs server exchange.before exchange.sent exchange.failure ∧
      exchange.before ++ exchange.sent <+:
        ((Service.start settings maxSize).afterAll server events).pool.sent) ∧
    ((Service.start settings maxSize).afterAll server events).pool.sent.filter
        Request.isExecution =
      ((Service.start settings maxSize).exchanges server events).flatMap
        (·.sent.filter Request.isExecution) := by
  have sound := Service.sound_start server settings maxSize
  exact ⟨Service.runs_of_mem sound events, Service.filter_isExecution_afterAll sound events⟩

/-- Two texts under one name, then the first text under another name with a value that does not
fit: the second text is prepared before it is executed, the first one is not prepared again. -/
theorem runs_of_mem_exchanges_names :
    let server : Server := {
      connect := fun _ => .answer ()
      prepare := fun log =>
        match log.getLast? with
        | some (.prepare _ _ "SELECT $1") => .answer ⟨[.base .int8], []⟩
        | _ => .answer ⟨[.base .bool], []⟩
      execute := fun _ => .answer ⟨[], "DELETE 1"⟩ }
    let settings := ConnectionSettings.onThisMachine "shop"
    let select : Call Unit := .query ⟨"SELECT $1", [.int 5], [⟨7, 9, 1⟩], some "n"⟩
    let delete : Call Unit := .execute ⟨"DELETE $1", [.bool true], [⟨7, 9, 1⟩], some "n"⟩
    let misfit : Call Unit := .query ⟨"SELECT $1", [.bool true], [⟨7, 9, 1⟩], some "m"⟩
    let exchanges := (Service.start settings 1).exchanges server
      [.call select, .call delete, .hold, .call misfit, .giveBack, .call misfit]
    exchanges.map (fun exchange => (exchange.sent, exchange.failure.map (·.code))) =
      [([.connect 0 settings.startup, .prepare 0 1 "SELECT $1",
          .execute 0 1 [some [0, 0, 0, 0, 0, 0, 0, 5]]], none),
        ([.prepare 0 3 "DELETE $1", .execute 0 3 [some [1]]], none),
        ([], some .connectionTimeout),
        ([], some .parameterConversion)] ∧
    ∃ exchange ∈ exchanges, exchange.sent = [.prepare 0 3 "DELETE $1", .execute 0 3 [some [1]]] ∧
      delete.Runs server exchange.before exchange.sent exchange.failure := by
  intro server settings select delete misfit exchanges
  refine ⟨by decide +kernel, ?_⟩
  obtain ⟨runs, -⟩ := runs_of_mem_exchanges server settings 1
    [.call select, .call delete, .hold, .call misfit, .giveBack, .call misfit]
  have member : (⟨delete, _, _, _⟩ : Exchange Unit) ∈ exchanges :=
    List.mem_cons_of_mem _ List.mem_cons_self
  exact ⟨_, member, by decide +kernel, (runs _ member).1⟩

end SqlWeave.Postgres
