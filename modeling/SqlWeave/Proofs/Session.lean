import SqlWeave.Proofs.ChangeSet
import SqlWeave.Proofs.Composition.Tracking
import SqlWeave.Session

/-!
# Runs of a session

The templates of a run, and which of them are only composed, decide what the session records and
what the executor is given; the answers of the executor have no part in it (`after_exact`). A unit
of work can be cut into shorter ones: their change sets, merged in their order, are the change set
of the whole (`merge_blocks`).
-/
namespace SqlWeave

namespace Session

/-! ### Steps -/

/-- What is done with a template; the answers are those of the executor. -/
inductive Action (Row : Type) where
  | compose
  | query (answer : Statement → Except QueryError (List Row))
  | queryOptional (answer : Statement → Except QueryError (List Row))
  | execute (answer : Statement → Except QueryError Nat)

structure Step (Row : Type) where
  template : Template
  action : Action Row

/-- What a step that does not fail gives. -/
inductive Outcome (Row : Type) where
  | statement (statement : Statement)
  | rows (rows : List Row)
  | row (row? : Option Row)
  | affected (count : Nat)

/-- The part of a step that the executor has no influence on. -/
structure Request where
  template : Template
  /-- Whether the statement goes to the executor. -/
  runs : Bool

variable {Row : Type}

namespace Action

def runs : Action Row → Bool
  | compose => false
  | query _ | queryOptional _ | execute _ => true

/-- What the action gives for a composed statement. -/
def reply : Action Row → Statement → Except QueryError (Outcome Row)
  | compose, s => .ok (.statement s)
  | query answer, s => (answer s).map .rows
  | queryOptional answer, s => (answer s).map fun rows => .row rows.head?
  | execute answer, s => (answer s).map .affected

end Action

def Step.request (step : Step Row) : Request := ⟨step.template, step.action.runs⟩

def perform (session : Session) (step : Step Row) : Except QueryError (Outcome Row) × Session :=
  match step.action with
  | .compose => (session.compose step.template).map (.map .statement) id
  | .query answer => (session.query step.template answer).map (.map .rows) id
  | .queryOptional answer => (session.queryOptional step.template answer).map (.map .row) id
  | .execute answer => (session.execute step.template answer).map (.map .affected) id

def after (session : Session) (steps : List (Step Row)) : Session :=
  steps.foldl (fun session step => (session.perform step).2) session

/-! ### What one step does -/

variable {session : Session} {step : Step Row} {s : Statement} {error : QueryError}

/-- The names that a request writes; none if it does not compose. -/
def Request.tables (composer : Composer) (request : Request) : List String :=
  match composer.compose request.template with
  | .ok _ => request.template.namesWritten
  | .error _ => []

def Request.handed? (composer : Composer) (request : Request) : Option Statement :=
  if request.runs then (composer.compose request.template).toOption else none

/-- A template that does not compose leaves the session as it was. -/
theorem perform_of_error (failed : session.composer.compose step.template = .error error) :
    session.perform step = (.error error, session) := by
  have composing : session.compose step.template = (.error error, session) := by
    rw [compose, Composer.composeTracked_eq_error_iff.mpr ⟨failed, rfl⟩]
  obtain ⟨template, action⟩ := step
  -- Whatever is to be run, no answer is asked for.
  have running {α : Type} (answer : Statement → Except QueryError α) :
      session.run template answer = (.error error, session) := by
    rw [run, composing]
  cases action with
  | compose => simp [perform, composing, Except.map]
  | query answer => simp [perform, query, running, Except.map]
  | queryOptional answer => simp [perform, queryOptional, running, Except.map]
  | execute answer => simp [perform, execute, running, Except.map]

/-- The tables of a statement count, whatever becomes of its execution. -/
theorem perform_of_ok (composed : session.composer.compose step.template = .ok s) :
    session.perform step = (step.action.reply s,
      { session with
        changed := session.changed.insertAll step.template.namesWritten
        handed := session.handed ++ if step.action.runs then [s] else [] }) := by
  obtain ⟨template, action⟩ := step
  have composing : session.compose template =
      (.ok s, { session with changed := session.changed.insertAll template.namesWritten }) := by
    rw [compose, Composer.composeTracked_eq_ok_iff.mpr ⟨composed, rfl⟩, template.writtenTables_eq]
  -- An answer that is an error changes nothing in the session either.
  have running {α : Type} (answer : Statement → Except QueryError α) :
      session.run template answer = (answer s,
        { session with
          changed := session.changed.insertAll template.namesWritten
          handed := session.handed ++ [s] }) := by
    rw [run, composing]
  cases action with
  | compose => simp [perform, composing, Action.runs, Action.reply, Except.map]
  | query answer => simp [perform, query, running, Action.runs, Action.reply]
  | queryOptional answer =>
    simp only [perform, queryOptional, running, Action.runs, Action.reply]
    cases answer s <;> rfl
  | execute answer => simp [perform, execute, running, Action.runs, Action.reply]

theorem perform_snd (session : Session) (step : Step Row) :
    (session.perform step).2 =
      { session with
        changed := session.changed.insertAll (step.request.tables session.composer)
        handed := session.handed ++ (step.request.handed? session.composer).toList } := by
  cases composed : session.composer.compose step.template with
  | error error =>
    rw [perform_of_error composed]
    simp [Request.tables, Request.handed?, Step.request, composed, Except.toOption,
      ChangeSet.insertAll]
  | ok s =>
    rw [perform_of_ok composed]
    cases runs : step.action.runs <;>
      simp [Request.tables, Request.handed?, Step.request, composed, Except.toOption, runs]

/-! ### What a run does -/

theorem after_append (session : Session) (steps more : List (Step Row)) :
    session.after (steps ++ more) = (session.after steps).after more :=
  List.foldl_append

theorem after_eq (session : Session) (steps : List (Step Row)) :
    session.after steps =
      { session with
        changed := session.changed.insertAll
          ((steps.map Step.request).flatMap (·.tables session.composer))
        handed := session.handed ++
          (steps.map Step.request).filterMap (·.handed? session.composer) } := by
  -- Every step leaves the composer as it was, so that the requests keep their meaning.
  induction steps generalizing session with
  | nil => simp [after, ChangeSet.insertAll]
  | cons step steps ih =>
    have rest : session.after (step :: steps) = (session.perform step).2.after steps := rfl
    rw [rest, ih, perform_snd]
    cases given : step.request.handed? session.composer <;>
      simp [ChangeSet.insertAll_append, given]

theorem composer_after (session : Session) (steps : List (Step Row)) :
    (session.after steps).composer = session.composer := by rw [after_eq]

/-- After any run, the tables are those of the statements that were composed, each once in the order
of the first write, and the executor was given the statements that were run, in their order. A step
that does not compose gives its error and changes nothing; any other one gives what the executor
answers. A run with the same requests and other answers leaves the same tables and statements. -/
theorem after_exact (composer : Composer) (done : List (Step Row)) :
    ((start composer).after done).changed.tables =
      ((done.map Step.request).flatMap (·.tables composer)).eraseDups ∧
    ((start composer).after done).handed = (done.map Step.request).filterMap (·.handed? composer) ∧
    (∀ (step : Step Row) error, composer.compose step.template = .error error →
      ((start composer).after done).perform step = (.error error, (start composer).after done)) ∧
    (∀ (step : Step Row) s, composer.compose step.template = .ok s →
      (((start composer).after done).perform step).1 = step.action.reply s) ∧
    ∀ (Other : Type) (others : List (Step Other)),
      others.map Step.request = done.map Step.request →
        ((start composer).after others).changed = ((start composer).after done).changed ∧
        ((start composer).after others).handed = ((start composer).after done).handed := by
  have ran {Row : Type} (steps : List (Step Row)) := after_eq (start composer) steps
  have sameComposer : ((start composer).after done).composer = composer := composer_after _ done
  refine ⟨?tables, ?statements, ?failing, ?succeeding, ?answers⟩
  case tables =>
    rw [ran, ChangeSet.tables_insertAll]
    simp [start]
  case statements =>
    rw [ran]
    exact List.nil_append _
  case failing =>
    intro step error failed
    exact perform_of_error (sameComposer.symm ▸ failed)
  case succeeding =>
    intro step s composed
    rw [perform_of_ok (sameComposer.symm ▸ composed)]
  case answers =>
    intro Other others same
    -- The session is a function of the requests, and these are the same.
    rw [ran, ran, same]
    exact ⟨rfl, rfl⟩

/-- A misplaced table, a failure of the database, and a statement that is only composed; then the
same with a database that answers otherwise. -/
theorem after_exact_failures : ∃ session : Session,
    (start .standard).after
        [⟨⟨["UPDATE ", " SET name = ", ""], [.table "users", .table "teams"]⟩,
            .query fun _ => .ok ["row"]⟩,
          ⟨⟨["DELETE FROM ", ""], [.table "logs"]⟩,
            .execute fun _ => .error (.of (.database "locked"))⟩,
          ⟨⟨["UPDATE ", ""], [.table "users"]⟩, .compose⟩] = session ∧
    session.changed.tables = ["logs", "users"] ∧
    session.handed = [.literal "DELETE FROM \"public\".\"logs\""] ∧
    (∃ error, session.perform (⟨⟨["SELECT"], [.plain .null]⟩, .compose⟩ : Step String) =
      (.error error, session)) ∧
    (session.perform ⟨⟨["SELECT"], []⟩, .queryOptional fun _ => .ok ["row", "other"]⟩).1 =
      .ok (.row (some "row")) ∧
    ((start .standard).after
        [⟨⟨["UPDATE ", " SET name = ", ""], [.table "users", .table "teams"]⟩,
            .query fun _ => .error (.of (.database "locked"))⟩,
          ⟨⟨["DELETE FROM ", ""], [.table "logs"]⟩, .queryOptional fun _ => .ok [1]⟩,
          ⟨⟨["UPDATE ", ""], [.table "users"]⟩, .compose⟩]).changed = session.changed := by
  obtain ⟨tables, handed, failing, succeeding, answers⟩ := after_exact .standard
    [⟨⟨["UPDATE ", " SET name = ", ""], [.table "users", .table "teams"]⟩,
        .query fun _ => .ok ["row"]⟩,
      ⟨⟨["DELETE FROM ", ""], [.table "logs"]⟩,
        .execute fun _ => .error (.of (.database "locked"))⟩,
      ⟨⟨["UPDATE ", ""], [.table "users"]⟩, .compose⟩]
  exact ⟨_, rfl, tables.trans (by decide +kernel), handed.trans rfl, ⟨_, failing _ _ rfl⟩,
    succeeding _ _ rfl, (answers Nat _ rfl).1⟩

/-! ### Merging the sets of several runs -/

/-- Going on with a run merges the set of a new run with the same steps. -/
theorem merge_finish (session : Session) (steps : List (Step Row)) :
    session.changed.merge ((start session.composer).after steps).finish =
      (session.after steps).changed := by
  rw [finish, after_eq, after_eq]
  -- Both sides record the tables of the run after those of the session.
  exact session.changed.merge_insertAll .empty _

theorem foldl_merge_finish (session : Session) (blocks : List (List (Step Row))) :
    (blocks.map fun block => ((start session.composer).after block).finish).foldl
        ChangeSet.merge session.changed = (session.after blocks.flatten).changed := by
  -- Each block starts anew, while the session goes on with it; they have the composer in common.
  induction blocks generalizing session with
  | nil => rfl
  | cons block blocks ih =>
    have rest := ih (session.after block)
    rw [composer_after] at rest
    rw [List.map_cons, List.foldl_cons, merge_finish, rest, List.flatten_cons, after_append]

/-- The sets of consecutive runs, merged in their order, are the set of one run with all steps, with
the tables in the same order; it is concerned with a table if and only if one of the runs is.
Merging is associative, and the empty set is its identity. -/
theorem merge_blocks (composer : Composer) (blocks : List (List (Step Row))) :
    (blocks.map fun block => ((start composer).after block).finish).foldl ChangeSet.merge .empty =
      ((start composer).after blocks.flatten).finish ∧
    (∀ tables, ((blocks.map fun block => ((start composer).after block).finish).foldl
        ChangeSet.merge .empty).touchesAny tables =
      ((start composer).after blocks.flatten).finish.touchesAny tables) ∧
    (∀ tables, ((start composer).after blocks.flatten).finish.touchesAny tables =
      blocks.any fun block => ((start composer).after block).finish.touchesAny tables) ∧
    (∀ set later last : ChangeSet, (set.merge later).merge last = set.merge (later.merge last)) ∧
    ∀ set : ChangeSet, ChangeSet.empty.merge set = set ∧ set.merge .empty = set := by
  have merged : (blocks.map fun block => ((start composer).after block).finish).foldl
      ChangeSet.merge .empty = ((start composer).after blocks.flatten).finish :=
    foldl_merge_finish (start composer) blocks
  refine ⟨merged, ?same, ?each, ChangeSet.merge_assoc,
    fun set => ⟨set.empty_merge, set.merge_empty⟩⟩
  case same =>
    intro tables
    rw [merged]
  case each =>
    intro tables
    rw [← merged, ChangeSet.touchesAny_foldl_merge, ChangeSet.touchesAny_empty, Bool.false_or,
      List.any_map]
    rfl

end Session

end SqlWeave
