import SqlWeave.Composer

/-!
# Units of work

A session composes statements, hands them to an executor, and collects the tables they write. The
tables of a statement count as soon as it is composed, whatever becomes of its execution.

How many templates a session was given is no part of its state: such a count is only written to the
log when the session ends, and nothing that a session does depends on it.
-/
namespace SqlWeave

structure Session where
  composer : Composer
  /-- The tables written so far. -/
  changed : ChangeSet
  /-- The statements that the executor was given, in their order. -/
  handed : List Statement

namespace Session

/-- A new unit of work. -/
def start (composer : Composer) : Session := ⟨composer, .empty, []⟩

/-- Composes a template without running it. -/
def compose (session : Session) (t : Template) : Except QueryError Statement × Session :=
  let (result, changed) := session.composer.composeTracked session.changed t
  (result, { session with changed })

/-- Composes a template and hands it to an executor, whose answer is the result. -/
def run (session : Session) (t : Template) (answer : Statement → Except QueryError α) :
    Except QueryError α × Session :=
  match session.compose t with
  | (.ok statement, session) =>
    (answer statement, { session with handed := session.handed ++ [statement] })
  | (.error error, session) => (.error error, session)

def query (session : Session) (t : Template)
    (answer : Statement → Except QueryError (List Row)) :
    Except QueryError (List Row) × Session :=
  session.run t answer

/-- Runs a statement for its first row. -/
def queryOptional (session : Session) (t : Template)
    (answer : Statement → Except QueryError (List Row)) :
    Except QueryError (Option Row) × Session :=
  session.run t fun statement => (answer statement).map List.head?

/-- Runs a statement for the number of rows it affects. -/
def execute (session : Session) (t : Template) (answer : Statement → Except QueryError Nat) :
    Except QueryError Nat × Session :=
  session.run t answer

/-- Ends the unit of work; what remains is the tables it wrote. -/
def finish (session : Session) : ChangeSet := session.changed

end Session

end SqlWeave
