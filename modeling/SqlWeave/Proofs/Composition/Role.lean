import SqlWeave.Composer

/-!
# Roles of values

The role of a value after a segment, case by case. Nested statements, raw texts and batches have the
same role everywhere; strings and tables are table names in a table slot and only there, so the
segment matters for nothing else.
-/
namespace SqlWeave

/-- A value and the role it has after a segment. -/
inductive Value.Plays (preceding : String) : Value → Role → Prop
  | notAString {scalar : Scalar} : scalar.text? = none →
      Plays preceding (.plain scalar) (.parameter scalar)
  | string {name : String} : TableSlot.detect? preceding = none →
      Plays preceding (.plain (.string name)) (.parameter (.string name))
  | stringInSlot {slot : TableSlot} {name : String} : TableSlot.detect? preceding = some slot →
      Plays preceding (.plain (.string name)) (.tableName slot name)
  | tableInSlot {slot : TableSlot} {name : String} : TableSlot.detect? preceding = some slot →
      Plays preceding (.table name) (.tableName slot name)
  | misplacedTable {name : String} : TableSlot.detect? preceding = none →
      Plays preceding (.table name) (.misplacedTable name)
  | nested (statement : Statement) : Plays preceding (.nested statement) (.nested statement)
  | raw (text : String) : Plays preceding (.raw text) (.raw text)
  | batch (rows : List (List Value)) : Plays preceding (.batch rows) (.batch rows)

theorem Value.plays_role (preceding : String) (v : Value) :
    v.Plays preceding (v.role preceding) := by
  cases v with
  | nested statement => exact .nested statement
  | raw text => exact .raw text
  | batch rows => exact .batch rows
  | table name =>
    cases detected : TableSlot.detect? preceding with
    | none => simpa only [role, detected] using Plays.misplacedTable detected
    | some slot => simpa only [role, detected] using Plays.tableInSlot detected
  | plain scalar =>
    cases scalar with
    | string name =>
      cases detected : TableSlot.detect? preceding with
      | none => simpa only [role, detected] using Plays.string detected
      | some slot => simpa only [role, detected] using Plays.stringInSlot detected
    | _ => exact .notAString rfl

/-- The name that a value stands for when it is in a table slot. -/
def Value.name? : Value → Option String
  | .table name => some name
  | .plain (.string name) => some name
  | _ => none

theorem Value.name?_eq_some_iff {v : Value} {name : String} :
    v.name? = some name ↔ v = .table name ∨ v = .plain (.string name) := by
  cases v with
  | plain scalar => cases scalar <;> simp [name?]
  | table | nested | raw | batch => simp [name?]

/-- What cannot stand for a name plays the same role after every segment. -/
theorem Value.role_eq_of_name?_eq_none {v : Value} (noName : v.name? = none)
    (preceding other : String) : v.role preceding = v.role other := by
  cases v with
  | plain scalar => cases scalar <;> first | rfl | cases noName
  | table => cases noName
  | nested | raw | batch => rfl

/-- The slot is all that a role takes from the segment. -/
theorem Value.role_eq_of_detect?_eq (v : Value) {preceding other : String}
    (same : TableSlot.detect? preceding = TableSlot.detect? other) :
    v.role preceding = v.role other := by
  cases v with
  | plain scalar => cases scalar <;> simp only [role, same]
  | table => simp only [role, same]
  | nested | raw | batch => rfl

/-- Behind segments with the same operation a value that plays the same role writes the same
table. -/
theorem Value.writtenTable?_eq_of_role_eq {v : Value} {preceding other : String}
    (roles : v.role preceding = v.role other)
    (operations : Operation.detect? preceding = Operation.detect? other) :
    v.writtenTable? preceding = v.writtenTable? other := by
  have records (slot : TableSlot) : slot.recordsWrite preceding = slot.recordsWrite other := by
    rw [TableSlot.recordsWrite, TableSlot.recordsWrite, operations]
  simp only [writtenTable?, roles, records]

end SqlWeave
