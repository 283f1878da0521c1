import SqlWeave.Proofs.ChangeSet
import SqlWeave.Proofs.Composition.Role
import SqlWeave.Proofs.TableSlot

/-!
# Recorded tables

Composing with a change set gives what composing without one gives. If it fails, the change set is
left as it was; if it succeeds, the names in slots of written tables are appended in their order,
each once (`composeTracked_exact`). It makes no difference whether the tables are noted while the
values are rendered, or read off the template afterwards (`composeTracked_eq_onePass`).
-/
namespace SqlWeave

/-! ### Which names are recorded -/

/-- The names that stand in the slots of written tables, in their order. -/
def Template.namesWritten (t : Template) : List String :=
  (t.segments.zip t.values).filterMap fun (segment, v) =>
    if TableSlot.OpensWrite segment then v.name? else none

theorem Value.writtenTable?_eq (preceding : String) (v : Value) :
    v.writtenTable? preceding =
      if TableSlot.OpensWrite preceding then v.name? else none := by
  have plays := v.plays_role preceding
  unfold writtenTable?
  generalize v.role preceding = role at plays
  -- There is one slot at most, so it decides whether a write opens.
  have inSlot {slot : TableSlot} (detected : TableSlot.detect? preceding = some slot) :
      slot.recordsWrite preceding = true ↔ TableSlot.OpensWrite preceding := by
    simp [TableSlot.opensWrite_iff, detected]
  have noSlot (missing : TableSlot.detect? preceding = none) :
      ¬ TableSlot.OpensWrite preceding := by
    simp [TableSlot.opensWrite_iff, missing]
  cases plays with
  | @notAString scalar plain =>
    have noName : (Value.plain scalar).name? = none := by
      cases scalar <;> first | rfl | cases plain
    rw [noName, ite_self]
  | string missing => rw [if_neg (noSlot missing)]
  | stringInSlot detected => simp only [inSlot detected, name?]
  | tableInSlot detected => simp only [inSlot detected, name?]
  | misplacedTable missing => rw [if_neg (noSlot missing)]
  | nested | raw | batch => simp [name?]

namespace Template

theorem writtenTables_eq (t : Template) : t.writtenTables = t.namesWritten := by
  simp only [writtenTables, namesWritten, Value.writtenTable?_eq]

theorem writtenTables_cons (segment : String) (v : Value) (t : Template) :
    writtenTables ⟨segment :: t.segments, v :: t.values⟩ =
      (v.writtenTable? segment).toList ++ t.writtenTables := by
  cases written : v.writtenTable? segment <;> simp [writtenTables, written]

theorem mem_namesWritten {t : Template} {name : String} :
    name ∈ t.namesWritten ↔ ∃ (i : Nat) (segment : String) (v : Value),
      t.segments[i]? = some segment ∧ t.values[i]? = some v ∧
        TableSlot.OpensWrite segment ∧ (v = .table name ∨ v = .plain (.string name)) := by
  rw [namesWritten, List.mem_filterMap]
  simp only [Option.ite_none_right_eq_some, Value.name?_eq_some_iff]
  constructor
  · rintro ⟨⟨segment, v⟩, member, opens, isName⟩
    obtain ⟨i, found⟩ := List.mem_iff_getElem?.mp member
    obtain ⟨atSegment, atValue⟩ := List.getElem?_zip_eq_some.mp found
    exact ⟨i, segment, v, atSegment, atValue, opens, isName⟩
  · rintro ⟨i, segment, v, atSegment, atValue, opens, isName⟩
    have found : (t.segments.zip t.values)[i]? = some (segment, v) :=
      List.getElem?_zip_eq_some.mpr ⟨atSegment, atValue⟩
    exact ⟨⟨segment, v⟩, List.mem_iff_getElem?.mpr ⟨i, found⟩, opens, isName⟩

end Template

/-! ### Noting tables on the way -/

/-- Renders values, each with the segment after it, and notes the tables they write. -/
def Settings.trackAfter (settings : Settings) (preceding : String) (s : Statement)
    (written : List String) : List (Value × String) → Except Rejection (Statement × List String)
  | [] => .ok (s, written)
  | (v, segment) :: others => do
    let s ← settings.renderValue preceding s v
    settings.trackAfter segment (s.pushText segment)
      (written ++ (v.writtenTable? preceding).toList) others

/-- Composes a template in one pass that notes tables; they are recorded only at its end. -/
def Composer.composeOnePass (composer : Composer) (changed : ChangeSet) (t : Template) :
    Except QueryError Statement × ChangeSet :=
  match t.segments with
  | first :: segments =>
    if segments.length = t.values.length then
      match composer.settings.trackAfter first (Statement.literal first) []
          (t.values.zip segments) with
      | .ok (s, written) => (.ok s, changed.insertAll written)
      | .error rejection => (.error rejection.toQueryError, changed)
    else (compose.arityError t, changed)
  | [] => (compose.arityError t, changed)

/-- Noting tables does not interfere with rendering, and finds the tables of the template. -/
theorem Settings.trackAfter_eq (settings : Settings) (preceding : String) (s : Statement)
    (written : List String) {values : List Value} {segments : List String}
    (count : segments.length = values.length) :
    settings.trackAfter preceding s written (values.zip segments) =
      (settings.renderAfter preceding s (values.zip segments)).map fun s =>
        (s, written ++ Template.writtenTables ⟨preceding :: segments, values⟩) := by
  -- What has been noted grows along the way, so it stays general.
  induction values generalizing preceding s written segments with
  | nil => simp [trackAfter, renderAfter, Template.writtenTables, Except.map]
  | cons v values ih =>
    cases segments with
    | nil => cases count
    | cons segment segments =>
      have rest := Template.writtenTables_cons preceding v ⟨segment :: segments, values⟩
      rw [List.zip_cons_cons, trackAfter, renderAfter, rest]
      cases settings.renderValue preceding s v with
      | error => rfl
      | ok s =>
        have others := ih segment (s.pushText segment)
          (written ++ (v.writtenTable? preceding).toList) (Nat.succ.inj count)
        rw [List.append_assoc] at others
        exact others

theorem Composer.composeTracked_eq_onePass (composer : Composer) (changed : ChangeSet)
    (t : Template) : composer.composeTracked changed t = composer.composeOnePass changed t := by
  obtain ⟨segments, values⟩ := t
  cases segments with
  | nil => rfl
  | cons first segments =>
    by_cases count : segments.length = values.length
    · simp only [composeTracked, composeOnePass, compose, if_pos count,
        Settings.trackAfter_eq _ _ _ _ count, List.nil_append]
      cases composer.settings.renderAfter first (Statement.literal first) (values.zip segments) <;>
        rfl
    · simp only [composeTracked, composeOnePass, compose, if_neg count]
      rfl

/-! ### What is recorded -/

namespace Composer

variable {composer : Composer} {changed after : ChangeSet} {t : Template}

/-- A success records the tables of the template. -/
theorem composeTracked_eq_ok_iff {s : Statement} :
    composer.composeTracked changed t = (.ok s, after) ↔
      composer.compose t = .ok s ∧ changed.insertAll t.writtenTables = after := by
  unfold composeTracked
  cases composer.compose t <;> simp

/-- A failure records nothing. -/
theorem composeTracked_eq_error_iff {error : QueryError} :
    composer.composeTracked changed t = (.error error, after) ↔
      composer.compose t = .error error ∧ changed = after := by
  unfold composeTracked
  cases composer.compose t <;> simp

end Composer

/-- The outcome is that of composing without a change set. A failure leaves the set as it was, and a
success appends the names in the slots of written tables that it did not hold, each once. Nothing
that is only read is among them, and no part of a batch or of a nested statement. -/
theorem composeTracked_exact (composer : Composer) (changed : ChangeSet) (t : Template) :
    composer.composeTracked changed t = composer.composeOnePass changed t ∧
    (∀ error, composer.compose t = .error error →
      composer.composeTracked changed t = (.error error, changed)) ∧
    (∀ s, composer.compose t = .ok s → ∃ after : ChangeSet,
      composer.composeTracked changed t = (.ok s, after) ∧
      after.tables =
        changed.tables ++ (t.namesWritten.filter (· ∉ changed.tables)).eraseDups) ∧
    (∀ name, name ∈ t.namesWritten ↔ ∃ (i : Nat) (segment : String) (v : Value),
      t.segments[i]? = some segment ∧ t.values[i]? = some v ∧
        TableSlot.OpensWrite segment ∧ (v = .table name ∨ v = .plain (.string name))) ∧
    ∀ segment, ∀ slot ∈ [TableSlot.fromClause, .joinClause, .usingClause],
      TableSlot.detect? segment = some slot → ¬ TableSlot.OpensWrite segment := by
  refine ⟨composer.composeTracked_eq_onePass changed t, ?failing, ?succeeding,
    fun _ => Template.mem_namesWritten, ?reading⟩
  case failing =>
    intro error failed
    rw [Composer.composeTracked, failed]
  case succeeding =>
    intro s composed
    refine ⟨changed.insertAll t.writtenTables, ?_, ?_⟩
    · rw [Composer.composeTracked, composed]
    · rw [ChangeSet.tables_insertAll, t.writtenTables_eq]
  case reading =>
    intro segment slot member detected
    have reads : ∀ slot ∈ [TableSlot.fromClause, .joinClause, .usingClause],
        slot.mutation? = none := by decide
    exact TableSlot.not_opensWrite_of_reads detected (reads slot member)

/-- A table that is known already, a new one and one that is only read; then a misplaced table. -/
theorem composeTracked_exact_update :
    (∃ after : ChangeSet,
      Composer.standard.composeTracked (.ofList ["logs", "audit"])
          ⟨["UPDATE ", " FROM ", "; DELETE FROM ", ""],
            [.table "users", .table "teams", .plain (.string "logs")]⟩ =
        (.ok (.literal
          "UPDATE \"public\".\"users\" FROM \"public\".\"teams\"; DELETE FROM \"public\".\"logs\""),
          after) ∧
      after.tables = ["logs", "audit", "users"]) ∧
    ∃ error, Composer.standard.composeTracked (.ofList ["logs", "audit"])
        ⟨["UPDATE ", " SET name = ", ""], [.table "users", .table "teams"]⟩ =
      (.error error, .ofList ["logs", "audit"]) := by
  obtain ⟨-, -, succeeding, -⟩ := composeTracked_exact .standard (.ofList ["logs", "audit"])
    ⟨["UPDATE ", " FROM ", "; DELETE FROM ", ""],
      [.table "users", .table "teams", .plain (.string "logs")]⟩
  obtain ⟨after, composed, tables⟩ := succeeding _ rfl
  obtain ⟨-, failing, -⟩ := composeTracked_exact .standard (.ofList ["logs", "audit"])
    ⟨["UPDATE ", " SET name = ", ""], [.table "users", .table "teams"]⟩
  exact ⟨⟨after, composed, tables.trans (by decide +kernel)⟩, _, failing _ rfl⟩

end SqlWeave
