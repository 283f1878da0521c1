import SqlWeave.Proofs.Composition.Plan
import SqlWeave.Proofs.Composition.Tracking
import SqlWeave.Proofs.Phrase

/-!
# Templates in other layouts

Breaking the lines of a template differently gives the same statement but for its layout, and the
same recorded tables, as long as no phrase in front of a name is split in one layout only
(`layout_iff_phrases`). Where one is, the name plays another role: text becomes a table name, or a
written table is not recorded.
-/
namespace SqlWeave

structure Statement.Rewraps (s t : Statement) : Prop where
  text : Text.Rewraps s.text.toList t.text.toList
  values : s.values = t.values
  indices : s.indices = t.indices
  name : s.name = t.name

/-- The same values between segments that differ in layout only. -/
structure Template.Rewraps (t u : Template) : Prop where
  segments : List.Forall₂ (fun a b => Text.Rewraps a.toList b.toList) t.segments u.segments
  values : t.values = u.values

def Template.roles (t : Template) : List Role :=
  t.segments.zipWith (fun segment v => v.role segment) t.values

/-- In front of a name both templates split a phrase or neither does. -/
def Template.KeepsPhrases (t u : Template) : Prop :=
  ∀ (i : Nat) (segment rewrapped : String) (v : Value),
    t.segments[i]? = some segment → u.segments[i]? = some rewrapped → t.values[i]? = some v →
      v.name? ≠ none → (TableSlot.Splits segment ↔ TableSlot.Splits rewrapped)

/-! ### Writing -/

namespace Statement

variable {s t : Statement}

theorem Rewraps.pushText {text rewrapped : String} (rewraps : s.Rewraps t)
    (texts : Text.Rewraps text.toList rewrapped.toList) :
    (s.pushText text).Rewraps (t.pushText rewrapped) where
  text := by simpa [Statement.pushText] using rewraps.text.append texts
  values := rewraps.values
  indices := rewraps.indices
  name := rewraps.name

theorem Rewraps.pushPlaceholder (rewraps : s.Rewraps t) (index : Nat) :
    (s.pushPlaceholder index).Rewraps (t.pushPlaceholder index) where
  text := by simpa [Statement.pushPlaceholder] using rewraps.text.append (.refl _)
  values := rewraps.values
  indices := by
    have known := rewraps.indices
    simp only [Statement.indices] at known
    simp [Statement.indices, Statement.pushPlaceholder, known]
  name := rewraps.name

theorem Rewraps.bind (rewraps : s.Rewraps t) (value : Scalar) :
    (s.bind value).Rewraps (t.bind value) := by
  have placed := rewraps.pushPlaceholder (s.values.length + 1)
  simp only [Statement.bind, ← rewraps.values]
  exact ⟨placed.text, rfl, placed.indices, placed.name⟩

theorem Rewraps.foldl_pushPiece (rewraps : s.Rewraps t) (offset : Nat) (pieces : List Piece) :
    (pieces.foldl (pushPiece offset) s).Rewraps (pieces.foldl (pushPiece offset) t) := by
  induction pieces generalizing s t with
  | nil => exact rewraps
  | cons piece pieces ih =>
    cases piece with
    | text text => exact ih (rewraps.pushText (.refl _))
    | slot index => exact ih (rewraps.pushPlaceholder _)

theorem Rewraps.inline (rewraps : s.Rewraps t) (nested : Statement) :
    (s.inline nested).Rewraps (t.inline nested) := by
  have written := rewraps.foldl_pushPiece s.values.length nested.pieces
  simp only [Statement.inline, ← rewraps.values]
  exact ⟨written.text, rfl, written.indices, written.name⟩

theorem Rewraps.writeAll (rewraps : s.Rewraps t) (writes : List Write) :
    (s.writeAll writes).Rewraps (t.writeAll writes) := by
  induction writes generalizing s t with
  | nil => exact rewraps
  | cons write writes ih =>
    cases write with
    | text text => exact ih (rewraps.pushText (.refl _))
    | value scalar => exact ih (rewraps.bind scalar)
    | statement nested => exact ih (rewraps.inline nested)

end Statement

/-- Both renderings succeed or both stop for one cause, with statements that differ in layout. -/
inductive Rendering.Rewraps : Rendering → Rendering → Prop
  | ok {s t : Statement} : s.Rewraps t → Rewraps (.ok s) (.ok t)
  | error (cause : Cause) {s t : Statement} : s.Rewraps t →
      Rewraps (.error ⟨cause, s⟩) (.error ⟨cause, t⟩)

namespace Rendering.Rewraps

theorem bind {a b : Rendering} {f g : Statement → Rendering} (first : Rewraps a b)
    (next : ∀ s t, s.Rewraps t → Rewraps (f s) (g t)) : Rewraps (a >>= f) (b >>= g) := by
  cases first with
  | ok rewraps => exact next _ _ rewraps
  | error cause rewraps => exact .error cause rewraps

theorem run (p : Plan) {s t : Statement} (rewraps : s.Rewraps t) : Rewraps (p.run s) (p.run t) := by
  have written := rewraps.writeAll p.writes
  unfold Plan.run
  cases p.stopped with
  | none => exact .ok written
  | some cause => exact .error cause written

end Rendering.Rewraps

/-! ### Roles -/

theorem Value.role_eq_iff {v : Value} (isName : v.name? ≠ none) {preceding other : String} :
    v.role preceding = v.role other ↔ TableSlot.detect? preceding = TableSlot.detect? other := by
  obtain ⟨name, named⟩ := Option.ne_none_iff_exists'.mp isName
  rcases Value.name?_eq_some_iff.mp named with rfl | rfl
  all_goals
    simp only [Value.role]
    cases TableSlot.detect? preceding <;> cases TableSlot.detect? other <;> simp

namespace Settings

variable (settings : Settings)

theorem renderValue_rewraps {v : Value} {preceding other : String}
    (same : v.role preceding = v.role other) {s t : Statement} (rewraps : s.Rewraps t) :
    Rendering.Rewraps (settings.renderValue preceding s v) (settings.renderValue other t v) := by
  have plans : settings.valuePlan preceding v = settings.valuePlan other v := by
    rw [valuePlan, valuePlan, same]
  rw [renderValue_eq_run, renderValue_eq_run, plans]
  exact .run _ rewraps

theorem renderAfter_rewraps {preceding other : String} {segments others : List String}
    {values : List Value}
    (layouts : List.Forall₂ (fun a b => Text.Rewraps a.toList b.toList) segments others)
    (roles : Template.roles ⟨preceding :: segments, values⟩ =
      Template.roles ⟨other :: others, values⟩) {s t : Statement} (rewraps : s.Rewraps t) :
    Rendering.Rewraps (settings.renderAfter preceding s (values.zip segments))
      (settings.renderAfter other t (values.zip others)) := by
  -- The segment behind a value is in front of the next one, so all of this stays general.
  induction layouts generalizing preceding other values s t with
  | nil =>
    rw [List.zip_nil_right]
    exact .ok rewraps
  | cons layout _ ih =>
    cases values with
    | nil => exact .ok rewraps
    | cons v values =>
      simp only [Template.roles, List.zipWith_cons_cons, List.cons.injEq] at roles
      obtain ⟨here, later⟩ := roles
      refine (settings.renderValue_rewraps here rewraps).bind fun s t rendered => ?_
      exact ih (by simpa [Template.roles] using later) (rendered.pushText layout)

end Settings

namespace Template

variable {t u : Template}

theorem Rewraps.writtenTables (rewraps : t.Rewraps u) (roles : t.roles = u.roles) :
    t.writtenTables = u.writtenTables := by
  obtain ⟨segments, values⟩ := t
  obtain ⟨others, values'⟩ := u
  obtain ⟨layouts, rfl⟩ := rewraps
  simp only [Template.roles, Template.writtenTables] at layouts roles ⊢
  induction layouts generalizing values with
  | nil => rfl
  | @cons segment other _ _ layout _ ih =>
    cases values with
    | nil => rfl
    | cons v values =>
      simp only [List.zipWith_cons_cons, List.cons.injEq] at roles
      obtain ⟨here, later⟩ := roles
      have table := Value.writtenTable?_eq_of_role_eq here (Operation.detect?_eq_of_rewraps layout)
      simp only [List.zip_cons_cons, List.filterMap_cons, table, ih values later]

theorem Rewraps.at (rewraps : t.Rewraps u) {i : Nat} {segment rewrapped : String}
    (here : t.segments[i]? = some segment) (there : u.segments[i]? = some rewrapped) :
    Text.Rewraps segment.toList rewrapped.toList := by
  obtain ⟨_, each⟩ := List.forall₂_iff_get.mp rewraps.segments
  obtain ⟨inside, rfl⟩ := List.getElem?_eq_some_iff.mp here
  obtain ⟨insideToo, rfl⟩ := List.getElem?_eq_some_iff.mp there
  exact each i inside insideToo

theorem Rewraps.roles_eq_iff (rewraps : t.Rewraps u) : t.roles = u.roles ↔ t.KeepsPhrases u := by
  have role (t : Template) (i : Nat) {segment : String} {v : Value}
      (here : t.segments[i]? = some segment) (value : t.values[i]? = some v) :
      t.roles[i]? = some (v.role segment) := by
    simp [roles, List.getElem?_zipWith, here, value]
  constructor
  · intro same i segment rewrapped v here there value isName
    have roleHere := role t i here value
    have roleThere := role u i there (rewraps.values ▸ value)
    rw [same, roleThere, Option.some.injEq] at roleHere
    rw [← TableSlot.detect?_eq_iff_splits (rewraps.at here there), ← Value.role_eq_iff isName]
    exact roleHere.symm
  · intro keeps
    have length : t.segments.length = u.segments.length := rewraps.segments.length_eq
    refine List.ext_getElem ?_ fun i inside insideToo => ?_
    · simp [roles, length, rewraps.values]
    · simp only [roles, List.length_zipWith, Nat.lt_min] at inside insideToo
      have here := List.getElem?_eq_getElem inside.1
      have there := List.getElem?_eq_getElem insideToo.1
      have value := List.getElem?_eq_getElem inside.2
      simp only [roles, List.getElem_zipWith, ← rewraps.values]
      -- What is no name plays one role everywhere.
      by_cases noName : t.values[i].name? = none
      · exact Value.role_eq_of_name?_eq_none noName _ _
      · rw [Value.role_eq_iff noName, TableSlot.detect?_eq_iff_splits (rewraps.at here there)]
        exact keeps i _ _ _ here there value noName

end Template

/-! ### Composing -/

/-- Templates in two layouts whose values have the same roles compose alike. -/
theorem Composer.compose_rewraps (composer : Composer) {t u : Template} (rewraps : t.Rewraps u)
    (roles : t.roles = u.roles) :
    (∃ s s', composer.compose t = .ok s ∧ composer.compose u = .ok s' ∧ s.Rewraps s') ∨
    ∃ error error', composer.compose t = .error error ∧ composer.compose u = .error error' ∧
      error.cause = error'.cause := by
  obtain ⟨segments, values⟩ := t
  obtain ⟨others, values'⟩ := u
  obtain ⟨layouts, rfl⟩ := rewraps
  dsimp only at layouts
  cases layouts with
  | nil => exact .inr ⟨_, _, rfl, rfl, rfl⟩
  | @cons first other segments others layout layouts =>
    have length := layouts.length_eq
    simp only [compose, length]
    -- Both templates have one number of segments, so either both have a wrong one or neither.
    by_cases count : others.length = values.length
    · have started : (Statement.literal first).Rewraps (Statement.literal other) :=
        ⟨layout, rfl, rfl, rfl⟩
      have rendered := composer.settings.renderAfter_rewraps layouts roles started
      simp only [if_pos count]
      -- How the two came about does not matter any more.
      generalize composer.settings.renderAfter first _ (values.zip segments) = a at rendered ⊢
      generalize composer.settings.renderAfter other _ (values.zip others) = b at rendered ⊢
      cases rendered with
      | ok statements => exact .inl ⟨_, _, rfl, rfl, statements⟩
      | error cause => exact .inr ⟨_, _, rfl, rfl, rfl⟩
    · simp only [if_neg count]
      exact .inr ⟨_, _, rfl, rfl, by simp [length]⟩

/-- Layout changes the slot behind a segment exactly when it splits a phrase there, and it changes
the role of a value exactly when such a phrase stands in front of a name. Where it does not, both
templates compose to the same statement but for layout, or fail for the same cause, and record the
same tables. -/
theorem layout_iff_phrases {t u : Template} (rewraps : t.Rewraps u) :
    (∀ (i : Nat) (segment rewrapped : String),
      t.segments[i]? = some segment → u.segments[i]? = some rewrapped →
        (TableSlot.detect? segment = TableSlot.detect? rewrapped ↔
          (TableSlot.Splits segment ↔ TableSlot.Splits rewrapped))) ∧
    (t.roles = u.roles ↔ t.KeepsPhrases u) ∧
    (t.KeepsPhrases u → ∀ (composer : Composer) (changed : ChangeSet),
      (∃ (s s' : Statement) (after : ChangeSet),
        composer.composeTracked changed t = (.ok s, after) ∧
        composer.composeTracked changed u = (.ok s', after) ∧ s.Rewraps s') ∨
      ∃ error error', composer.composeTracked changed t = (.error error, changed) ∧
        composer.composeTracked changed u = (.error error', changed) ∧
        error.cause = error'.cause) := by
  refine ⟨fun i segment rewrapped here there => ?_, rewraps.roles_eq_iff, ?_⟩
  · exact TableSlot.detect?_eq_iff_splits (rewraps.at here there)
  · intro keeps composer changed
    have roles := rewraps.roles_eq_iff.mpr keeps
    -- The roles decide which tables are written, so these are the same as well.
    have tables := rewraps.writtenTables roles
    rcases composer.compose_rewraps rewraps roles with
      ⟨s, s', composed, composedToo, statements⟩ | ⟨error, error', failed, failedToo, causes⟩
    · refine .inl ⟨s, s', changed.insertAll t.writtenTables, ?_, ?_, statements⟩
      · rw [Composer.composeTracked, composed]
      · rw [Composer.composeTracked, composedToo, tables]
    · refine .inr ⟨error, error', ?_, ?_, causes⟩
      · rw [Composer.composeTracked, failed]
      · rw [Composer.composeTracked, failedToo]

/-- Lines broken everywhere, and inside a phrase where no name follows it. -/
theorem layout_iff_phrases_delete :
    Template.Rewraps
      ⟨["DELETE FROM ", " WHERE a IS DISTINCT FROM ", " AND name = ", ""],
        [.table "users", .plain (.int 7), .plain (.string "Ann")]⟩
      ⟨["DELETE FROM\n  ", "\nWHERE a IS DISTINCT\n  FROM\t", "\r\n  AND name = ", ""],
        [.table "users", .plain (.int 7), .plain (.string "Ann")]⟩ ∧
    ∃ (s s' : Statement) (after : ChangeSet),
      Composer.standard.composeTracked .empty
        ⟨["DELETE FROM ", " WHERE a IS DISTINCT FROM ", " AND name = ", ""],
          [.table "users", .plain (.int 7), .plain (.string "Ann")]⟩ = (.ok s, after) ∧
      Composer.standard.composeTracked .empty
        ⟨["DELETE FROM\n  ", "\nWHERE a IS DISTINCT\n  FROM\t", "\r\n  AND name = ", ""],
          [.table "users", .plain (.int 7), .plain (.string "Ann")]⟩ = (.ok s', after) ∧
      s.Rewraps s' ∧ after.tables = ["users"] := by
  have space : Text.IsGap [' '] := by decide
  have delete : Text.Rewraps ("DELETE FROM".toList ++ [' '])
      ("DELETE FROM".toList ++ ['\n', ' ', ' ']) :=
    .append (.refl _) (.of_gap space (by decide))
  have predicate : Text.Rewraps
      ([' '] ++ ("WHERE a IS DISTINCT".toList ++ ([' '] ++ ("FROM".toList ++ [' ']))))
      (['\n'] ++ ("WHERE a IS DISTINCT".toList ++ (['\n', ' ', ' '] ++
        ("FROM".toList ++ ['\t'])))) :=
    .gap space (by decide) (.append (.refl _)
      (.gap space (by decide) (.append (.refl _) (.of_gap space (by decide)))))
  have equality : Text.Rewraps ([' '] ++ "AND name = ".toList)
      (['\r', '\n', ' ', ' '] ++ "AND name = ".toList) :=
    .gap space (by decide) (.refl _)
  have rewraps : Template.Rewraps
      ⟨["DELETE FROM ", " WHERE a IS DISTINCT FROM ", " AND name = ", ""],
        [.table "users", .plain (.int 7), .plain (.string "Ann")]⟩
      ⟨["DELETE FROM\n  ", "\nWHERE a IS DISTINCT\n  FROM\t", "\r\n  AND name = ", ""],
        [.table "users", .plain (.int 7), .plain (.string "Ann")]⟩ :=
    ⟨.cons delete (.cons predicate (.cons equality (.cons (.refl _) .nil))), rfl⟩
  obtain ⟨slots, -, composing⟩ := layout_iff_phrases rewraps
  have outcome := composing (by
    intro i segment rewrapped v here there value isName
    refine (slots i segment rewrapped here there).mp ?_
    match i, here, there, value with
    | 0, rfl, rfl, rfl => decide
    | 1, rfl, rfl, rfl => exact absurd rfl isName
    | 2, rfl, rfl, rfl => decide) .standard .empty
  refine ⟨rewraps, ?_⟩
  rcases outcome with
    ⟨s, s', after, composed, composedToo, statements⟩ | ⟨error, error', failed, -⟩
  · have recorded : (Composer.standard.composeTracked .empty
        ⟨["DELETE FROM ", " WHERE a IS DISTINCT FROM ", " AND name = ", ""],
          [.table "users", .plain (.int 7), .plain (.string "Ann")]⟩).2.tables = ["users"] := by
      decide +kernel
    rw [composed] at recorded
    exact ⟨s, s', after, composed, composedToo, statements, recorded⟩
  · have succeeds : (Composer.standard.composeTracked .empty
        ⟨["DELETE FROM ", " WHERE a IS DISTINCT FROM ", " AND name = ", ""],
          [.table "users", .plain (.int 7), .plain (.string "Ann")]⟩).1.isOk = true := by decide
    rw [failed] at succeeds
    cases succeeds

/-- A line broken inside a phrase in front of a name: text becomes a table, a written table is not
recorded, and a table is refused. -/
theorem layout_changes_roles :
    Text.Rewraps "SELECT a IS DISTINCT FROM ".toList "SELECT a IS DISTINCT\nFROM ".toList ∧
    TableSlot.detect? "SELECT a IS DISTINCT FROM " = none ∧
    TableSlot.detect? "SELECT a IS DISTINCT\nFROM " = some .fromClause ∧
    Composer.standard.compose ⟨["SELECT a IS DISTINCT FROM ", ""], [.plain (.string "x")]⟩ =
      .ok ⟨"SELECT a IS DISTINCT FROM $1", [.string "x"], [⟨26, 28, 1⟩], none⟩ ∧
    Composer.standard.compose ⟨["SELECT a IS DISTINCT\nFROM ", ""], [.plain (.string "x")]⟩ =
      .ok ⟨"SELECT a IS DISTINCT\nFROM \"public\".\"x\"", [], [], none⟩ ∧
    (Composer.standard.composeTracked .empty ⟨["DELETE FROM ", ""], [.table "t"]⟩).2.tables =
      ["t"] ∧
    (Composer.standard.composeTracked .empty ⟨["DELETE\nFROM ", ""], [.table "t"]⟩).2.tables =
      [] ∧
    (Composer.standard.compose ⟨["INSERT INTO ", ""], [.table "t"]⟩).isOk = true ∧
    (Composer.standard.compose ⟨["INSERT\nINTO ", ""], [.table "t"]⟩).isOk = false := by
  have rewraps : Text.Rewraps ("SELECT a IS DISTINCT".toList ++ ([' '] ++ "FROM ".toList))
      ("SELECT a IS DISTINCT".toList ++ (['\n'] ++ "FROM ".toList)) :=
    .append (.refl _) (.gap (by decide) (by decide) (.refl _))
  exact ⟨rewraps, by decide, by decide, rfl, rfl, by decide +kernel, by decide +kernel, by decide,
    by decide⟩

end SqlWeave
