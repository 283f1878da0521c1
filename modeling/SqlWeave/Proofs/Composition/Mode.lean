import SqlWeave.Proofs.Composition.Plan
import SqlWeave.Proofs.Composition.Tracking

/-!
# Strict and permissive composition

Both modes write the same until a value is malformed. Strict mode stops there, permissive mode binds
the value and goes on, so what strict mode has written is the beginning of what permissive mode
writes (`Plan.CutOf`). Where strict mode gives a statement, permissive mode gives the same one
(`strict_refines_permissive`).
-/
namespace SqlWeave

/-- The same settings with another treatment of malformed values. -/
def Settings.inMode (settings : Settings) (mode : Mode) : Settings := { settings with mode }

theorem Settings.problem?_inMode (settings : Settings) (mode : Mode) :
    (settings.inMode mode).problem? = settings.problem? := rfl

def Composer.inMode (composer : Composer) (mode : Mode) : Composer :=
  ⟨composer.settings.inMode mode, (composer.settings.problem?_inMode mode).trans composer.inOrder⟩

/-! ### Plans that are cut off -/

/-- The first plan writes the beginning of what the second one writes, and the second one goes on to
the end. -/
structure Plan.CutOf (p q : Plan) : Prop where
  complete : q.stopped = none
  begins : p.writes <+: q.writes
  whole : p.stopped = none → p.writes = q.writes
  composition : ∀ cause, p.stopped = some cause → cause.code.isComposition = true

namespace Plan

theorem CutOf.of_ends {p : Plan} (ends : p.stopped = none) : p.CutOf p where
  complete := ends
  begins := List.prefix_rfl
  whole := fun _ => rfl
  composition := fun cause stopped => by simp [ends] at stopped

theorem cutOf_ofWrite (write : Write) : (ofWrite write).CutOf (ofWrite write) := .of_ends rfl

theorem cutOf_stop {cause : Cause} (composition : cause.code.isComposition = true) {q : Plan}
    (ends : q.stopped = none) : (stop cause).CutOf q where
  complete := ends
  begins := List.nil_prefix
  whole := fun ended => by cases ended
  composition := fun other stopped => Option.some.inj stopped ▸ composition

theorem CutOf.andThen {p q others rest : Plan} (first : p.CutOf q) (later : others.CutOf rest) :
    (p.andThen others).CutOf (q.andThen rest) := by
  have complete : (q.andThen rest).stopped = none := by
    rw [stopped_andThen first.complete, later.complete]
  have writes : (q.andThen rest).writes = q.writes ++ rest.writes :=
    writes_andThen first.complete rest
  cases stopped : p.stopped with
  | none =>
    refine ⟨complete, ?_, ?_, ?_⟩
    · rw [writes_andThen stopped, writes, first.whole stopped]
      exact (List.prefix_append_right_inj _).mpr later.begins
    · intro ended
      rw [stopped_andThen stopped] at ended
      rw [writes_andThen stopped, writes, first.whole stopped, later.whole ended]
    · rw [stopped_andThen stopped]
      exact later.composition
  | some cause =>
    -- Nothing follows a plan that stops, while the other one goes on.
    rw [andThen_of_stopped stopped]
    refine ⟨complete, ?_, ?_, first.composition⟩
    · rw [writes]
      exact first.begins.trans (List.prefix_append _ _)
    · intro ended
      cases stopped.symm.trans ended

theorem cutOf_concat {plans others : List Plan} (each : List.Forall₂ CutOf plans others) :
    (concat plans).CutOf (concat others) := by
  induction each with
  | nil => exact .of_ends rfl
  | cons first _ ih => exact first.andThen ih

theorem cutOf_separated {α : Type} {plan other : α → Plan} {items : List α}
    (each : ∀ item ∈ items, (plan item).CutOf (other item)) :
    (separated (items.map plan)).CutOf (separated (items.map other)) := by
  have plans : List.Forall₂ CutOf (items.map plan) (items.map other) := by
    rw [List.forall₂_map_left_iff, List.forall₂_map_right_iff, List.forall₂_same]
    exact each
  exact cutOf_concat (forall₂_intersperse (cutOf_ofWrite _) plans)

end Plan

/-! ### Plans of the two modes -/

namespace Settings

theorem isComposition_of_shapeProblem? {rows : List (List Value)} {cause : Cause}
    (problem : shapeProblem? rows = some cause) : cause.code.isComposition = true := by
  -- The number of the row goes up, so the induction is for all numbers.
  have ragged (width i : Nat) (rows : List (List Value))
      (found : raggedRow? width i rows = some cause) : cause.code.isComposition = true := by
    induction rows generalizing i with
    | nil => cases found
    | cons row rows ih =>
      rw [raggedRow?] at found
      split at found
      · exact ih (i + 1) found
      · cases found
        rfl
  cases rows with
  | nil =>
    cases problem
    rfl
  | cons first rows =>
    rw [shapeProblem?] at problem
    split at problem
    · cases problem
      rfl
    · exact ragged first.length 1 rows problem

variable (settings : Settings)

private theorem cutOf_rejectPlan {cause : Cause} (composition : cause.code.isComposition = true)
    (v : Value) : ((settings.inMode .strict).rejectPlan cause v).CutOf
      ((settings.inMode .permissive).rejectPlan cause v) :=
  Plan.cutOf_stop composition rfl

private theorem cutOf_cellPlan (cell : Value) : ((settings.inMode .strict).cellPlan cell).CutOf
    ((settings.inMode .permissive).cellPlan cell) := by
  cases cell with
  | plain scalar => exact Plan.cutOf_ofWrite (.value scalar)
  | nested statement => exact Plan.cutOf_ofWrite (.statement statement)
  | raw text =>
    by_cases asks : settings.asksForDefault text = true
    · have keyword (mode : Mode) :
          (settings.inMode mode).cellPlan (.raw text) = .ofWrite (.text text) := if_pos asks
      rw [keyword, keyword]
      exact Plan.cutOf_ofWrite (.text text)
    · have other (mode : Mode) : (settings.inMode mode).cellPlan (.raw text) =
          (settings.inMode mode).rejectPlan
            (.unsafeBatchCell text settings.defaultKeyword) (.raw text) := if_neg asks
      rw [other, other]
      exact settings.cutOf_rejectPlan rfl _
  | batch => exact settings.cutOf_rejectPlan rfl _
  | table => exact settings.cutOf_rejectPlan rfl _

private theorem cutOf_rowPlan (row : List Value) : ((settings.inMode .strict).rowPlan row).CutOf
    ((settings.inMode .permissive).rowPlan row) := by
  have cells := Plan.cutOf_separated fun cell (_ : cell ∈ row) => settings.cutOf_cellPlan cell
  exact Plan.cutOf_concat (.cons (Plan.cutOf_ofWrite _)
    (.cons cells (.cons (Plan.cutOf_ofWrite _) .nil)))

private theorem cutOf_batchPlan (rows : List (List Value)) :
    ((settings.inMode .strict).batchPlan rows).CutOf
      ((settings.inMode .permissive).batchPlan rows) := by
  unfold batchPlan
  -- The shape is looked at before the mode.
  cases problem : shapeProblem? rows with
  | none => exact Plan.cutOf_separated fun row _ => settings.cutOf_rowPlan row
  | some cause => exact settings.cutOf_rejectPlan (isComposition_of_shapeProblem? problem) _

private theorem cutOf_valuePlan (preceding : String) (v : Value) :
    ((settings.inMode .strict).valuePlan preceding v).CutOf
      ((settings.inMode .permissive).valuePlan preceding v) := by
  unfold valuePlan
  cases v.role preceding with
  | parameter | tableName | nested | raw => exact Plan.cutOf_ofWrite _
  | batch rows => exact settings.cutOf_batchPlan rows
  | misplacedTable => exact settings.cutOf_rejectPlan rfl _

private theorem cutOf_plansAfter (preceding : String) (pairs : List (Value × String)) :
    List.Forall₂ Plan.CutOf ((settings.inMode .strict).plansAfter preceding pairs)
      ((settings.inMode .permissive).plansAfter preceding pairs) := by
  induction pairs generalizing preceding with
  | nil => exact .nil
  | cons pair others ih =>
    obtain ⟨v, segment⟩ := pair
    exact .cons (settings.cutOf_valuePlan preceding v) (.cons (Plan.cutOf_ofWrite _) (ih segment))

end Settings

/-- The plan of a template in strict mode is that in permissive mode, cut off where a value is
malformed. -/
theorem Template.cutOf_plan (settings : Settings) (t : Template) :
    (t.plan (settings.inMode .strict)).CutOf (t.plan (settings.inMode .permissive)) := by
  unfold plan
  cases t.segments with
  | nil => exact .of_ends rfl
  | cons first segments =>
    exact Plan.cutOf_concat (.cons (Plan.cutOf_ofWrite _)
      (settings.cutOf_plansAfter first (t.values.zip segments)))

/-! ### Texts -/

namespace Statement

theorem text_prefix_write (s : Statement) (write : Write) :
    s.text.toList <+: (s.write write).text.toList := by
  have pushed (s : Statement) (offset : Nat) (pieces : List Piece) :
      s.text.toList <+: (pieces.foldl (pushPiece offset) s).text.toList := by
    induction pieces generalizing s with
    | nil => exact List.prefix_rfl
    | cons piece pieces ih =>
      have first : s.text.toList <+: (s.pushPiece offset piece).text.toList := by
        cases piece <;> simp [pushPiece, pushText, pushPlaceholder]
      exact first.trans (ih _)
  -- A statement is written piece by piece, and each piece is appended.
  cases write with
  | text text => simp [Statement.write, pushText]
  | value scalar => simp [Statement.write, bind, pushPlaceholder]
  | statement nested => exact pushed s s.values.length nested.pieces

theorem text_prefix_writeAll (s : Statement) (writes : List Write) :
    s.text.toList <+: (s.writeAll writes).text.toList :=
  writeAll_preserves (P := fun r => s.text.toList <+: r.text.toList) (Q := fun _ => True)
    (fun r write before _ => before.trans (r.text_prefix_write write)) List.prefix_rfl
    fun _ _ => trivial

theorem text_prefix_of_writes (s : Statement) {a b : List Write} (begins : a <+: b) :
    (s.writeAll a).text.toList <+: (s.writeAll b).text.toList := by
  obtain ⟨rest, rfl⟩ := begins
  rw [writeAll_append]
  exact text_prefix_writeAll _ rest

end Statement

/-! ### Composing -/

namespace Composer

variable {composer : Composer} {t : Template} {s : Statement} {error : QueryError}

/-- Only a template that is not well-formed fails in permissive mode. -/
theorem compose_permissive (composer : Composer) (formed : t.isWellFormed = true) :
    (composer.inMode .permissive).compose t =
      .ok (Statement.empty.writeAll (t.plan (composer.inMode .permissive).settings).writes) :=
  compose_eq_ok_iff.mpr ⟨formed, (t.cutOf_plan composer.settings).complete, rfl⟩

theorem compose_of_malformed (composer : Composer) (malformed : t.isWellFormed = false) :
    composer.compose t = compose.arityError t := by
  rw [compose_eq_run, malformed, if_neg Bool.false_ne_true]

theorem compose_permissive_of_strict (composed : (composer.inMode .strict).compose t = .ok s) :
    (composer.inMode .permissive).compose t = .ok s := by
  obtain ⟨formed, ends, written⟩ := compose_eq_ok_iff.mp composed
  have same := (t.cutOf_plan composer.settings).whole ends
  rw [compose_permissive composer formed]
  exact congrArg Except.ok ((congrArg Statement.empty.writeAll same.symm).trans written)

theorem begins_of_strict_error (formed : t.isWellFormed = true)
    (failed : (composer.inMode .strict).compose t = .error error) :
    error.code.isComposition = true ∧ ∃ sql s, error.sql = some sql ∧
      (composer.inMode .permissive).compose t = .ok s ∧ sql.toList <+: s.text.toList := by
  obtain ⟨cause, stopped, rfl⟩ := (compose_eq_error_iff formed).mp failed
  have cut := t.cutOf_plan composer.settings
  -- The error quotes the text up to the place where the strict plan stops.
  exact ⟨cut.composition cause stopped, _, _, rfl, compose_permissive composer formed,
    Statement.empty.text_prefix_of_writes cut.begins⟩

end Composer

/-- Permissive mode gives a statement for every template with a segment more than values, and both
modes give the same error for every other one. What strict mode gives, permissive mode gives as
well, and where strict mode rejects a value, it quotes the beginning of the permissive text. -/
theorem strict_refines_permissive (composer : Composer) (changed : ChangeSet) (t : Template) :
    ((∃ s after, (composer.inMode .permissive).composeTracked changed t = (.ok s, after)) ↔
      t.segments.length = t.values.length + 1) ∧
    (t.segments.length ≠ t.values.length + 1 → ∃ error, error.code = .templateArity ∧
      ∀ mode, (composer.inMode mode).composeTracked changed t = (.error error, changed)) ∧
    (∀ s after, (composer.inMode .strict).composeTracked changed t = (.ok s, after) →
      (composer.inMode .permissive).composeTracked changed t = (.ok s, after)) ∧
    ∀ error after, t.segments.length = t.values.length + 1 →
      (composer.inMode .strict).composeTracked changed t = (.error error, after) →
      error.code.isComposition = true ∧ ∃ sql s after, error.sql = some sql ∧
        (composer.inMode .permissive).composeTracked changed t = (.ok s, after) ∧
        sql.toList <+: s.text.toList := by
  have wellFormed_iff : t.isWellFormed = true ↔ t.segments.length = t.values.length + 1 :=
    decide_eq_true_iff
  refine ⟨⟨?arity, ?total⟩, ?malformed, ?same, ?begins⟩
  case arity =>
    rintro ⟨s, after, composed⟩
    obtain ⟨composed, -⟩ := Composer.composeTracked_eq_ok_iff.mp composed
    exact wellFormed_iff.mp (Composer.compose_eq_ok_iff.mp composed).1
  case total =>
    intro count
    have composed := composer.compose_permissive (wellFormed_iff.mpr count)
    exact ⟨_, _, Composer.composeTracked_eq_ok_iff.mpr ⟨composed, rfl⟩⟩
  case malformed =>
    intro count
    have malformed : t.isWellFormed = false :=
      Bool.eq_false_iff.mpr fun formed => count (wellFormed_iff.mp formed)
    have failed (mode : Mode) := (composer.inMode mode).compose_of_malformed malformed
    exact ⟨_, rfl, fun mode => Composer.composeTracked_eq_error_iff.mpr ⟨failed mode, rfl⟩⟩
  case same =>
    intro s after composed
    obtain ⟨composed, recorded⟩ := Composer.composeTracked_eq_ok_iff.mp composed
    exact Composer.composeTracked_eq_ok_iff.mpr
      ⟨Composer.compose_permissive_of_strict composed, recorded⟩
  case begins =>
    intro error after count failed
    obtain ⟨failed, -⟩ := Composer.composeTracked_eq_error_iff.mp failed
    -- The error quotes what is in front of the fault; permissive composing goes on from there.
    obtain ⟨composition, sql, s, quoted, composed, begins⟩ :=
      Composer.begins_of_strict_error (wellFormed_iff.mpr count) failed
    exact ⟨composition, sql, s, _, quoted,
      Composer.composeTracked_eq_ok_iff.mpr ⟨composed, rfl⟩, begins⟩

/-- A batch whose second cell is neither data nor the default keyword: strict mode stops in the
middle of the row. With data in its place both modes agree. -/
theorem strict_refines_permissive_cell :
    (∃ error sql s after,
      (Composer.standard.inMode .strict).composeTracked .empty
          ⟨["INSERT INTO ", " VALUES ", ""],
            [.table "users", .batch [[.plain (.int 1), .raw "now()"]]]⟩ = (.error error, .empty) ∧
      error.code.isComposition = true ∧ error.sql = some sql ∧
      (Composer.standard.inMode .permissive).composeTracked .empty
          ⟨["INSERT INTO ", " VALUES ", ""],
            [.table "users", .batch [[.plain (.int 1), .raw "now()"]]]⟩ = (.ok s, after) ∧
      sql.toList <+: s.text.toList) ∧
    (Composer.standard.inMode .permissive).composeTracked .empty
        ⟨["INSERT INTO ", " VALUES ", ""],
          [.table "users", .batch [[.plain (.int 1), .plain .null]]]⟩ =
      (.ok ⟨"INSERT INTO \"public\".\"users\" VALUES ($1,$2)", [.int 1, .null],
        [⟨37, 39, 1⟩, ⟨40, 42, 2⟩], none⟩, .ofList ["users"]) := by
  obtain ⟨-, -, -, begins⟩ := strict_refines_permissive .standard .empty
    ⟨["INSERT INTO ", " VALUES ", ""],
      [.table "users", .batch [[.plain (.int 1), .raw "now()"]]]⟩
  obtain ⟨-, -, same, -⟩ := strict_refines_permissive .standard .empty
    ⟨["INSERT INTO ", " VALUES ", ""],
      [.table "users", .batch [[.plain (.int 1), .plain .null]]]⟩
  obtain ⟨composition, sql, s, after, quoted, composed, shorter⟩ := begins _ _ rfl rfl
  exact ⟨⟨_, sql, s, after, rfl, composition, quoted, composed, shorter⟩, same _ _ rfl⟩

end SqlWeave
