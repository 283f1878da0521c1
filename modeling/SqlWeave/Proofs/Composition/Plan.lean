import Mathlib.Data.List.Forall2
import SqlWeave.Proofs.Composition.Role
import SqlWeave.Proofs.Identifier

/-!
# Plans

Composing decides what to write without looking at what has been written. `Template.plan` is that
decision: a list of writes and, if a value is rejected, the cause. `compose_eq_run` says that
composing a template carries its plan out, so results about composition are results about lists of
writes.
-/
namespace SqlWeave

/-- One step of writing a statement. -/
inductive Write where
  | text (text : String)
  | value (scalar : Scalar)
  | statement (nested : Statement)

namespace Statement

def write (s : Statement) : Write → Statement
  | .text text => s.pushText text
  | .value scalar => s.bind scalar
  | .statement nested => s.inline nested

def writeAll (s : Statement) (writes : List Write) : Statement := writes.foldl write s

theorem writeAll_append (s : Statement) (a b : List Write) :
    s.writeAll (a ++ b) = (s.writeAll a).writeAll b :=
  List.foldl_append

/-- What one write preserves, all of them preserve. -/
theorem writeAll_preserves {P : Statement → Prop} {Q : Write → Prop}
    (step : ∀ s write, P s → Q write → P (s.write write)) {s : Statement} (holds : P s)
    {writes : List Write} (each : ∀ write ∈ writes, Q write) : P (s.writeAll writes) := by
  induction writes generalizing s with
  | nil => exact holds
  | cons write writes ih =>
    obtain ⟨first, others⟩ := List.forall_mem_cons.mp each
    exact ih (step s write holds first) others

end Statement

/-- What is written before the end, or before a value is rejected for a cause. -/
structure Plan where
  writes : List Write
  stopped : Option Cause

namespace Plan

def done : Plan := ⟨[], none⟩

def ofWrite (write : Write) : Plan := ⟨[write], none⟩

def stop (cause : Cause) : Plan := ⟨[], some cause⟩

/-- One plan after another; the second is not begun if the first stops. -/
def andThen (p q : Plan) : Plan :=
  match p.stopped with
  | none => ⟨p.writes ++ q.writes, q.stopped⟩
  | some _ => p

def concat (plans : List Plan) : Plan := plans.foldr andThen done

/-- Plans with a comma between each two. -/
def separated (plans : List Plan) : Plan := concat (plans.intersperse (ofWrite (.text ",")))

/-- Carries a plan out on a statement. -/
def run (p : Plan) (s : Statement) : Rendering :=
  match p.stopped with
  | none => .ok (s.writeAll p.writes)
  | some cause => .error ⟨cause, s.writeAll p.writes⟩

theorem stopped_andThen {p : Plan} (ends : p.stopped = none) (q : Plan) :
    (p.andThen q).stopped = q.stopped := by
  rw [andThen, ends]

theorem writes_andThen {p : Plan} (ends : p.stopped = none) (q : Plan) :
    (p.andThen q).writes = p.writes ++ q.writes := by
  rw [andThen, ends]

/-- A plan that stops is never left. -/
theorem andThen_of_stopped {p : Plan} {cause : Cause} (stops : p.stopped = some cause) (q : Plan) :
    p.andThen q = p := by
  rw [andThen, stops]

theorem run_andThen (p q : Plan) (s : Statement) : (p.andThen q).run s = p.run s >>= q.run := by
  cases stopped : p.stopped with
  | none =>
    simp only [run, andThen, stopped, Statement.writeAll_append]
    rfl
  | some cause =>
    simp only [run, andThen, stopped]
    rfl

theorem run_concat (plans : List Plan) (s : Statement) :
    (concat plans).run s = plans.foldlM (fun s p => p.run s) s := by
  induction plans generalizing s with
  | nil => rfl
  | cons p plans ih =>
    rw [List.foldlM_cons, ← funext ih, ← run_andThen]
    rfl

theorem intersperse_cons {α : Type} (separator x : α) (xs : List α) :
    (x :: xs).intersperse separator = x :: xs.flatMap fun y => [separator, y] := by
  induction xs generalizing x with
  | nil => rfl
  | cons y xs ih =>
    rw [List.intersperse_cons_cons, ih]
    rfl

theorem forall₂_intersperse {α β : Type} {R : α → β → Prop} {xs : List α} {ys : List β}
    {x : α} {y : β} (separators : R x y) (each : List.Forall₂ R xs ys) :
    List.Forall₂ R (xs.intersperse x) (ys.intersperse y) := by
  induction each with
  | nil => exact .nil
  | cons first rest ih =>
    cases rest with
    | nil => exact .cons first .nil
    | cons second others => exact .cons first (.cons separators ih)

/-- A rendering function that carries plans out also carries out their separated sequence. -/
theorem renderSeparated_eq_run {α : Type} (render : Statement → α → Rendering) (plan : α → Plan)
    (agree : ∀ s item, render s item = (plan item).run s) (s : Statement) (items : List α) :
    renderSeparated render s items = (separated (items.map plan)).run s := by
  cases items with
  | nil => rfl
  | cons first others =>
    -- The first item stands alone; every other one comes with the comma in front of it.
    have step (s : Statement) (item : α) :
        render (s.pushText ",") item =
          [ofWrite (.text ","), plan item].foldlM (fun s p => p.run s) s := by
      rw [agree]
      exact (bind_pure ((plan item).run (s.pushText ","))).symm
    have rest (s : Statement) :
        others.foldlM (fun s item => render (s.pushText ",") item) s =
          (others.flatMap fun item => [ofWrite (.text ","), plan item]).foldlM
            (fun s p => p.run s) s := by
      induction others generalizing s with
      | nil => rfl
      | cons item others ih =>
        rw [List.foldlM_cons, List.flatMap_cons, List.foldlM_append, step]
        exact congrArg _ (funext ih)
    rw [separated, List.map_cons, intersperse_cons, run_concat, List.foldlM_cons, List.flatMap_map,
      renderSeparated, agree]
    exact congrArg _ (funext rest)

end Plan

namespace Settings

variable (settings : Settings)

def rejectPlan (cause : Cause) (v : Value) : Plan :=
  match settings.mode with
  | .strict => .stop cause
  | .permissive => .ofWrite (.value v.toScalar)

def cellPlan : Value → Plan
  | .plain scalar => .ofWrite (.value scalar)
  | .nested statement => .ofWrite (.statement statement)
  | .raw text =>
    if settings.asksForDefault text then .ofWrite (.text text)
    else settings.rejectPlan (.unsafeBatchCell text settings.defaultKeyword) (.raw text)
  | .batch rows => settings.rejectPlan .nestedBatch (.batch rows)
  | .table name => settings.rejectPlan (.misplacedTable name) (.table name)

def rowPlan (row : List Value) : Plan :=
  .concat [.ofWrite (.text "("), .separated (row.map settings.cellPlan), .ofWrite (.text ")")]

def batchPlan (rows : List (List Value)) : Plan :=
  match shapeProblem? rows with
  | some cause => settings.rejectPlan cause (.batch rows)
  | none => .separated (rows.map settings.rowPlan)

def valuePlan (preceding : String) (v : Value) : Plan :=
  match v.role preceding with
  | .parameter scalar => .ofWrite (.value scalar)
  | .tableName _ name => .ofWrite (.text (Identifier.qualify settings.schema name))
  | .nested statement => .ofWrite (.statement statement)
  | .raw text => .ofWrite (.text text)
  | .batch rows => settings.batchPlan rows
  | .misplacedTable name => settings.rejectPlan (.misplacedTable name) (.table name)

/-- The plans of values, each followed by that of the segment after it. -/
def plansAfter (preceding : String) : List (Value × String) → List Plan
  | [] => []
  | (v, segment) :: others =>
    settings.valuePlan preceding v :: .ofWrite (.text segment) :: plansAfter segment others

theorem reject_eq_run (cause : Cause) (v : Value) (s : Statement) :
    settings.reject s cause v = (settings.rejectPlan cause v).run s := by
  cases mode : settings.mode <;> simp only [reject, rejectPlan, mode] <;> rfl

theorem renderCell_eq_run (s : Statement) (cell : Value) :
    settings.renderCell s cell = (settings.cellPlan cell).run s := by
  cases cell with
  | plain => rfl
  | nested => rfl
  | raw text =>
    simp only [renderCell, cellPlan]
    split
    · rfl
    · exact settings.reject_eq_run _ _ s
  | batch => exact settings.reject_eq_run _ _ s
  | table => exact settings.reject_eq_run _ _ s

theorem renderRow_eq_run (s : Statement) (row : List Value) :
    settings.renderRow s row = (settings.rowPlan row).run s := by
  have cells := Plan.renderSeparated_eq_run settings.renderCell settings.cellPlan
    settings.renderCell_eq_run (s.pushText "(") row
  simp only [renderRow, rowPlan, cells, Plan.run_concat]
  rfl

theorem renderBatch_eq_run (s : Statement) (rows : List (List Value)) :
    settings.renderBatch s rows = (settings.batchPlan rows).run s := by
  cases problem : shapeProblem? rows with
  | some cause =>
    simp only [renderBatch, batchPlan, problem]
    exact settings.reject_eq_run cause _ s
  | none =>
    simp only [renderBatch, batchPlan, problem]
    exact Plan.renderSeparated_eq_run settings.renderRow settings.rowPlan
      settings.renderRow_eq_run s rows

theorem renderValue_eq_run (preceding : String) (s : Statement) (v : Value) :
    settings.renderValue preceding s v = (settings.valuePlan preceding v).run s := by
  unfold renderValue valuePlan
  generalize v.role preceding = role
  cases role with
  | parameter => rfl
  | tableName _ name =>
    dsimp only
    rw [Identifier.pushQualified_eq]
    rfl
  | nested => rfl
  | raw => rfl
  | batch rows => exact settings.renderBatch_eq_run s rows
  | misplacedTable => exact settings.reject_eq_run _ _ s

theorem renderAfter_eq_run (preceding : String) (s : Statement) (pairs : List (Value × String)) :
    settings.renderAfter preceding s pairs =
      (Plan.concat (settings.plansAfter preceding pairs)).run s := by
  -- Each segment is also what precedes the next value, so both stay general.
  induction pairs generalizing preceding s with
  | nil => rfl
  | cons pair others ih =>
    obtain ⟨v, segment⟩ := pair
    rw [renderAfter, plansAfter, Plan.run_concat, List.foldlM_cons, renderValue_eq_run]
    apply congrArg
    funext s
    exact (ih segment (s.pushText segment)).trans (Plan.run_concat _ _)

end Settings

/-- The plan of a template that has a segment more than values. -/
def Template.plan (settings : Settings) (t : Template) : Plan :=
  match t.segments with
  | [] => .done
  | first :: segments =>
    .concat (.ofWrite (.text first) :: settings.plansAfter first (t.values.zip segments))

namespace Template

/-- A template whose first value is taken off still says what is written after that value. -/
theorem run_plan_cons (settings : Settings) (segment : String) (v : Value) {t : Template}
    (more : t.segments ≠ []) (s : Statement) :
    (plan settings ⟨segment :: t.segments, v :: t.values⟩).run s =
      (settings.valuePlan segment v).run (s.pushText segment) >>= (t.plan settings).run := by
  obtain ⟨segments, values⟩ := t
  cases segments with
  | nil => exact absurd rfl more
  | cons next segments =>
    -- The rest of the plan is the plan of the rest.
    change ((Plan.ofWrite (.text segment)).andThen ((settings.valuePlan segment v).andThen
      (plan settings ⟨next :: segments, values⟩))).run s = _
    rw [Plan.run_andThen]
    exact Plan.run_andThen _ _ (s.pushText segment)

end Template

namespace Composer

/-- Composing a well-formed template carries its plan out; no other template composes. -/
theorem compose_eq_run (composer : Composer) (t : Template) :
    composer.compose t =
      if t.isWellFormed then
        ((t.plan composer.settings).run .empty).mapError Rejection.toQueryError
      else compose.arityError t := by
  unfold compose Template.isWellFormed Template.plan
  split
  next first segments parts =>
    simp only [parts, List.length_cons, Nat.add_right_cancel_iff, decide_eq_true_eq]
    split
    -- The composer starts from the first segment; the plan writes it on the empty statement.
    · rw [Settings.renderAfter_eq_run, Plan.run_concat, Plan.run_concat, List.foldlM_cons]
      simp [Plan.run, Plan.ofWrite, Statement.writeAll, Statement.write, Statement.pushText,
        Statement.literal, Statement.empty, bind, Except.bind]
    · rfl
  next parts => simp [parts]

/-- What composes is a well-formed template whose plan does not stop. -/
theorem compose_eq_ok_iff {composer : Composer} {t : Template} {s : Statement} :
    composer.compose t = .ok s ↔ t.isWellFormed = true ∧
      (t.plan composer.settings).stopped = none ∧
      Statement.empty.writeAll (t.plan composer.settings).writes = s := by
  rw [compose_eq_run]
  split
  next formed =>
    unfold Plan.run
    cases stopped : (t.plan composer.settings).stopped <;> simp [formed, Except.mapError]
  next malformed => simp [malformed, compose.arityError]

/-- What does not compose although it is well-formed has a plan that stops, and the error holds the
text up to there. -/
theorem compose_eq_error_iff {composer : Composer} {t : Template} {error : QueryError}
    (formed : t.isWellFormed = true) :
    composer.compose t = .error error ↔
      ∃ cause, (t.plan composer.settings).stopped = some cause ∧
        Rejection.toQueryError ⟨cause, Statement.empty.writeAll (t.plan composer.settings).writes⟩ =
          error := by
  rw [compose_eq_run, if_pos formed, Plan.run]
  cases stopped : (t.plan composer.settings).stopped <;> simp [Except.mapError]

/-- Composing succeeds with what carrying out the plan gives. -/
theorem compose_eq_ok_iff_run {composer : Composer} {t : Template} {s : Statement} :
    composer.compose t = .ok s ↔
      t.isWellFormed = true ∧ (t.plan composer.settings).run .empty = .ok s := by
  rw [compose_eq_ok_iff, and_congr_right_iff]
  intro _
  unfold Plan.run
  cases (t.plan composer.settings).stopped <;> simp

end Composer

/-! ### What plans write -/

/-- The statements that become parts of the text: a nested one, and those in the cells of a batch.
Statements deeper inside only lend their text to a parameter. -/
def Value.statements : Value → List Statement
  | .nested statement => [statement]
  | .batch rows => rows.flatten.filterMap fun
    | .nested statement => some statement
    | _ => none
  | .plain _ | .table _ | .raw _ => []

def Template.statements (t : Template) : List Statement := t.values.flatMap Value.statements

namespace Plan

theorem mem_writes_andThen {p q : Plan} {write : Write}
    (member : write ∈ (p.andThen q).writes) : write ∈ p.writes ∨ write ∈ q.writes := by
  unfold andThen at member
  split at member
  · exact List.mem_append.mp member
  · exact .inl member

theorem mem_writes_concat {plans : List Plan} {write : Write}
    (member : write ∈ (concat plans).writes) : ∃ p ∈ plans, write ∈ p.writes := by
  induction plans with
  | nil => cases member
  | cons p plans ih =>
    rcases mem_writes_andThen member with first | later
    · exact ⟨p, List.mem_cons_self, first⟩
    · obtain ⟨q, found, inside⟩ := ih later
      exact ⟨q, List.mem_cons_of_mem _ found, inside⟩

theorem mem_writes_separated {plans : List Plan} {write : Write}
    (member : write ∈ (separated plans).writes) :
    write = .text "," ∨ ∃ p ∈ plans, write ∈ p.writes := by
  obtain ⟨p, found, inside⟩ := mem_writes_concat member
  cases plans with
  | nil => cases found
  | cons first plans =>
    simp only [intersperse_cons, List.mem_cons, List.mem_flatMap, List.not_mem_nil,
      or_false] at found
    rcases found with rfl | ⟨q, known, rfl | rfl⟩
    · exact .inr ⟨p, List.mem_cons_self, inside⟩
    · exact .inl (List.mem_singleton.mp inside)
    · exact .inr ⟨p, List.mem_cons_of_mem _ known, inside⟩

end Plan

namespace Settings

variable {settings : Settings} {P : Write → Prop}

theorem forall_mem_rejectPlan {cause : Cause} {v : Value} (values : ∀ scalar, P (.value scalar)) :
    ∀ write ∈ (settings.rejectPlan cause v).writes, P write := by
  intro write member
  unfold rejectPlan at member
  split at member
  · cases member
  · exact List.mem_singleton.mp member ▸ values _

theorem forall_mem_cellPlan {cell : Value} (values : ∀ scalar, P (.value scalar))
    (statements : ∀ nested, cell = .nested nested → P (.statement nested))
    (keyword : ∀ text, settings.asksForDefault text → P (.text text)) :
    ∀ write ∈ (settings.cellPlan cell).writes, P write := by
  cases cell with
  | plain scalar => exact fun write member => List.mem_singleton.mp member ▸ values scalar
  | nested statement =>
    exact fun write member => List.mem_singleton.mp member ▸ statements statement rfl
  | raw text =>
    simp only [cellPlan]
    split
    next asks => exact fun write member => List.mem_singleton.mp member ▸ keyword text asks
    next => exact forall_mem_rejectPlan values
  | batch => exact forall_mem_rejectPlan values
  | table => exact forall_mem_rejectPlan values

theorem forall_mem_batchPlan {rows : List (List Value)} (values : ∀ scalar, P (.value scalar))
    (statements : ∀ nested ∈ (Value.batch rows).statements, P (.statement nested))
    (punctuation : ∀ text ∈ ["(", ",", ")"], P (.text text))
    (keyword : ∀ text, settings.asksForDefault text → P (.text text)) :
    ∀ write ∈ (settings.batchPlan rows).writes, P write := by
  intro write member
  unfold batchPlan at member
  split at member
  next => exact forall_mem_rejectPlan values write member
  next =>
    -- A write of a well-shaped batch is a comma between rows or belongs to one row, and there it is
    -- a parenthesis, a comma between cells or belongs to one cell.
    rcases Plan.mem_writes_separated member with rfl | ⟨p, found, inside⟩
    · exact punctuation "," (by simp)
    · obtain ⟨row, rowMember, rfl⟩ := List.mem_map.mp found
      obtain ⟨q, part, inside⟩ := Plan.mem_writes_concat inside
      simp only [List.mem_cons, List.not_mem_nil, or_false] at part
      rcases part with rfl | rfl | rfl
      · exact List.mem_singleton.mp inside ▸ punctuation "(" (by simp)
      · rcases Plan.mem_writes_separated inside with rfl | ⟨p, found, inside⟩
        · exact punctuation "," (by simp)
        · obtain ⟨cell, cellMember, rfl⟩ := List.mem_map.mp found
          have cells (nested : Statement) (same : cell = .nested nested) :
              P (.statement nested) := by
            apply statements
            rw [Value.statements, List.mem_filterMap]
            exact ⟨cell, List.mem_flatten_of_mem rowMember cellMember, same ▸ rfl⟩
          exact forall_mem_cellPlan values cells keyword write inside
      · exact List.mem_singleton.mp inside ▸ punctuation ")" (by simp)

/-- Whatever a value writes comes from the value, from the settings, or is punctuation. -/
theorem forall_mem_valuePlan {preceding : String} {v : Value}
    (values : ∀ scalar, P (.value scalar))
    (statements : ∀ nested ∈ v.statements, P (.statement nested))
    (punctuation : ∀ text ∈ ["(", ",", ")"], P (.text text))
    (keyword : ∀ text, settings.asksForDefault text → P (.text text))
    (raw : ∀ text, v = .raw text → P (.text text))
    (table : ∀ slot name, v.role preceding = .tableName slot name →
      P (.text (Identifier.qualify settings.schema name))) :
    ∀ write ∈ (settings.valuePlan preceding v).writes, P write := by
  have plays := v.plays_role preceding
  unfold valuePlan
  generalize v.role preceding = role at plays table ⊢
  cases plays with
  | notAString | string =>
    exact fun write member => List.mem_singleton.mp member ▸ values _
  | stringInSlot | tableInSlot =>
    exact fun write member => List.mem_singleton.mp member ▸ table _ _ rfl
  | nested nested =>
    exact fun write member => List.mem_singleton.mp member ▸ statements nested (by
      simp [Value.statements])
  | raw text => exact fun write member => List.mem_singleton.mp member ▸ raw text rfl
  | batch rows => exact forall_mem_batchPlan values statements punctuation keyword
  | misplacedTable => exact forall_mem_rejectPlan values

theorem mem_plansAfter {preceding : String} {values : List Value} {segments : List String}
    {p : Plan} (member : p ∈ settings.plansAfter preceding (values.zip segments)) :
    (∃ segment ∈ segments, p = .ofWrite (.text segment)) ∨
      ∃ pair ∈ (preceding :: segments).zip values, p = settings.valuePlan pair.1 pair.2 := by
  induction values generalizing preceding segments with
  | nil => cases member
  | cons v values ih =>
    cases segments with
    | nil => cases member
    | cons segment segments =>
      simp only [List.zip_cons_cons, plansAfter, List.mem_cons] at member
      rcases member with rfl | rfl | later
      · exact .inr ⟨(preceding, v), by simp, rfl⟩
      · exact .inl ⟨segment, List.mem_cons_self, rfl⟩
      · rcases ih later with ⟨segment, found, rfl⟩ | ⟨pair, found, rfl⟩
        · exact .inl ⟨segment, List.mem_cons_of_mem _ found, rfl⟩
        · exact .inr ⟨pair, by simp [found], rfl⟩

end Settings

/-- Whatever a template writes is a segment, comes from a value or from the settings, or is
punctuation. -/
theorem Template.forall_mem_plan {settings : Settings} {t : Template} {P : Write → Prop}
    (segments : ∀ segment ∈ t.segments, P (.text segment)) (values : ∀ scalar, P (.value scalar))
    (statements : ∀ nested ∈ t.statements, P (.statement nested))
    (punctuation : ∀ text ∈ ["(", ",", ")"], P (.text text))
    (keyword : ∀ text, settings.asksForDefault text → P (.text text))
    (raw : ∀ pair ∈ t.segments.zip t.values, ∀ text, pair.2 = .raw text → P (.text text))
    (table : ∀ pair ∈ t.segments.zip t.values, ∀ slot name,
      pair.2.role pair.1 = .tableName slot name →
        P (.text (Identifier.qualify settings.schema name))) :
    ∀ write ∈ (t.plan settings).writes, P write := by
  -- What a value may write is known for each value alone, whatever stands around it.
  have each : ∀ pair ∈ t.segments.zip t.values,
      ∀ write ∈ (settings.valuePlan pair.1 pair.2).writes, P write := by
    intro pair member
    have nested : ∀ nested ∈ pair.2.statements, P (.statement nested) := fun nested found =>
      statements nested (List.mem_flatMap_of_mem (List.of_mem_zip member).2 found)
    exact Settings.forall_mem_valuePlan values nested punctuation keyword (raw pair member)
      (table pair member)
  intro write member
  unfold plan at member
  split at member
  next => cases member
  next first others parts =>
    rw [parts] at segments each
    obtain ⟨p, found, inside⟩ := Plan.mem_writes_concat member
    rcases List.mem_cons.mp found with rfl | later
    · exact List.mem_singleton.mp inside ▸ segments first List.mem_cons_self
    · rcases Settings.mem_plansAfter later with ⟨segment, known, rfl⟩ | ⟨pair, known, rfl⟩
      · exact List.mem_singleton.mp inside ▸ segments segment (List.mem_cons_of_mem _ known)
      · exact each pair known write inside

end SqlWeave
