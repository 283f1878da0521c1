import Mathlib.Data.List.Perm.Subperm
import SqlWeave.Proofs.Composition.Meaning
import SqlWeave.Proofs.Composition.Mode

/-!
# Bound data

Each scalar that a template brings along is among the values of the composed statement, by itself or
in a list, as often as it was brought (`data_subperm_values`). There is one exception: a batch that
permissive mode binds as one parameter takes the texts of the statements in it and loses their
values (`data_not_subperm_ragged`).
-/
namespace SqlWeave

/-! ### Data -/

namespace Scalar

mutual

/-- A scalar, and the scalars in it if it is a list. -/
def inside : Scalar → List Scalar
  | .list items => .list items :: itemsInside items
  | scalar => [scalar]

def itemsInside : List Scalar → List Scalar
  | [] => []
  | item :: items => inside item ++ itemsInside items

end

@[simp] theorem itemsInside_append (a b : List Scalar) :
    itemsInside (a ++ b) = itemsInside a ++ itemsInside b := by
  induction a with
  | nil => rfl
  | cons item items ih => simp [itemsInside, ih]

end Scalar

namespace Value

mutual

/-- The value itself, or what is in the cells of a batch, at whatever depth. -/
def leaves : Value → List Value
  | .batch rows => rowsLeaves rows
  | v => [v]

def rowsLeaves : List (List Value) → List Value
  | [] => []
  | row :: rows => cellsLeaves row ++ rowsLeaves rows

def cellsLeaves : List Value → List Value
  | [] => []
  | cell :: cells => leaves cell ++ cellsLeaves cells

end

def statementData : Value → List Scalar
  | .nested statement => statement.values
  | _ => []

/-- The scalars that a value other than a batch brings along. -/
def leafData : Value → List Scalar
  | .plain scalar => [scalar]
  | v => v.statementData

/-- The scalars that a value brings along: data, and the values of statements, at whatever depth. -/
def data (v : Value) : List Scalar := v.leaves.flatMap leafData

/-- The values of all statements in a value. As one parameter it has only the texts of them. -/
def lost (v : Value) : List Scalar := v.leaves.flatMap statementData

/-- The scalars that a value after a segment brings along; the name of a table is none. -/
def dataAfter (preceding : String) (v : Value) : List Scalar :=
  if v.name?.isSome && (TableSlot.detect? preceding).isSome then [] else v.data

theorem cellsLeaves_eq (cells : List Value) : cellsLeaves cells = cells.flatMap leaves := by
  induction cells with
  | nil => rfl
  | cons cell cells ih => rw [cellsLeaves, ih, List.flatMap_cons]

theorem rowsLeaves_eq (rows : List (List Value)) :
    rowsLeaves rows = rows.flatMap fun row => row.flatMap leaves := by
  induction rows with
  | nil => rfl
  | cons row rows ih => rw [rowsLeaves, ih, cellsLeaves_eq, List.flatMap_cons]

theorem data_batch (rows : List (List Value)) :
    (Value.batch rows).data = rows.flatMap fun row => row.flatMap data := by
  rw [data, leaves, rowsLeaves_eq, List.flatMap_assoc]
  simp only [List.flatMap_assoc]
  rfl

end Value

def Template.data (t : Template) : List Scalar :=
  (t.segments.zip t.values).flatMap fun (preceding, v) => v.dataAfter preceding

/-! ### Data that is lost -/

namespace Settings

variable (settings : Settings)

/-- What a malformed value loses. Strict mode rejects it. -/
def lostByMalformed (v : Value) : List Scalar :=
  match settings.mode with
  | .strict => []
  | .permissive => v.lost

/-- What a cell loses: a batch is malformed there. -/
def lostByCell : Value → List Scalar
  | .batch rows => settings.lostByMalformed (.batch rows)
  | _ => []

def lostBy : Value → List Scalar
  | .batch rows =>
    if isRectangular rows then rows.flatMap fun row => row.flatMap settings.lostByCell
    else settings.lostByMalformed (.batch rows)
  | _ => []

end Settings

/-- The values of the statements in batches that are bound as one parameter. -/
def Template.lost (settings : Settings) (t : Template) : List Scalar :=
  t.values.flatMap settings.lostBy

theorem Template.lost_of_strict {settings : Settings} (strict : settings.mode = .strict)
    (t : Template) : t.lost settings = [] := by
  have malformed (v : Value) : settings.lostByMalformed v = [] := by
    rw [Settings.lostByMalformed, strict]
  have cells (cell : Value) : settings.lostByCell cell = [] := by
    cases cell with
    | batch => exact malformed _
    | plain | table | nested | raw => rfl
  rw [lost, List.flatMap_eq_nil_iff]
  intro v _
  cases v with
  | batch rows => simp [Settings.lostBy, cells, malformed]
  | plain | table | nested | raw => rfl

/-! ### Accounts -/

/-- Every scalar in the data is among the bound values or among the lost ones, as often. -/
def Covers (bound lost data : List Scalar) : Prop :=
  (Scalar.itemsInside data).Subperm (Scalar.itemsInside bound ++ Scalar.itemsInside lost)

namespace Covers

variable {bound lost data : List Scalar}

theorem nothing (bound lost : List Scalar) : Covers bound lost [] := List.nil_subperm

theorem allBound (data : List Scalar) : Covers data [] data := by
  simp [Covers, Scalar.itemsInside, List.Subperm.refl]

theorem allLost (data : List Scalar) : Covers [] data data := List.Subperm.refl _

theorem append {more rest others : List Scalar} (first : Covers bound lost data)
    (second : Covers more rest others) :
    Covers (bound ++ more) (lost ++ rest) (data ++ others) := by
  have regrouped (a b c d : List Scalar) : ((a ++ b) ++ (c ++ d)).Perm ((a ++ c) ++ (b ++ d)) := by
    rw [List.append_assoc, List.append_assoc]
    exact (List.perm_append_comm_assoc b c d).append_left a
  unfold Covers
  simp only [Scalar.itemsInside_append]
  exact (List.Subperm.append first second).trans (regrouped _ _ _ _).subperm

/-- What is in the items of a list is in the list. -/
theorem list (items : Covers bound lost data) : Covers [.list bound] lost data := by
  have longer : (Scalar.itemsInside bound ++ Scalar.itemsInside lost).Sublist
      (Scalar.itemsInside [.list bound] ++ Scalar.itemsInside lost) := by
    simp [Scalar.itemsInside, Scalar.inside]
  exact items.trans longer.subperm

end Covers

/-! ### Binding a value as one parameter -/

mutual

/-- One parameter holds what a value brings along, but for the values of its statements. -/
theorem covers_toScalar : (v : Value) → Covers [v.toScalar] v.lost v.data
  | .plain scalar => .allBound [scalar]
  | .table _ => .nothing _ _
  | .raw _ => .nothing _ _
  | .nested statement => (Covers.nothing [.string statement.text] []).append (.allLost _)
  | .batch rows => (covers_rowScalars rows).list

theorem covers_rowScalars : (rows : List (List Value)) →
    Covers (Value.rowScalars rows) ((Value.rowsLeaves rows).flatMap Value.statementData)
      ((Value.rowsLeaves rows).flatMap Value.leafData)
  | [] => .nothing _ _
  | row :: rows => by
    rw [Value.rowsLeaves, List.flatMap_append, List.flatMap_append]
    exact (covers_cellScalars row).list.append (covers_rowScalars rows)

theorem covers_cellScalars : (cells : List Value) →
    Covers (Value.cellScalars cells) ((Value.cellsLeaves cells).flatMap Value.statementData)
      ((Value.cellsLeaves cells).flatMap Value.leafData)
  | [] => .nothing _ _
  | cell :: cells => by
    rw [Value.cellsLeaves, List.flatMap_append, List.flatMap_append]
    exact (covers_toScalar cell).append (covers_cellScalars cells)

end

/-! ### Values of plans -/

def Write.values : Write → List Scalar
  | .text _ => []
  | .value scalar => [scalar]
  | .statement nested => nested.values

theorem Statement.values_writeAll (s : Statement) (writes : List Write) :
    (s.writeAll writes).values = s.values ++ writes.flatMap Write.values := by
  induction writes generalizing s with
  | nil => simp [writeAll]
  | cons write writes ih =>
    have first : (s.write write).values = s.values ++ write.values := by
      cases write with
      | text => simp [Statement.write, pushText, Write.values]
      | value => rfl
      | statement => rfl
    rw [List.flatMap_cons, ← List.append_assoc, ← first]
    exact ih (s.write write)

namespace Plan

def values (p : Plan) : List Scalar := p.writes.flatMap Write.values

/-- Unless the plan stops, it binds the data, but for what is lost. -/
def Keeps (p : Plan) (lost data : List Scalar) : Prop :=
  p.stopped = none → Covers p.values lost data

theorem keeps_nothing (p : Plan) (lost : List Scalar) : p.Keeps lost [] := fun _ => .nothing _ _

theorem Keeps.andThen {p q : Plan} {lost data rest others : List Scalar} (first : p.Keeps lost data)
    (second : q.Keeps rest others) : (p.andThen q).Keeps (lost ++ rest) (data ++ others) := by
  intro ends
  cases stopped : p.stopped with
  | some cause =>
    -- The first plan stops, and the sequence with it.
    rw [andThen_of_stopped stopped, stopped] at ends
    cases ends
  | none =>
    rw [stopped_andThen stopped] at ends
    rw [values, writes_andThen stopped, List.flatMap_append]
    exact (first stopped).append (second ends)

theorem keeps_separated {α : Type} {plan : α → Plan} {lost data : α → List Scalar} {items : List α}
    (each : ∀ item ∈ items, (plan item).Keeps (lost item) (data item)) :
    (separated (items.map plan)).Keeps (items.flatMap lost) (items.flatMap data) := by
  cases items with
  | nil => exact keeps_nothing _ _
  | cons first others =>
    obtain ⟨firstKeeps, othersKeep⟩ := List.forall_mem_cons.mp each
    have rest : (concat ((others.map plan).flatMap fun p => [ofWrite (.text ","), p])).Keeps
        (others.flatMap lost) (others.flatMap data) := by
      clear each
      induction others with
      | nil => exact keeps_nothing _ _
      | cons item others ih =>
        obtain ⟨itemKeeps, othersKeep⟩ := List.forall_mem_cons.mp othersKeep
        -- The comma in front of the item binds nothing.
        have comma := keeps_nothing (ofWrite (.text ",")) []
        exact comma.andThen (itemKeeps.andThen (ih othersKeep))
    rw [separated, List.map_cons, intersperse_cons]
    exact firstKeeps.andThen rest

end Plan

namespace Settings

variable (settings : Settings)

private theorem keeps_rejectPlan (cause : Cause) (v : Value) :
    (settings.rejectPlan cause v).Keeps (settings.lostByMalformed v) v.data := by
  unfold rejectPlan lostByMalformed
  cases settings.mode with
  | strict => exact fun ends => nomatch ends
  | permissive => exact fun _ => covers_toScalar v

private theorem keeps_cellPlan (cell : Value) :
    (settings.cellPlan cell).Keeps (settings.lostByCell cell) cell.data := by
  cases cell with
  | plain scalar => exact fun _ => .allBound [scalar]
  | nested statement => exact fun _ => .allBound _
  | batch rows => exact settings.keeps_rejectPlan _ _
  | raw | table => exact Plan.keeps_nothing _ _

private theorem keeps_rowPlan (row : List Value) :
    (settings.rowPlan row).Keeps (row.flatMap settings.lostByCell) (row.flatMap Value.data) := by
  have cells : (Plan.separated (row.map settings.cellPlan)).Keeps
      (row.flatMap settings.lostByCell) (row.flatMap Value.data) :=
    Plan.keeps_separated fun cell _ => settings.keeps_cellPlan cell
  have closed := cells.andThen (Plan.keeps_nothing (.concat [.ofWrite (.text ")")]) [])
  rw [List.append_nil, List.append_nil] at closed
  exact (Plan.keeps_nothing (.ofWrite (.text "(")) []).andThen closed

private theorem keeps_batchPlan (rows : List (List Value)) :
    (settings.batchPlan rows).Keeps (settings.lostBy (.batch rows)) (Value.batch rows).data := by
  rw [batchPlan, lostBy]
  -- A batch of good shape loses what its cells lose, any other one what it loses as a whole.
  cases problem : shapeProblem? rows with
  | none =>
    rw [if_pos (shapeProblem?_eq_none_iff.mp problem), Value.data_batch]
    exact Plan.keeps_separated fun row _ => settings.keeps_rowPlan row
  | some cause =>
    have malformed : ¬isRectangular rows = true := by
      rw [← shapeProblem?_eq_none_iff, problem]
      simp
    rw [if_neg malformed]
    exact settings.keeps_rejectPlan cause _

private theorem keeps_valuePlan (preceding : String) (v : Value) :
    (settings.valuePlan preceding v).Keeps (settings.lostBy v) (v.dataAfter preceding) := by
  have plays := v.plays_role preceding
  unfold valuePlan
  generalize v.role preceding = role at plays ⊢
  -- Of a value without data nothing can be lost, whatever is written for it.
  have without {v : Value} (noData : v.data = []) (p : Plan) :
      p.Keeps (settings.lostBy v) (v.dataAfter preceding) := by
    rw [Value.dataAfter, noData, ite_self]
    exact p.keeps_nothing _
  cases plays with
  | @notAString scalar plain =>
    have noName : (Value.plain scalar).name? = none := by
      cases scalar <;> first | rfl | cases plain
    rw [Value.dataAfter, noName]
    exact fun _ => .allBound [scalar]
  | string missing =>
    rw [Value.dataAfter, missing]
    exact fun _ => .allBound _
  | stringInSlot detected =>
    rw [Value.dataAfter, detected]
    exact Plan.keeps_nothing _ _
  | tableInSlot | misplacedTable | raw => exact without rfl _
  | nested => exact fun _ => .allBound _
  | batch rows => exact settings.keeps_batchPlan rows

private theorem keeps_plansAfter (preceding : String) {values : List Value}
    {segments : List String} (count : segments.length = values.length) :
    (Plan.concat (settings.plansAfter preceding (values.zip segments))).Keeps
      (values.flatMap settings.lostBy) (Template.data ⟨preceding :: segments, values⟩) := by
  induction values generalizing preceding segments with
  | nil => exact Plan.keeps_nothing _ _
  | cons v values ih =>
    cases segments with
    | nil => cases count
    | cons segment segments =>
      have rest := ih segment (Nat.succ.inj count)
      -- The segment after the value binds nothing.
      exact (settings.keeps_valuePlan preceding v).andThen
        ((Plan.keeps_nothing (.ofWrite (.text segment)) []).andThen rest)

end Settings

theorem Template.keeps_plan (settings : Settings) {t : Template} (formed : t.isWellFormed = true) :
    (t.plan settings).Keeps (t.lost settings) t.data := by
  obtain ⟨segments, values⟩ := t
  have count := decide_eq_true_iff.mp formed
  cases segments with
  | nil => cases count
  | cons first segments =>
    exact (Plan.keeps_nothing (.ofWrite (.text first)) []).andThen
      (settings.keeps_plansAfter first (Nat.succ.inj count))

/-- Every scalar that a template brings along is among the values of its statement, by itself or in
a list, at least as often, but for the values of statements in batches that are bound as one
parameter. In strict mode there is no such batch. -/
theorem data_subperm_values (composer : Composer) (t : Template) (s : Statement)
    (composed : composer.compose t = .ok s) :
    (Scalar.itemsInside t.data).Subperm
      (Scalar.itemsInside s.values ++ Scalar.itemsInside (t.lost composer.settings)) ∧
    (composer.settings.mode = .strict → t.lost composer.settings = []) := by
  obtain ⟨formed, ends, rfl⟩ := Composer.compose_eq_ok_iff.mp composed
  refine ⟨?_, fun strict => t.lost_of_strict strict⟩
  rw [Statement.values_writeAll]
  exact t.keeps_plan composer.settings formed ends

/-- The value of a statement is bound twice, in a row of a batch and by itself, and lost once, in a
batch whose rows differ in length. -/
theorem data_subperm_values_batches :
    (Composer.standard.inMode .permissive).compose
        ⟨["VALUES ", " UNION ", " UNION VALUES ", ""],
          [.batch [[.plain (.int 1), .nested ⟨"$1", [.int 7], [⟨0, 2, 1⟩], none⟩]],
            .nested ⟨"$1", [.int 7], [⟨0, 2, 1⟩], none⟩,
            .batch [[.plain (.list [.int 2]), .nested ⟨"$1", [.int 7], [⟨0, 2, 1⟩], none⟩],
              [.plain .null]]]⟩ =
      .ok ⟨"VALUES ($1,$2) UNION $3 UNION VALUES $4",
        [.int 1, .int 7, .int 7, .list [.list [.list [.int 2], .string "$1"], .list [.null]]],
        [⟨8, 10, 1⟩, ⟨11, 13, 2⟩, ⟨21, 23, 3⟩, ⟨37, 39, 4⟩], none⟩ ∧
    (Scalar.itemsInside [.int 1, .int 7, .int 7, .list [.int 2], .int 7, .null]).Subperm
      (Scalar.itemsInside
          [.int 1, .int 7, .int 7, .list [.list [.list [.int 2], .string "$1"], .list [.null]]] ++
        Scalar.itemsInside [.int 7]) := by
  obtain ⟨kept, -⟩ := data_subperm_values (Composer.standard.inMode .permissive)
    ⟨["VALUES ", " UNION ", " UNION VALUES ", ""],
      [.batch [[.plain (.int 1), .nested ⟨"$1", [.int 7], [⟨0, 2, 1⟩], none⟩]],
        .nested ⟨"$1", [.int 7], [⟨0, 2, 1⟩], none⟩,
        .batch [[.plain (.list [.int 2]), .nested ⟨"$1", [.int 7], [⟨0, 2, 1⟩], none⟩],
          [.plain .null]]]⟩ _ rfl
  exact ⟨rfl, kept⟩

/-- Where the rows of a batch differ in length, permissive mode binds the text of a statement in it
and loses its value. -/
theorem data_not_subperm_ragged :
    (Composer.standard.inMode .permissive).compose
        ⟨["VALUES ", ""], [.batch [[.plain (.int 1), .nested ⟨"$1", [.int 7], [⟨0, 2, 1⟩], none⟩],
          [.plain (.int 2)]]]⟩ =
      .ok ⟨"VALUES $1", [.list [.list [.int 1, .string "$1"], .list [.int 2]]], [⟨7, 9, 1⟩], none⟩ ∧
    ¬ (Template.data ⟨["VALUES ", ""],
        [.batch [[.plain (.int 1), .nested ⟨"$1", [.int 7], [⟨0, 2, 1⟩], none⟩],
          [.plain (.int 2)]]]⟩).Subperm
      (Scalar.itemsInside [.list [.list [.int 1, .string "$1"], .list [.int 2]]]) := by
  refine ⟨rfl, fun kept => ?_⟩
  -- The value of the statement is brought along, and bound nowhere.
  have brought : Scalar.int 7 ∈ [Scalar.int 1, .int 7, .int 2] := by simp
  have bound := kept.subset brought
  simp [Scalar.itemsInside, Scalar.inside] at bound

end SqlWeave
