import SqlWeave.Proofs.Composition.Reachable
import SqlWeave.Proofs.Statement.Resolution

/-!
# What a template means

A template means its segments and values in turn: data stands for itself, a name in a table slot for
its qualified form, a nested statement for its own meaning, and a batch for tuples of its cells.
These meanings know nothing of placeholders, numbers or positions. `resolve?_compose` says that a
composed statement means what its template means.
-/
namespace SqlWeave

open SqlWeave.Symbol (ofText concat?)

/-- At least one row, no empty row, and all rows of one length. -/
def isRectangular : List (List Value) → Bool
  | [] => false
  | first :: others => !first.isEmpty && others.all fun row => row.length = first.length

namespace Settings

variable (settings : Settings)

/-- The meaning of a cell: data, a statement, the default keyword, or else one parameter. -/
def cellMeaning? : Value → Option (List Symbol)
  | .plain scalar => some [.value scalar]
  | .nested statement => statement.resolve?
  | .raw text =>
    if settings.asksForDefault text then some (ofText text)
    else some [.value (Value.raw text).toScalar]
  | .batch rows => some [.value (Value.batch rows).toScalar]
  | .table name => some [.value (Value.table name).toScalar]

/-- Cells between parentheses, with a comma between each two. -/
def rowMeaning? (row : List Value) : Option (List Symbol) :=
  concat? [some (ofText "("),
    concat? ((row.map settings.cellMeaning?).intersperse (some (ofText ","))), some (ofText ")")]

/-- Rows with a comma between each two; a malformed batch is one parameter. -/
def batchMeaning? (rows : List (List Value)) : Option (List Symbol) :=
  if isRectangular rows then
    concat? ((rows.map settings.rowMeaning?).intersperse (some (ofText ",")))
  else some [.value (Value.batch rows).toScalar]

/-- The meaning of a value after a segment. -/
def valueMeaning? (preceding : String) : Value → Option (List Symbol)
  | .nested statement => statement.resolve?
  | .raw text => some (ofText text)
  | .batch rows => settings.batchMeaning? rows
  | .table name =>
    if (TableSlot.detect? preceding).isSome then
      some (ofText (Identifier.qualify settings.schema name))
    else some [.value (Value.table name).toScalar]
  | .plain (.string name) =>
    if (TableSlot.detect? preceding).isSome then
      some (ofText (Identifier.qualify settings.schema name))
    else some [.value (.string name)]
  | .plain scalar => some [.value scalar]

/-- The meanings of values, each followed by the segment after it. -/
def meaningsAfter (preceding : String) : List (Value × String) → List (Option (List Symbol))
  | [] => []
  | (v, segment) :: others =>
    settings.valueMeaning? preceding v :: some (ofText segment) :: meaningsAfter segment others

end Settings

/-- The meaning of a template, if its nested statements have one. -/
def Template.meaning? (settings : Settings) (t : Template) : Option (List Symbol) :=
  match t.segments with
  | [] => some []
  | first :: segments =>
    concat? (some (ofText first) :: settings.meaningsAfter first (t.values.zip segments))

/-! ### Meanings of plans -/

def Write.meaning? : Write → Option (List Symbol)
  | .text written => some (ofText written)
  | .value scalar => some [.value scalar]
  | .statement nested => nested.resolve?

theorem Statement.Sound.resolve?_writeAll {s : Statement} (sound : s.Sound) {writes : List Write}
    (writesSound : ∀ write ∈ writes, write.Sound) :
    (s.writeAll writes).resolve? = concat? [s.resolve?, concat? (writes.map Write.meaning?)] := by
  induction writes generalizing s with
  | nil =>
    obtain ⟨meaning, resolved⟩ := Option.isSome_iff_exists.mp sound.isSome_resolve?
    simp [Statement.writeAll, resolved, concat?]
  | cons write writes ih =>
    have writeSound := writesSound write List.mem_cons_self
    have step : (s.write write).resolve? = concat? [s.resolve?, write.meaning?] := by
      cases write with
      | text text => exact sound.resolve?_pushText text
      | value scalar => exact sound.resolve?_bind scalar
      | statement nested => exact sound.resolve?_inline writeSound
    have rest := ih (Statement.invariant_sound.write sound writeSound) fun other member =>
      writesSound other (List.mem_cons_of_mem _ member)
    -- The induction hypothesis groups the first write with what is there already.
    have regrouped := Symbol.concat?_append [s.resolve?, write.meaning?]
      [concat? (writes.map Write.meaning?)]
    rw [Symbol.concat?_singleton] at regrouped
    rw [List.map_cons, Symbol.concat?_cons write.meaning?]
    refine rest.trans ?_
    rw [step, ← regrouped, List.cons_append, Symbol.concat?_cons]
    rfl

namespace Plan

/-- A plan that does not stop and writes this meaning. -/
def Means (p : Plan) (meaning : Option (List Symbol)) : Prop :=
  p.stopped = none → concat? (p.writes.map Write.meaning?) = meaning

theorem means_ofWrite (write : Write) : (ofWrite write).Means write.meaning? :=
  fun _ => Symbol.concat?_singleton _

theorem means_concat {plans : List Plan} {meanings : List (Option (List Symbol))}
    (each : List.Forall₂ Means plans meanings) : (concat plans).Means (concat? meanings) := by
  induction each with
  | nil => exact fun _ => rfl
  | @cons p meaning plans meanings first _ ih =>
    intro ends
    change (p.andThen (concat plans)).stopped = none at ends
    change concat? ((p.andThen (concat plans)).writes.map Write.meaning?) = _
    cases stopped : p.stopped with
    | some cause =>
      -- A sequence that ends has no part that stops.
      rw [andThen_of_stopped stopped] at ends
      exact absurd (stopped.symm.trans ends) (by simp)
    | none =>
      rw [stopped_andThen stopped] at ends
      rw [writes_andThen stopped, List.map_append, Symbol.concat?_append, first stopped, ih ends,
        ← Symbol.concat?_cons]

theorem means_separated {plans : List Plan} {meanings : List (Option (List Symbol))}
    (each : List.Forall₂ Means plans meanings) :
    (separated plans).Means (concat? (meanings.intersperse (some (ofText ",")))) :=
  means_concat (forall₂_intersperse (means_ofWrite (.text ",")) each)

end Plan

theorem shapeProblem?_eq_none_iff {rows : List (List Value)} :
    Settings.shapeProblem? rows = none ↔ isRectangular rows = true := by
  cases rows with
  | nil => simp [Settings.shapeProblem?, isRectangular]
  | cons first others =>
    have ragged (i : Nat) : Settings.raggedRow? first.length i others = none ↔
        (others.all fun row => row.length = first.length) = true := by
      induction others generalizing i with
      | nil => simp [Settings.raggedRow?]
      | cons row others ih =>
        by_cases same : row.length = first.length <;> simp [Settings.raggedRow?, same, ih]
    by_cases empty : first.isEmpty = true
    · simp [Settings.shapeProblem?, isRectangular, empty]
    · simp [Settings.shapeProblem?, isRectangular, empty, ragged]

namespace Settings

variable (settings : Settings)

private theorem means_rejectPlan (cause : Cause) (v : Value) :
    (settings.rejectPlan cause v).Means (some [.value v.toScalar]) := by
  intro ends
  unfold rejectPlan at ends ⊢
  cases mode : settings.mode with
  | strict =>
    rw [mode] at ends
    cases ends
  | permissive => exact Symbol.concat?_singleton _

private theorem means_cellPlan (cell : Value) :
    (settings.cellPlan cell).Means (settings.cellMeaning? cell) := by
  cases cell with
  | plain scalar => exact Plan.means_ofWrite (.value scalar)
  | nested statement => exact Plan.means_ofWrite (.statement statement)
  | raw text =>
    simp only [cellPlan, cellMeaning?]
    split
    · exact Plan.means_ofWrite (.text text)
    · exact settings.means_rejectPlan _ _
  | batch => exact settings.means_rejectPlan _ _
  | table => exact settings.means_rejectPlan _ _

private theorem means_rowPlan (row : List Value) :
    (settings.rowPlan row).Means (settings.rowMeaning? row) := by
  have cells : List.Forall₂ Plan.Means (row.map settings.cellPlan)
      (row.map settings.cellMeaning?) := by
    rw [List.forall₂_map_left_iff, List.forall₂_map_right_iff, List.forall₂_same]
    exact fun cell _ => settings.means_cellPlan cell
  exact Plan.means_concat (.cons (Plan.means_ofWrite (.text "("))
    (.cons (Plan.means_separated cells) (.cons (Plan.means_ofWrite (.text ")")) .nil)))

private theorem means_batchPlan (rows : List (List Value)) :
    (settings.batchPlan rows).Means (settings.batchMeaning? rows) := by
  have each : List.Forall₂ Plan.Means (rows.map settings.rowPlan)
      (rows.map settings.rowMeaning?) := by
    rw [List.forall₂_map_left_iff, List.forall₂_map_right_iff, List.forall₂_same]
    exact fun row _ => settings.means_rowPlan row
  unfold batchPlan batchMeaning?
  cases problem : shapeProblem? rows with
  | none =>
    rw [if_pos (shapeProblem?_eq_none_iff.mp problem)]
    exact Plan.means_separated each
  | some cause =>
    have malformed : ¬isRectangular rows = true := by
      rw [← shapeProblem?_eq_none_iff, problem]
      simp
    rw [if_neg malformed]
    exact settings.means_rejectPlan cause _

private theorem means_valuePlan (preceding : String) (v : Value) :
    (settings.valuePlan preceding v).Means (settings.valueMeaning? preceding v) := by
  have plays := v.plays_role preceding
  unfold valuePlan
  generalize v.role preceding = role at plays ⊢
  cases plays with
  | @notAString scalar plain =>
    cases scalar <;> first | exact Plan.means_ofWrite _ | cases plain
  | string detected =>
    simp only [valueMeaning?, detected]
    exact Plan.means_ofWrite _
  | stringInSlot detected =>
    simp only [valueMeaning?, detected]
    exact Plan.means_ofWrite _
  | tableInSlot detected =>
    simp only [valueMeaning?, detected]
    exact Plan.means_ofWrite _
  | misplacedTable detected =>
    simp only [valueMeaning?, detected]
    exact settings.means_rejectPlan _ _
  | nested statement => exact Plan.means_ofWrite (.statement statement)
  | raw text => exact Plan.means_ofWrite (.text text)
  | batch rows => exact settings.means_batchPlan rows

private theorem means_plansAfter (preceding : String) (pairs : List (Value × String)) :
    List.Forall₂ Plan.Means (settings.plansAfter preceding pairs)
      (settings.meaningsAfter preceding pairs) := by
  induction pairs generalizing preceding with
  | nil => exact .nil
  | cons pair others ih =>
    obtain ⟨v, segment⟩ := pair
    exact .cons (settings.means_valuePlan preceding v)
      (.cons (Plan.means_ofWrite (.text segment)) (ih segment))

end Settings

theorem Template.means_plan (settings : Settings) (t : Template) :
    (t.plan settings).Means (t.meaning? settings) := by
  unfold plan meaning?
  cases t.segments with
  | nil => exact fun _ => rfl
  | cons first segments =>
    exact Plan.means_concat (.cons (Plan.means_ofWrite (.text first))
      (settings.means_plansAfter first (t.values.zip segments)))

/-- A composed statement has a meaning, and it is that of its template. -/
theorem resolve?_compose (composer : Composer) (t : Template) (s : Statement)
    (reached : ∀ nested ∈ t.statements, Reachable nested) (composed : composer.compose t = .ok s) :
    ∃ meaning, s.resolve? = some meaning ∧ t.meaning? composer.settings = some meaning := by
  have nestedSound : ∀ nested ∈ t.statements, nested.Sound := fun nested member =>
    (reached nested member).sound
  -- The result is sound, so it has a meaning; the plan says which.
  have sound := Composer.sound_compose nestedSound composed
  obtain ⟨meaning, resolved⟩ := Option.isSome_iff_exists.mp sound.isSome_resolve?
  refine ⟨meaning, resolved, ?_⟩
  obtain ⟨-, ends, rfl⟩ := Composer.compose_eq_ok_iff.mp composed
  have written := Statement.sound_empty.resolve?_writeAll
    (Template.sound_of_mem_plan composer.settings nestedSound)
  rw [resolved, t.means_plan composer.settings ends] at written
  have nothing : Statement.empty.resolve? = some [] := Statement.resolve?_literal ""
  rw [nothing] at written
  cases planned : t.meaning? composer.settings <;> simp [planned, concat?] at written ⊢
  exact written.symm

/-- A table, data, a nested statement with its numbers out of order, and a batch. -/
theorem resolve?_compose_renumbered :
    let nested : Statement :=
      ⟨"$2$1", [.bool true, .bool false], [⟨0, 2, 2⟩, ⟨2, 4, 1⟩], none⟩
    let template : Template :=
      ⟨["SELECT a FROM ", " WHERE b = ", " AND ", " AND ", ""],
        [.table "t", .plain (.string "x"), .nested nested,
          .batch [[.plain .null, .raw "default"]]]⟩
    let composed : Statement :=
      ⟨"SELECT a FROM \"public\".\"t\" WHERE b = $1 AND $3$2 AND ($4,default)",
        [.string "x", .bool true, .bool false, .null],
        [⟨37, 39, 1⟩, ⟨44, 46, 3⟩, ⟨46, 48, 2⟩, ⟨54, 56, 4⟩], none⟩
    let meaning : List Symbol :=
      ofText "SELECT a FROM \"public\".\"t\" WHERE b = " ++ [.value (.string "x")] ++
        ofText " AND " ++ [.value (.bool false), .value (.bool true)] ++
        ofText " AND (" ++ [.value .null] ++ ofText ",default)"
    Composer.standard.compose template = .ok composed ∧
      composed.resolve? = some meaning ∧ template.meaning? .standard = some meaning := by
  intro nested template composed meaning
  have adopted : Statement.adopt? "$2$1" [.bool true, .bool false] = some nested :=
    Statement.adopt?_of_scan (by decide +kernel) (by decide)
  have reached : ∀ s ∈ template.statements, Reachable s := by
    intro s member
    obtain rfl : s = nested := List.mem_singleton.mp member
    exact .adopted adopted
  -- Without the abbreviations both sides are closed, and computing them settles it.
  have made : Composer.standard.compose template = .ok composed := by
    dsimp only [template, nested, composed]
    rfl
  have meant : template.meaning? .standard = some meaning := by
    dsimp only [template, nested, meaning]
    rfl
  obtain ⟨found, resolved, same⟩ := resolve?_compose .standard template composed reached made
  exact ⟨made, resolved.trans (same.symm.trans meant), meant⟩

end SqlWeave
