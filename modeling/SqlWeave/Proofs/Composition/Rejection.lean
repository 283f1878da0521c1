import Mathlib.Data.Nat.Find
import SqlWeave.Proofs.Composition.Batch

/-!
# The first malformed value

Strict mode fails on malformed values and on nothing else, and its error is that of the leftmost one
(`compose_strict_eq_error_iff`). What is malformed is said here without plans: a table outside a
slot, a batch whose rows do not line up, a cell that is neither data nor a statement nor the default
keyword. `Settings.ValueFault` also says which of several faults counts, and what has been written
of the value by then: nothing, or the tuples of a batch up to the cell at fault.
-/
namespace SqlWeave

/-! ### Malformed values -/

/-- What is wrong with the rows of a batch: there is no cell to begin with, or the first row that
differs in length from the one at the top. -/
inductive ShapeFault : List (List Value) → Cause → Prop
  | noRows : ShapeFault [] .emptyBatch
  | noCells (others : List (List Value)) : ShapeFault ([] :: others) .emptyBatch
  | ragged {first row : List Value} {others : List (List Value)} {k : Nat} : first ≠ [] →
      others[k]? = some row → row.length ≠ first.length →
      (∀ earlier ∈ others.take k, earlier.length = first.length) →
      ShapeFault (first :: others) (.raggedBatch (k + 1) first.length row.length)

namespace Settings

/-- What is wrong with a cell: raw text other than the default keyword, a batch, or a table. -/
inductive CellFault (settings : Settings) : Value → Cause → Prop
  | otherText {text : String} : settings.asksForDefault text = false →
      CellFault settings (.raw text) (.unsafeBatchCell text settings.defaultKeyword)
  | nestedBatch (rows : List (List Value)) : CellFault settings (.batch rows) .nestedBatch
  | table (name : String) : CellFault settings (.table name) (.misplacedTable name)

/-- A value that cannot be rendered after a segment. -/
inductive Malformed (settings : Settings) (preceding : String) : Value → Prop
  | misplacedTable {name : String} : TableSlot.detect? preceding = none →
      Malformed settings preceding (.table name)
  | noRows : Malformed settings preceding (.batch [])
  | noCells (others : List (List Value)) : Malformed settings preceding (.batch ([] :: others))
  | ragged {first row : List Value} {others : List (List Value)} : row ∈ others →
      row.length ≠ first.length → Malformed settings preceding (.batch (first :: others))
  | cell {rows : List (List Value)} {row : List Value} {cell : Value} {cause : Cause} :
      isRectangular rows = true → row ∈ rows → cell ∈ row → settings.CellFault cell cause →
      Malformed settings preceding (.batch rows)

/-- The fault of a value that counts, and the part of the value in front of it. A cell counts if the
shape of the batch is in order and no cell in front of it is at fault, row by row. -/
inductive ValueFault (settings : Settings) (preceding : String) :
    Value → Cause → Template → Prop
  | misplacedTable {name : String} : TableSlot.detect? preceding = none →
      ValueFault settings preceding (.table name) (.misplacedTable name) (.literal "")
  | shape {rows : List (List Value)} {cause : Cause} : ShapeFault rows cause →
      ValueFault settings preceding (.batch rows) cause (.literal "")
  | cell {rows : List (List Value)} {p : Nat} {cell : Value} {cause : Cause} :
      isRectangular rows = true → rows.flatten[p]? = some cell → settings.CellFault cell cause →
      (∀ earlier ∈ rows.flatten.take p, ∀ other, ¬ settings.CellFault earlier other) →
      ValueFault settings preceding (.batch rows) cause ((Template.ofRows rows).before p)

end Settings

example (a b c d : Value) :
    (Template.ofRows [[a, b], [c, d]]).before 3 = ⟨["(", ",", "),(", ","], [a, b, c]⟩ := rfl

namespace Template

/-- The value number `i` is malformed after its segment. -/
def MalformedAt (settings : Settings) (t : Template) (i : Nat) : Prop :=
  ∃ segment v, t.segments[i]? = some segment ∧ t.values[i]? = some v ∧
    settings.Malformed segment v

/-- The fault of the leftmost malformed value, and the template in front of the fault. -/
inductive FirstFault (settings : Settings) (t : Template) : Cause → Template → Prop
  | ofValue {i : Nat} {segment : String} {v : Value} {cause : Cause} {part : Template} :
      t.segments[i]? = some segment → t.values[i]? = some v →
      settings.ValueFault segment v cause part → (∀ j < i, ¬ t.MalformedAt settings j) →
      FirstFault settings t cause (t.before i ++ part)

end Template

/-! ### Which fault counts -/

variable {settings : Settings} {preceding : String} {rows : List (List Value)} {cell v : Value}
  {cause : Cause} {part : Template}

theorem raggedRow?_eq_some_iff {width i : Nat} :
    Settings.raggedRow? width i rows = some cause ↔ ∃ k row, rows[k]? = some row ∧
      row.length ≠ width ∧ (∀ earlier ∈ rows.take k, earlier.length = width) ∧
      .raggedBatch (i + k) width row.length = cause := by
  induction rows generalizing i with
  | nil => simp [Settings.raggedRow?]
  | cons row rows ih =>
    rw [Settings.raggedRow?]
    split
    next same =>
      -- The row is passed over, and the others are counted from the next number.
      rw [ih]
      constructor
      · rintro ⟨k, other, found, differs, earlier, rfl⟩
        refine ⟨k + 1, other, found, differs, ?_, ?_⟩
        · simpa [same] using earlier
        · rw [Nat.add_assoc, Nat.add_comm 1 k]
      · rintro ⟨k, other, found, differs, earlier, rfl⟩
        cases k with
        | zero =>
          cases found
          exact absurd same differs
        | succ k =>
          refine ⟨k, other, found, differs, ?_, ?_⟩
          · exact (List.forall_mem_cons.mp earlier).2
          · rw [Nat.add_assoc, Nat.add_comm 1 k]
    next differs =>
      constructor
      · intro found
        exact ⟨0, row, rfl, differs, by simp, Option.some.inj found⟩
      · rintro ⟨k, other, found, -, earlier, rfl⟩
        cases k with
        | zero =>
          cases found
          rfl
        | succ k => exact absurd (earlier row (by simp)) differs

theorem shapeProblem?_eq_some_iff :
    Settings.shapeProblem? rows = some cause ↔ ShapeFault rows cause := by
  constructor
  · intro problem
    cases rows with
    | nil =>
      cases problem
      exact .noRows
    | cons first others =>
      rw [Settings.shapeProblem?] at problem
      split at problem
      next empty =>
        cases problem
        obtain rfl := List.isEmpty_iff.mp empty
        exact .noCells others
      next nonempty =>
        obtain ⟨k, row, found, differs, earlier, rfl⟩ := raggedRow?_eq_some_iff.mp problem
        -- Rows are numbered from 0, so those behind the first one start at 1.
        rw [Nat.add_comm 1 k]
        exact .ragged (by simpa using nonempty) found differs earlier
  · intro fault
    cases fault with
    | noRows => rfl
    | noCells => rfl
    | @ragged first row others k nonempty found differs earlier =>
      rw [Settings.shapeProblem?, if_neg (by simpa using nonempty)]
      exact raggedRow?_eq_some_iff.mpr
        ⟨k, row, found, differs, earlier, by rw [Nat.add_comm 1 k]⟩

namespace Settings

theorem standsAlone_iff :
    settings.standsAlone cell = true ↔ ∀ cause, ¬ settings.CellFault cell cause := by
  constructor
  · intro alone cause fault
    cases fault with
    | otherText other => exact absurd (alone.symm.trans other) (by decide)
    | nestedBatch | table => cases alone
  · intro fine
    cases cell with
    | plain | nested => rfl
    | raw text =>
      rw [standsAlone]
      by_contra other
      exact fine _ (.otherText (Bool.eq_false_iff.mpr other))
    | batch rows => exact absurd (.nestedBatch rows) (fine _)
    | table name => exact absurd (.table name) (fine _)

/-- Of the cells at fault one is the first. -/
theorem exists_first_cell {cells : List Value} (member : cell ∈ cells)
    (fault : settings.CellFault cell cause) :
    ∃ p first other, cells[p]? = some first ∧ settings.CellFault first other ∧
      ∀ earlier ∈ cells.take p, ∀ another, ¬ settings.CellFault earlier another := by
  -- A cell is at fault exactly if it does not stand alone, and that is computed.
  have notAlone : settings.standsAlone cell = false :=
    Bool.eq_false_iff.mpr fun alone => standsAlone_iff.mp alone cause fault
  have anyFound : (cells.find? fun cell => !settings.standsAlone cell).isSome = true :=
    List.find?_isSome.mpr ⟨cell, member, by simp [notAlone]⟩
  obtain ⟨first, found⟩ := Option.isSome_iff_exists.mp anyFound
  obtain ⟨faulty, before, after, rfl, fine⟩ := List.find?_eq_some_iff_append.mp found
  have atFault : ∃ other, settings.CellFault first other := by
    by_contra fine
    have alone := standsAlone_iff.mpr (not_exists.mp fine)
    simp [alone] at faulty
  obtain ⟨other, firstFault⟩ := atFault
  refine ⟨before.length, first, other, by simp, firstFault, ?_⟩
  rw [List.take_left]
  intro earlier inside
  exact standsAlone_iff.mp (by simpa using fine earlier inside)

/-- A value is malformed exactly if one of its faults counts. -/
theorem malformed_iff :
    settings.Malformed preceding v ↔ ∃ cause part, settings.ValueFault preceding v cause part := by
  constructor
  · intro malformed
    -- A batch whose rows do not line up has a fault in its shape, whatever its cells are.
    have ofShape {rows : List (List Value)} (other : ¬ isRectangular rows = true) :
        ∃ cause part, settings.ValueFault preceding (.batch rows) cause part := by
      rw [← shapeProblem?_eq_none_iff] at other
      obtain ⟨cause, problem⟩ := Option.ne_none_iff_exists'.mp other
      exact ⟨cause, _, .shape (shapeProblem?_eq_some_iff.mp problem)⟩
    cases malformed with
    | misplacedTable noSlot => exact ⟨_, _, .misplacedTable noSlot⟩
    | noRows => exact ofShape (by simp [isRectangular])
    | noCells others => exact ofShape (by simp [isRectangular])
    | ragged member differs =>
      refine ofShape fun rectangular => differs ?_
      simp only [isRectangular, Bool.and_eq_true, List.all_eq_true, decide_eq_true_eq]
        at rectangular
      exact rectangular.2 _ member
    | cell rectangular rowMember cellMember fault =>
      obtain ⟨p, first, other, found, firstFault, fine⟩ :=
        exists_first_cell (List.mem_flatten_of_mem rowMember cellMember) fault
      exact ⟨other, _, .cell rectangular found firstFault fine⟩
  · rintro ⟨cause, part, fault⟩
    cases fault with
    | misplacedTable noSlot => exact .misplacedTable noSlot
    | shape fault =>
      cases fault with
      | noRows => exact .noRows
      | noCells others => exact .noCells others
      | ragged _ found differs _ => exact .ragged (List.mem_of_getElem? found) differs
    | cell rectangular found fault _ =>
      obtain ⟨row, rowMember, cellMember⟩ := List.mem_flatten.mp (List.mem_of_getElem? found)
      exact .cell rectangular rowMember cellMember fault

end Settings

/-! ### Plans that stop -/

namespace Plan

theorem run_of_ends {p : Plan} (ends : p.stopped = none) (s : Statement) :
    p.run s = .ok (s.writeAll p.writes) := by
  rw [run, ends]

theorem stopped_concat {plans : List Plan} (each : ∀ p ∈ plans, p.stopped = none) :
    (concat plans).stopped = none := by
  induction plans with
  | nil => rfl
  | cons p plans ih =>
    obtain ⟨first, others⟩ := List.forall_mem_cons.mp each
    exact (stopped_andThen first _).trans (ih others)

theorem stopped_separated {plans : List Plan} (each : ∀ p ∈ plans, p.stopped = none) :
    (separated plans).stopped = none := by
  refine stopped_concat fun p member => ?_
  cases plans with
  | nil => cases member
  | cons first others =>
    simp only [intersperse_cons, List.mem_cons, List.mem_flatMap, List.not_mem_nil,
      or_false] at member
    rcases member with rfl | ⟨q, found, rfl | rfl⟩
    · exact each p List.mem_cons_self
    · rfl
    · exact each p (List.mem_cons_of_mem _ found)

/-- What follows a failure is not rendered. -/
theorem run_separated_of_error {p : Plan} {s : Statement} {rejection : Rejection}
    (failed : p.run s = .error rejection) (plans : List Plan) :
    (separated (p :: plans)).run s = .error rejection := by
  cases plans with
  | nil => rw [run_separated_singleton, failed]
  | cons q plans =>
    rw [run_separated_cons, failed]
    rfl

end Plan

namespace Settings

theorem rejectPlan_of_strict (strict : settings.mode = .strict) (cause : Cause) (v : Value) :
    settings.rejectPlan cause v = .stop cause := by
  rw [rejectPlan, strict]

theorem CellFault.cellPlan_eq (strict : settings.mode = .strict)
    (fault : settings.CellFault cell cause) : settings.cellPlan cell = .stop cause := by
  cases fault with
  | otherText other =>
    rw [cellPlan, if_neg (Bool.eq_false_iff.mp other), rejectPlan_of_strict strict]
  | nestedBatch => exact rejectPlan_of_strict strict _ _
  | table => exact rejectPlan_of_strict strict _ _

theorem stopped_cellPlan (alone : settings.standsAlone cell = true) :
    (settings.cellPlan cell).stopped = none := by
  cases cell with
  | plain | nested => rfl
  | raw text =>
    have asks : settings.asksForDefault text = true := alone
    rw [cellPlan, if_pos asks]
    rfl
  | table | batch => cases alone

theorem stopped_rowPlan {row : List Value}
    (alone : ∀ cell ∈ row, settings.standsAlone cell = true) :
    (settings.rowPlan row).stopped = none := by
  refine Plan.stopped_concat fun p member => ?_
  simp only [List.mem_cons, List.not_mem_nil, or_false] at member
  rcases member with rfl | rfl | rfl
  · rfl
  · refine Plan.stopped_separated fun p inside => ?_
    obtain ⟨cell, found, rfl⟩ := List.mem_map.mp inside
    exact stopped_cellPlan (alone cell found)
  · rfl

theorem stopped_valuePlan (fine : ¬ settings.Malformed preceding v) :
    (settings.valuePlan preceding v).stopped = none := by
  have plays := v.plays_role preceding
  unfold valuePlan
  generalize v.role preceding = role at plays
  cases plays with
  | notAString | string | stringInSlot | tableInSlot | nested | raw => rfl
  | misplacedTable noSlot => exact absurd (.misplacedTable noSlot) fine
  | batch rows =>
    have shape : shapeProblem? rows = none := by
      by_contra problem
      obtain ⟨cause, problem⟩ := Option.ne_none_iff_exists'.mp problem
      exact fine (malformed_iff.mpr ⟨cause, _, .shape (shapeProblem?_eq_some_iff.mp problem)⟩)
    have rectangular := shapeProblem?_eq_none_iff.mp shape
    simp only [batchPlan, shape]
    refine Plan.stopped_separated fun p member => ?_
    obtain ⟨row, rowMember, rfl⟩ := List.mem_map.mp member
    refine stopped_rowPlan fun cell inside => standsAlone_iff.mpr fun cause fault => ?_
    exact fine (.cell rectangular rowMember inside fault)

end Settings

/-! ### Faults inside a batch -/

/-- A rendering that fails for the cause, with what the template gives behind the statement. -/
def Rendering.FailsBehind (settings : Settings) (front : Template) (cause : Cause) (s : Statement)
    (rendering : Rendering) : Prop :=
  ∃ rendered, (front.plan settings).run s = .ok rendered ∧ rendering = .error ⟨cause, rendered⟩

namespace Template

variable {opening : String} {u : Template} {p : Nat}

/-- Cells up to one at fault are rendered like values of their own. -/
theorem failsBehind_cells (strict : settings.mode = .strict) {row : List Value}
    (found : row[p]? = some cell) (fault : settings.CellFault cell cause)
    (earlier : ∀ other ∈ row.take p, settings.standsAlone other = true)
    (noSlot : TableSlot.detect? opening = none) (u : Template) (s : Statement) :
    Rendering.FailsBehind settings
      (before ⟨opening :: List.replicate (row.length - 1) "," ++ u.segments, row ++ u.values⟩ p)
      cause s ((Plan.separated (row.map settings.cellPlan)).run (s.pushText opening)) := by
  -- What is in front of a cell is the opening segment at first and a comma from then on.
  induction row generalizing opening p s with
  | nil => simp at found
  | cons first row ih =>
    cases p with
    | zero =>
      cases found
      -- Nothing of the cell itself is written, only what is in front of it.
      have stops : (settings.cellPlan cell).run (s.pushText opening) =
          .error ⟨cause, s.pushText opening⟩ := by
        rw [fault.cellPlan_eq strict]
        rfl
      exact ⟨s.pushText opening, rfl, Plan.run_separated_of_error stops _⟩
    | succ p =>
      obtain ⟨firstAlone, rest⟩ := List.forall_mem_cons.mp earlier
      cases row with
      | nil => cases found
      | cons next row =>
        have comma : TableSlot.detect? "," = none := by decide
        have ends := Plan.run_of_ends (Settings.stopped_cellPlan firstAlone) (s.pushText opening)
        obtain ⟨rendered, written, stops⟩ := ih found rest comma _
        refine ⟨rendered, ?_, ?_⟩
        · have step := run_plan_cons settings opening first
            (t := before ⟨"," :: List.replicate row.length "," ++ u.segments,
              next :: row ++ u.values⟩ p) (List.cons_ne_nil _ _) s
          rw [settings.valuePlan_eq_cellPlan firstAlone noSlot, ends] at step
          exact step.trans written
        · rw [List.map_cons, List.map_cons, Plan.run_separated_cons, ends]
          exact stops

theorem before_cells {row : List Value} (nonempty : row ≠ []) (behind : row.length ≤ p)
    (opening : String) (u : Template) :
    before ⟨opening :: List.replicate (row.length - 1) "," ++ u.segments, row ++ u.values⟩ p =
      ⟨opening :: List.replicate (row.length - 1) "," ++ (u.before (p - row.length)).segments,
        row ++ (u.before (p - row.length)).values⟩ := by
  have cells := List.length_pos_iff.mpr nonempty
  have index : p - (row.length - 1) = p - row.length + 1 := by omega
  simp only [before, List.cons_append, List.take_succ_cons, List.take_append, List.length_replicate,
    index, List.take_of_length_le behind]
  rw [List.take_of_length_le (by simpa using by omega)]

/-- Rows up to the one with a cell at fault are rendered like the cells written out. -/
theorem failsBehind_rows (strict : settings.mode = .strict) (nonempty : ∀ row ∈ rows, row ≠ [])
    (found : rows.flatten[p]? = some cell) (fault : settings.CellFault cell cause)
    (earlier : ∀ other ∈ rows.flatten.take p, settings.standsAlone other = true)
    (opening : String) (s : Statement) :
    Rendering.FailsBehind settings
      (before ⟨(opening ++ "(") :: cellSeparators rows ++ [")"], rows.flatten⟩ p)
      cause s ((Plan.separated (rows.map settings.rowPlan)).run (s.pushText opening)) := by
  -- The rows are left one after the other; the number of the cell counts on in the rest.
  induction rows generalizing opening p s with
  | nil => simp at found
  | cons row rows ih =>
    obtain ⟨here, later⟩ := List.forall_mem_cons.mp nonempty
    have noSlot : TableSlot.detect? (opening ++ "(") = none :=
      TableSlot.detect?_eq_none_of_punctuation (by decide) String.toList_append
    have opened := s.pushText_append opening "("
    rw [List.flatten_cons] at found earlier
    by_cases inside : p < row.length
    · -- The fault is in this row, and nothing behind the row is rendered.
      rw [List.getElem?_append_left inside] at found
      rw [List.take_append_of_le_length (Nat.le_of_lt inside)] at earlier
      have separators : ∃ rest, cellSeparators (row :: rows) ++ [")"] =
          List.replicate (row.length - 1) "," ++ rest := by
        cases rows with
        | nil => exact ⟨_, rfl⟩
        | cons next rows => exact ⟨_, List.append_assoc _ _ _⟩
      obtain ⟨rest, separators⟩ := separators
      obtain ⟨rendered, written, stops⟩ :=
        failsBehind_cells strict found fault earlier noSlot ⟨rest, rows.flatten⟩ s
      refine ⟨rendered, ?_, ?_⟩
      · rw [List.cons_append, separators]
        exact written
      · rw [List.map_cons]
        apply Plan.run_separated_of_error
        rw [settings.run_rowPlan, ← opened, stops]
        rfl
    · -- The row is rendered as a whole, and the fault is in one of the others.
      have behind := Nat.le_of_not_lt inside
      rw [List.getElem?_append_right behind] at found
      rw [List.take_append, List.take_of_length_le behind, List.forall_mem_append] at earlier
      obtain ⟨cells, others⟩ := earlier
      cases rows with
      | nil => simp at found
      | cons next rows =>
        have ends : (Plan.separated (row.map settings.cellPlan)).stopped = none := by
          refine Plan.stopped_separated fun q member => ?_
          obtain ⟨other, known, rfl⟩ := List.mem_map.mp member
          exact Settings.stopped_cellPlan (cells other known)
        have run := Plan.run_of_ends ends (s.pushText (opening ++ "("))
        generalize (s.pushText (opening ++ "(")).writeAll _ = filled at run
        obtain ⟨rendered, written, stops⟩ := ih later found others ")," filled
        refine ⟨rendered, ?_, ?_⟩
        · -- The parenthesis that closes this row is written by the segment that opens the next one.
          have rest := (alternates_rows "),(" (List.cons_ne_nil next rows) later).before
            (p - row.length)
          have front := run_plan_cells cells noSlot here rest s
          rw [run] at front
          have parts : cellSeparators (row :: next :: rows) ++ [")"] =
              List.replicate (row.length - 1) "," ++
                ("),(" :: cellSeparators (next :: rows) ++ [")"]) := by
            simp [cellSeparators]
          have cut := before_cells here behind (opening ++ "(")
            ⟨"),(" :: cellSeparators (next :: rows) ++ [")"], (next :: rows).flatten⟩
          rw [List.cons_append, parts, List.flatten_cons]
          exact (congrArg (fun t => (plan settings t).run s) cut).trans (front.trans written)
        · have closed : (settings.rowPlan row).run (s.pushText opening) =
              .ok (filled.pushText ")") := by
            rw [settings.run_rowPlan, ← opened, run]
            rfl
          have both : filled.pushText ")," = (filled.pushText ")").pushText "," :=
            filled.pushText_append ")" ","
          rw [both] at stops
          rw [List.map_cons, List.map_cons, Plan.run_separated_cons, closed]
          exact stops

theorem Meets.before {t : Template} (meets : t.Meets u) (p : Nat) : t.Meets (u.before p) := by
  intro last isLast first isFirst v isValue
  simp only [Template.before, List.head?_take] at isFirst isValue
  refine meets last isLast first ?_ v ?_
  · simpa using isFirst
  · split at isValue
    · cases isValue
    · exact isValue

end Template

namespace Settings

theorem ValueFault.alternates (fault : settings.ValueFault preceding v cause part) :
    part.Alternates := by
  cases fault with
  | misplacedTable | shape => exact .last ""
  | @cell rows p _ _ rectangular => exact (Template.alternates_ofRows rectangular).before p

theorem ValueFault.meets (fault : settings.ValueFault preceding v cause part) (t : Template) :
    t.Meets part := by
  cases fault with
  | misplacedTable | shape => exact Template.meets_of_name?_eq_none (by simp [Template.literal])
  | cell => exact (Template.meets_ofRows t _).before _

/-- A value at fault is rendered up to its fault. -/
theorem ValueFault.failsBehind (strict : settings.mode = .strict)
    (fault : settings.ValueFault preceding v cause part) (s : Statement) :
    Rendering.FailsBehind settings part cause s ((settings.valuePlan preceding v).run s) := by
  have nothing : s.pushText "" = s := by simp [Statement.pushText]
  -- A misplaced table and a bad shape are found before anything of the value is written.
  have stopped : Rendering.FailsBehind settings (.literal "") cause s ((Plan.stop cause).run s) :=
    ⟨s.pushText "", rfl, by rw [nothing]; rfl⟩
  cases fault with
  | misplacedTable noSlot =>
    rw [valuePlan, Value.role, noSlot]
    dsimp only
    rwa [rejectPlan_of_strict strict]
  | shape shapeFault =>
    rw [valuePlan, Value.role]
    dsimp only
    rw [batchPlan, shapeProblem?_eq_some_iff.mpr shapeFault]
    dsimp only
    rwa [rejectPlan_of_strict strict]
  | cell rectangular found cellFault earlier =>
    obtain ⟨-, nonempty⟩ := nonempty_of_isRectangular rectangular
    have alone : ∀ other ∈ _, settings.standsAlone other = true := fun other member =>
      standsAlone_iff.mpr (earlier other member)
    -- The rows and cells in front of the one at fault are rendered first.
    have fails := Template.failsBehind_rows strict nonempty found cellFault alone "" s
    rw [nothing] at fails
    rw [valuePlan, Value.role]
    dsimp only
    rw [batchPlan, shapeProblem?_eq_none_iff.mpr rectangular]
    exact fails

end Settings

/-! ### Faults of a template -/

namespace Template

variable {t : Template} {i : Nat}

theorem MalformedAt.of_before {j : Nat} (malformed : (t.before i).MalformedAt settings j) :
    j < i ∧ t.MalformedAt settings j := by
  obtain ⟨segment, v, atSegment, atValue, malformed⟩ := malformed
  rw [before, List.getElem?_take] at atSegment atValue
  split at atValue
  next inside =>
    rw [if_pos (Nat.lt_succ_of_lt inside)] at atSegment
    exact ⟨inside, segment, v, atSegment, atValue, malformed⟩
  next => cases atValue

/-- Without a malformed value nothing stops. -/
theorem stopped_plan (fine : ∀ i, ¬ t.MalformedAt settings i) :
    (t.plan settings).stopped = none := by
  obtain ⟨segments, values⟩ := t
  cases segments with
  | nil => rfl
  | cons first segments =>
    refine Plan.stopped_concat fun p member => ?_
    rcases List.mem_cons.mp member with rfl | later
    · rfl
    · rcases Settings.mem_plansAfter later with ⟨segment, -, rfl⟩ | ⟨⟨segment, v⟩, found, rfl⟩
      · rfl
      · obtain ⟨i, atPair⟩ := List.mem_iff_getElem?.mp found
        obtain ⟨atSegment, atValue⟩ := List.getElem?_zip_eq_some.mp atPair
        exact Settings.stopped_valuePlan fun malformed =>
          fine i ⟨segment, v, atSegment, atValue, malformed⟩

theorem exists_firstFault (malformed : ∃ i, t.MalformedAt settings i) :
    ∃ cause front, t.FirstFault settings cause front := by
  classical
  -- The least number of a malformed value has none in front of it.
  obtain ⟨segment, v, atSegment, atValue, malformed'⟩ := Nat.find_spec malformed
  obtain ⟨cause, part, fault⟩ := Settings.malformed_iff.mp malformed'
  exact ⟨cause, _, .ofValue atSegment atValue fault fun j earlier => Nat.find_min malformed earlier⟩

theorem FirstFault.alternates (alternates : t.Alternates) {front : Template}
    (fault : t.FirstFault settings cause front) : front.Alternates := by
  cases fault with
  | ofValue _ _ fault _ => exact (alternates.before _).append fault.alternates

/-- The template is rendered up to its first fault. -/
theorem FirstFault.failsBehind (strict : settings.mode = .strict) (alternates : t.Alternates)
    {front : Template} (fault : t.FirstFault settings cause front) (s : Statement) :
    Rendering.FailsBehind settings front cause s ((t.plan settings).run s) := by
  cases fault with | @ofValue i segment v _ part atSegment atValue fault earlier => ?_
  -- No value in front of the malformed one stops the rendering, so it gets there.
  have fine (j : Nat) : ¬ (t.before i).MalformedAt settings j := fun malformed =>
    earlier j malformed.of_before.1 malformed.of_before.2
  have run := Plan.run_of_ends (stopped_plan fine) s
  generalize s.writeAll _ = reached at run
  obtain ⟨rendered, written, fails⟩ := fault.failsBehind strict reached
  refine ⟨rendered, ?_, ?_⟩
  · rw [run_plan_append settings (alternates.before i) fault.alternates (fault.meets _), run]
    exact written
  · rw [run_plan_around settings alternates atSegment atValue, run]
    exact congrArg (· >>= ((t.after i).plan settings).run) fails

end Template

/-! ### Composing -/

/-- In strict mode a template with a segment more than values fails exactly if one of its values is
malformed. The error is the first fault of the leftmost one, and it quotes the text of what stands
in front of the fault. -/
theorem compose_strict_eq_error_iff (composer : Composer)
    (strict : composer.settings.mode = .strict) (t : Template)
    (count : t.segments.length = t.values.length + 1) :
    ((∃ error, composer.compose t = .error error) ↔
      ∃ (i : Nat) (segment : String) (v : Value), t.segments[i]? = some segment ∧
        t.values[i]? = some v ∧ composer.settings.Malformed segment v) ∧
    ∀ error, composer.compose t = .error error ↔
      ∃ cause front s, t.FirstFault composer.settings cause front ∧
        composer.compose front = .ok s ∧ (QueryError.of cause).withSql s.text = error := by
  have formed : t.isWellFormed = true := decide_eq_true count
  have alternates := Template.alternates_iff.mpr formed
  -- Every first fault gives an error with the text in front of it.
  have reported {cause : Cause} {front : Template}
      (fault : t.FirstFault composer.settings cause front) : ∃ s,
        composer.compose front = .ok s ∧
        composer.compose t = .error ((QueryError.of cause).withSql s.text) := by
    obtain ⟨rendered, written, fails⟩ := fault.failsBehind strict alternates .empty
    refine ⟨rendered, ?_, ?_⟩
    · exact Composer.compose_eq_ok_iff_run.mpr
        ⟨Template.alternates_iff.mp (fault.alternates alternates), written⟩
    · rw [Composer.compose_eq_run, if_pos formed, fails]
      rfl
  have failing {error : QueryError} (failed : composer.compose t = .error error) :
      ∃ i, t.MalformedAt composer.settings i := by
    by_contra fine
    obtain ⟨cause, stopped, -⟩ := (Composer.compose_eq_error_iff formed).mp failed
    cases stopped.symm.trans (Template.stopped_plan (not_exists.mp fine))
  refine ⟨⟨?fails, ?malformed⟩, fun error => ⟨?first, ?only⟩⟩
  case fails =>
    rintro ⟨error, failed⟩
    exact failing failed
  case malformed =>
    intro malformed
    obtain ⟨cause, front, fault⟩ := Template.exists_firstFault malformed
    obtain ⟨s, -, failed⟩ := reported fault
    exact ⟨_, failed⟩
  case first =>
    intro failed
    obtain ⟨cause, front, fault⟩ := Template.exists_firstFault (failing failed)
    obtain ⟨s, composed, same⟩ := reported fault
    exact ⟨cause, front, s, fault, composed, Except.error.inj (same.symm.trans failed)⟩
  case only =>
    rintro ⟨cause, front, s, fault, composed, rfl⟩
    obtain ⟨other, known, failed⟩ := reported fault
    rw [Except.ok.inj (composed.symm.trans known)]
    exact failed

/-- Raw text in the second row of a batch, and a misplaced table behind it that does not count. -/
theorem compose_strict_eq_error_iff_cell :
    Composer.standard.compose
        ⟨["INSERT INTO ", " VALUES ", " RETURNING ", ""], [.table "users",
          .batch [[.plain (.int 1), .raw "default"], [.plain .null, .raw "now()"]], .table "id"]⟩ =
      .error ((QueryError.of (.unsafeBatchCell "now()" "DEFAULT")).withSql
        "INSERT INTO \"public\".\"users\" VALUES ($1,default),($2,") ∧
    ∃ cause front s, Template.FirstFault .standard
        ⟨["INSERT INTO ", " VALUES ", " RETURNING ", ""], [.table "users",
          .batch [[.plain (.int 1), .raw "default"], [.plain .null, .raw "now()"]], .table "id"]⟩
        cause front ∧
      Composer.standard.compose front = .ok s ∧
      (QueryError.of cause).withSql s.text =
        (QueryError.of (.unsafeBatchCell "now()" "DEFAULT")).withSql
          "INSERT INTO \"public\".\"users\" VALUES ($1,default),($2," := by
  have failed : Composer.standard.compose
      ⟨["INSERT INTO ", " VALUES ", " RETURNING ", ""], [.table "users",
        .batch [[.plain (.int 1), .raw "default"], [.plain .null, .raw "now()"]], .table "id"]⟩ =
      .error ((QueryError.of (.unsafeBatchCell "now()" "DEFAULT")).withSql
        "INSERT INTO \"public\".\"users\" VALUES ($1,default),($2,") := rfl
  obtain ⟨-, first⟩ := compose_strict_eq_error_iff .standard rfl
    ⟨["INSERT INTO ", " VALUES ", " RETURNING ", ""], [.table "users",
      .batch [[.plain (.int 1), .raw "default"], [.plain .null, .raw "now()"]], .table "id"]⟩ rfl
  exact ⟨failed, (first _).mp failed⟩

end SqlWeave
