import SqlWeave.Proofs.Composition.Meaning
import SqlWeave.Proofs.Composition.Splicing

/-!
# Batches written out

A batch stands for its cells in parentheses: writing them out as values of their own, between
segments that hold the commas and the parentheses, composes to the same statement and records the
same tables (`composeTracked_writeOut`). No such segment opens a table slot, and a closing
parenthesis in front of a segment neither opens nor closes one.
-/
namespace SqlWeave

/-! ### Segments with parentheses -/

namespace TableSlot

variable {word text : List Char}

/-- No keyword ends with punctuation, so no table slot opens behind it. -/
theorem detect?_eq_none_of_punctuation {segment : String} {front : List Char} {c : Char}
    (punctuation : c ∈ ['(', ',']) (parts : segment.toList = front ++ [c]) :
    detect? segment = none := by
  have kept : Text.isBlank c = false ∧ c.toLower = c := by
    simp only [List.mem_cons, List.not_mem_nil, or_false] at punctuation
    rcases punctuation with rfl | rfl <;> decide
  have ending : (folded segment).getLast? = some c := by
    simp [folded, parts, Text.trimEnd, Text.foldCase, kept]
  cases detected : detect? segment with
  | none => rfl
  | some slot =>
    obtain ⟨head, whole, -⟩ := endsInWord_of_detect? detected
    have nonempty : Text.lowered slot.keyword ≠ [] := by cases slot <;> decide
    -- The punctuation would be the last character of the keyword.
    rw [whole, List.getLast?_append_of_ne_nil _ nonempty] at ending
    have letters : (Text.lowered slot.keyword).getLast? ∉ ['(', ','].map some := by
      cases slot <;> decide
    exact absurd (ending ▸ List.mem_map_of_mem punctuation) letters

theorem folded_closed (segment : String) : folded (")" ++ segment) = ')' :: folded segment := by
  have whole : (")" ++ segment).toList = ')' :: segment.toList := by simp
  rw [folded, whole, Text.trimEnd, List.reverse_cons, List.dropWhile_append]
  split
  next blank =>
    -- Everything behind the parenthesis is blank.
    have nothing : Text.trimEnd segment.toList = [] := by
      rw [Text.trimEnd, List.isEmpty_iff.mp blank, List.reverse_nil]
    rw [folded, nothing]
    rfl
  next => simp [folded, Text.trimEnd, Text.foldCase]

/-- A parenthesis is no part of a word and continues none. -/
theorem endsWithWord_closed (word : List Char) (apart : word.head? ≠ some ')')
    (text : List Char) :
    endsWithWord word (')' :: text) = endsWithWord word text := by
  rw [Bool.eq_iff_iff, endsWithWord_iff, endsWithWord_iff]
  constructor
  · rintro ⟨head, whole, free⟩
    cases head with
    | nil =>
      rw [List.nil_append] at whole
      exact absurd (whole ▸ rfl) apart
    | cons other head =>
      obtain ⟨rfl, rfl⟩ := List.cons.inj whole
      refine ⟨head, rfl, fun d last => free d ?_⟩
      cases head with
      | nil => cases last
      | cons => rwa [List.getLast?_cons_cons]
  · rintro ⟨head, rfl, free⟩
    refine ⟨')' :: head, rfl, fun d last => ?_⟩
    cases head with
    | nil =>
      cases last
      decide
    | cons => exact free d (by rwa [List.getLast?_cons_cons] at last)

theorem detect?_closed (segment : String) : detect? (")" ++ segment) = detect? segment := by
  have distinct := endsWithWord_closed "distinct from".toList (by decide) (folded segment)
  have keyword (slot : TableSlot) :=
    endsWithWord_closed (Text.lowered slot.keyword) (by cases slot <;> decide) (folded segment)
  simp only [detect?_eq, folded_closed, distinct, keyword]

end TableSlot

theorem Operation.detect?_closed (segment : String) :
    detect? (")" ++ segment) = detect? segment := by
  have whole : Text.lowered (")" ++ segment) = ')' :: Text.lowered segment := by
    simp [Text.lowered, Text.foldCase]
  have mentioned (operation : Operation) :
      mentions operation.word.toList (')' :: Text.lowered segment) =
        mentions operation.word.toList (Text.lowered segment) := by
    have noStart : operation.word.toList.isPrefixOf (')' :: Text.lowered segment) = false := by
      cases operation <;> rfl
    rw [mentions, noStart, Bool.false_or]
  simp only [detect?, whole, mentioned]

/-- A closing parenthesis in front of its segment changes nothing for a value. -/
theorem Value.same_closed (v : Value) (segment : String) :
    v.role (")" ++ segment) = v.role segment ∧
      v.writtenTable? (")" ++ segment) = v.writtenTable? segment := by
  have roles := v.role_eq_of_detect?_eq (TableSlot.detect?_closed segment)
  exact ⟨roles, writtenTable?_eq_of_role_eq roles (Operation.detect?_closed segment)⟩

/-! ### Batches as templates -/

/-- The segments between the cells of rows: commas inside a row, and between two rows a comma with
the parentheses around it. -/
def Template.cellSeparators : List (List Value) → List String
  | [] => []
  | [row] => List.replicate (row.length - 1) ","
  | row :: rows => List.replicate (row.length - 1) "," ++ "),(" :: cellSeparators rows

/-- The cells of a batch as values of their own, with the text of the tuples around them. -/
def Template.ofRows (rows : List (List Value)) : Template :=
  ⟨"(" :: cellSeparators rows ++ [")"], rows.flatten⟩

/-- The template with the batch that is its value number `i` written out: the segment in front opens
the first tuple, the one behind closes the last, and the cells are values of their own. -/
def Template.writeOut (t : Template) (i : Nat) (rows : List (List Value)) : Template where
  segments :=
    let around := (t.segments.modify i (· ++ "(")).modify (i + 1) (")" ++ ·)
    around.take (i + 1) ++ cellSeparators rows ++ around.drop (i + 1)
  values := t.values.take i ++ rows.flatten ++ t.values.drop (i + 1)

example (before first last : String) (a b c d e f v : Value) :
    let rows := [[a, b, c], [d, e, f]]
    (⟨[before, first, last], [v, .batch rows]⟩ : Template).writeOut 1 rows =
      ⟨[before, first ++ "(", ",", ",", "),(", ",", ",", ")" ++ last], [v, a, b, c, d, e, f]⟩ := rfl

/-- A cell that is the same on its own: data, a nested statement, or the default keyword. -/
def Settings.standsAlone (settings : Settings) : Value → Bool
  | .plain _ | .nested _ => true
  | .raw text => settings.asksForDefault text
  | .table _ | .batch _ => false

/-- Where no slot opens, a cell is written as a value of its own would be. -/
theorem Settings.valuePlan_eq_cellPlan {settings : Settings} {cell : Value} {preceding : String}
    (alone : settings.standsAlone cell = true) (noSlot : TableSlot.detect? preceding = none) :
    settings.valuePlan preceding cell = settings.cellPlan cell := by
  cases cell with
  | plain scalar => cases scalar <;> simp [valuePlan, cellPlan, Value.role, noSlot]
  | nested => rfl
  | raw text => exact (if_pos alone).symm
  | table | batch => cases alone

/-! ### What a batch writes -/

namespace Plan

theorem run_separated_singleton (p : Plan) (s : Statement) :
    (separated [p]).run s = p.run s := by
  have alone : (separated [p]).run s = p.run s >>= done.run := run_andThen p done s
  rw [alone]
  exact bind_pure (p.run s)

theorem run_separated_cons (p q : Plan) (plans : List Plan) (s : Statement) :
    (separated (p :: q :: plans)).run s =
      p.run s >>= fun s => (separated (q :: plans)).run (s.pushText ",") := by
  have whole : separated (p :: q :: plans) =
      p.andThen ((ofWrite (.text ",")).andThen (separated (q :: plans))) := rfl
  rw [whole, run_andThen]
  exact congrArg _ (funext fun s => run_andThen _ _ s)

end Plan

theorem Settings.run_rowPlan (settings : Settings) (row : List Value) (s : Statement) :
    (settings.rowPlan row).run s =
      (Plan.separated (row.map settings.cellPlan)).run (s.pushText "(") >>= fun s =>
        .ok (s.pushText ")") := by
  have whole : settings.rowPlan row = (Plan.ofWrite (.text "(")).andThen
      ((Plan.separated (row.map settings.cellPlan)).andThen
        ((Plan.ofWrite (.text ")")).andThen .done)) := rfl
  rw [whole, Plan.run_andThen]
  exact Plan.run_andThen _ _ _

theorem nonempty_of_isRectangular {rows : List (List Value)} (rectangular : isRectangular rows) :
    rows ≠ [] ∧ ∀ row ∈ rows, row ≠ [] := by
  cases rows with
  | nil => cases rectangular
  | cons first others =>
    simp only [isRectangular, Bool.and_eq_true, Bool.not_eq_true', List.all_eq_true,
      decide_eq_true_eq] at rectangular
    obtain ⟨nonempty, lengths⟩ := rectangular
    have first_ne : first ≠ [] := by
      rintro rfl
      cases nonempty
    refine ⟨List.cons_ne_nil _ _, fun row member => ?_⟩
    rcases List.mem_cons.mp member with rfl | later
    · exact first_ne
    · rintro rfl
      exact first_ne (List.length_eq_zero_iff.mp (lengths [] later).symm)

/-! ### What the written out batch writes -/

namespace Template

variable {settings : Settings} {rows : List (List Value)} {opening : String} {u : Template}

theorem alternates_cells (opening : String) {row : List Value} (nonempty : row ≠ [])
    (rest : u.Alternates) :
    Alternates ⟨opening :: List.replicate (row.length - 1) "," ++ u.segments, row ++ u.values⟩ := by
  apply alternates_of_length
  have count := rest.length_segments
  have cells := List.length_pos_iff.mpr nonempty
  simp only [List.length_append, List.length_cons, List.length_replicate]
  omega

/-- Cells behind a segment that opens no slot write what the cells of a row write. -/
theorem run_plan_cells {row : List Value}
    (alone : ∀ cell ∈ row, settings.standsAlone cell = true)
    (noSlot : TableSlot.detect? opening = none) (nonempty : row ≠ []) (rest : u.Alternates)
    (s : Statement) :
    (plan settings ⟨opening :: List.replicate (row.length - 1) "," ++ u.segments,
        row ++ u.values⟩).run s =
      (Plan.separated (row.map settings.cellPlan)).run (s.pushText opening) >>=
        (u.plan settings).run := by
  -- From the second cell on the segment in front is the comma, so it stays general.
  induction row generalizing opening s with
  | nil => exact absurd rfl nonempty
  | cons cell row ih =>
    obtain ⟨here, later⟩ := List.forall_mem_cons.mp alone
    have first := settings.valuePlan_eq_cellPlan here noSlot
    cases row with
    | nil =>
      have step := run_plan_cons settings opening cell rest.segments_ne_nil s
      rw [first] at step
      rw [List.map_singleton, Plan.run_separated_singleton]
      exact step
    | cons next row =>
      have others := (alternates_cells "," (List.cons_ne_nil next row) rest).segments_ne_nil
      have step := run_plan_cons settings opening cell others s
      have comma : TableSlot.detect? "," = none := by decide
      have tail := ih later comma (List.cons_ne_nil next row)
      rw [first, funext tail] at step
      rw [List.map_cons, List.map_cons, Plan.run_separated_cons, bind_assoc]
      exact step

theorem alternates_rows (opening : String) (rows_ne : rows ≠ [])
    (nonempty : ∀ row ∈ rows, row ≠ []) :
    Alternates ⟨opening :: cellSeparators rows ++ [")"], rows.flatten⟩ := by
  induction rows generalizing opening with
  | nil => exact absurd rfl rows_ne
  | cons row rows ih =>
    obtain ⟨here, later⟩ := List.forall_mem_cons.mp nonempty
    cases rows with
    | nil => exact alternates_cells opening here (.last ")")
    | cons next rows =>
      have rest := ih "),(" (List.cons_ne_nil next rows) later
      have whole := alternates_cells opening here rest
      simpa [cellSeparators] using whole

/-- Rows behind a parenthesis write what the rows of a batch write. -/
theorem run_plan_rows (alone : ∀ row ∈ rows, ∀ cell ∈ row, settings.standsAlone cell = true)
    (rows_ne : rows ≠ []) (nonempty : ∀ row ∈ rows, row ≠ []) (opening : String) (s : Statement) :
    (plan settings ⟨(opening ++ "(") :: cellSeparators rows ++ [")"], rows.flatten⟩).run s =
      (Plan.separated (rows.map settings.rowPlan)).run (s.pushText opening) := by
  induction rows generalizing opening s with
  | nil => exact absurd rfl rows_ne
  | cons row rows ih =>
    obtain ⟨cells, others⟩ := List.forall_mem_cons.mp alone
    obtain ⟨here, later⟩ := List.forall_mem_cons.mp nonempty
    have noSlot : TableSlot.detect? (opening ++ "(") = none :=
      TableSlot.detect?_eq_none_of_punctuation (by decide) String.toList_append
    have opened := s.pushText_append opening "("
    cases rows with
    | nil =>
      have written := run_plan_cells cells noSlot here (.last ")") s
      rw [List.map_singleton, Plan.run_separated_singleton, settings.run_rowPlan, ← opened]
      exact written
    | cons next rows =>
      have rest := alternates_rows "),(" (List.cons_ne_nil next rows) later
      have written := run_plan_cells cells noSlot here rest s
      -- The parenthesis that closes this row is written by the segment that opens the next one.
      have tail (s : Statement) :
          (plan settings ⟨"),(" :: cellSeparators (next :: rows) ++ [")"],
            (next :: rows).flatten⟩).run s =
          (Plan.separated ((next :: rows).map settings.rowPlan)).run
            ((s.pushText ")").pushText ",") := by
        rw [← s.pushText_append]
        exact ih others (List.cons_ne_nil next rows) later ")," s
      have parts : cellSeparators (row :: next :: rows) ++ [")"] =
          List.replicate (row.length - 1) "," ++
            ("),(" :: cellSeparators (next :: rows) ++ [")"]) := by
        simp [cellSeparators]
      rw [List.map_cons, List.map_cons, Plan.run_separated_cons, settings.run_rowPlan, ← opened,
        bind_assoc, List.cons_append, parts]
      exact written.trans (congrArg _ (funext tail))

theorem run_plan_ofRows (rectangular : isRectangular rows = true)
    (alone : ∀ row ∈ rows, ∀ cell ∈ row, settings.standsAlone cell = true) (s : Statement) :
    ((ofRows rows).plan settings).run s = (settings.batchPlan rows).run s := by
  obtain ⟨rows_ne, nonempty⟩ := nonempty_of_isRectangular rectangular
  have shape : Settings.shapeProblem? rows = none := shapeProblem?_eq_none_iff.mpr rectangular
  have written := run_plan_rows alone rows_ne nonempty "" s
  have start : s.pushText "" = s := by simp [Statement.pushText]
  rw [start] at written
  rw [Settings.batchPlan, shape]
  exact written

/-! ### Where the batch stands -/

theorem alternates_ofRows (rectangular : isRectangular rows = true) : (ofRows rows).Alternates := by
  obtain ⟨rows_ne, nonempty⟩ := nonempty_of_isRectangular rectangular
  exact alternates_rows "(" rows_ne nonempty

theorem mem_cellSeparators {segment : String} (member : segment ∈ cellSeparators rows) :
    segment = "," ∨ segment = "),(" := by
  fun_induction cellSeparators rows with
  | case1 => cases member
  | case2 row => exact .inl (List.eq_of_mem_replicate member)
  | case3 row rows _ ih =>
    rcases List.mem_append.mp member with inside | between
    · exact .inl (List.eq_of_mem_replicate inside)
    · rcases List.mem_cons.mp between with rfl | later
      · exact .inr rfl
      · exact ih later

theorem writtenTable?_of_noSlot {preceding : String} (noSlot : TableSlot.detect? preceding = none)
    (v : Value) : v.writtenTable? preceding = none := by
  have notOpen : ¬ TableSlot.OpensWrite preceding := by simp [TableSlot.opensWrite_iff, noSlot]
  rw [v.writtenTable?_eq, if_neg notOpen]

theorem writtenTables_ofRows (rows : List (List Value)) : (ofRows rows).writtenTables = [] := by
  rw [writtenTables, List.filterMap_eq_nil_iff]
  rintro ⟨segment, v⟩ member
  have listed : segment ∈ "(" :: cellSeparators rows ++ [")"] := (List.of_mem_zip member).1
  have noSlot : TableSlot.detect? segment = none := by
    simp only [List.cons_append, List.mem_cons, List.mem_append, List.not_mem_nil,
      or_false] at listed
    rcases listed with rfl | between | rfl
    · decide
    · rcases mem_cellSeparators between with rfl | rfl <;> decide
    · decide
  exact writtenTable?_of_noSlot noSlot v

/-- The parenthesis behind any segment opens no slot for the first cell. -/
theorem meets_ofRows (t : Template) (rows : List (List Value)) : t.Meets (ofRows rows) := by
  intro last _ first isFirst v _
  cases isFirst
  have noSlot : TableSlot.detect? (last ++ "(") = none :=
    TableSlot.detect?_eq_none_of_punctuation (by decide) String.toList_append
  have alone : TableSlot.detect? "(" = none := by decide
  refine ⟨v.role_eq_of_detect?_eq (noSlot.trans alone.symm), ?_⟩
  rw [writtenTable?_of_noSlot noSlot, writtenTable?_of_noSlot alone]

theorem meets_of_closed {t u : Template} (closed : t.segments.getLast? = some ")") : t.Meets u := by
  intro last isLast first _ v _
  cases isLast.symm.trans closed
  exact v.same_closed first

theorem getLast?_append_ofRows {t : Template} (alternates : t.Alternates)
    (rows : List (List Value)) : (t ++ ofRows rows).segments.getLast? = some ")" := by
  induction alternates with
  | last segment =>
    have whole : ((⟨[segment], []⟩ : Template) ++ ofRows rows).segments =
        ((segment ++ "(") :: cellSeparators rows) ++ [")"] := rfl
    rw [whole, List.getLast?_concat]
  | @cons segment v t alternates ih =>
    rw [cons_append segment v alternates.segments_ne_nil]
    have joined : (t ++ ofRows rows).segments ≠ [] := by
      intro none
      rw [none] at ih
      cases ih
    rwa [List.getLast?_cons_of_ne_nil joined]

variable {t : Template} {i : Nat}

theorem glue_concat (a : List String) (last first : String) (b : List String) :
    glue (a ++ [last]) (first :: b) = a ++ (last ++ first) :: b := by
  induction a with
  | nil => rfl
  | cons segment a ih =>
    cases a with
    | nil => rfl
    | cons next a => exact congrArg (segment :: ·) ih

theorem glue_cons (segment : String) {a : List String} (more : a ≠ []) (b : List String) :
    glue (segment :: a) b = segment :: glue a b := by
  obtain ⟨next, a, rfl⟩ := List.exists_cons_of_ne_nil more
  rfl

theorem glue_ne_nil {a : List String} (more : a ≠ []) (b : List String) : glue a b ≠ [] := by
  fun_cases glue a b with
  | case1 => exact absurd rfl more
  | case2 | case3 | case4 => exact List.cons_ne_nil _ _

theorem writeOut_eq_splice (behind : i + 1 < t.segments.length) (rows : List (List Value)) :
    t.writeOut i rows = t.splice i (ofRows rows) := by
  obtain ⟨segments, values⟩ := t
  suffices same : (writeOut ⟨segments, []⟩ i rows).segments =
      glue (glue (segments.take (i + 1)) (ofRows rows).segments) (segments.drop (i + 1)) from
    congrArg (Template.mk · _) same
  simp only at behind
  induction segments generalizing i with
  | nil => cases behind
  | cons segment segments ih =>
    cases i with
    | zero =>
      obtain ⟨next, segments, rfl⟩ := List.exists_cons_of_length_pos (Nat.lt_of_succ_lt_succ behind)
      exact (glue_concat ((segment ++ "(") :: cellSeparators rows) ")" next segments).symm
    | succ i =>
      have inner := Nat.lt_of_succ_lt_succ behind
      have front : segments.take (i + 1) ≠ [] := by
        apply List.ne_nil_of_length_pos
        rw [List.length_take_of_le (Nat.le_of_lt inner)]
        exact Nat.succ_pos i
      -- The batch is further back, so the first segment is glued to nothing.
      have joined := glue_ne_nil front (ofRows rows).segments
      rw [List.take_succ_cons, List.drop_succ_cons, glue_cons segment front,
        glue_cons segment joined]
      exact congrArg (segment :: ·) (ih inner)

theorem run_plan_splice_ofRows (alternates : t.Alternates)
    (found : t.values[i]? = some (.batch rows)) (rectangular : isRectangular rows = true)
    (alone : ∀ row ∈ rows, ∀ cell ∈ row, settings.standsAlone cell = true) (s : Statement) :
    ((t.splice i (ofRows rows)).plan settings).run s = (t.plan settings).run s := by
  obtain ⟨segment, behind⟩ := alternates.segment_of_value found
  obtain ⟨inside, -⟩ := List.getElem?_eq_some_iff.mp found
  have front := alternates.before i
  have cells := alternates_ofRows rectangular
  have closed := getLast?_append_ofRows front rows
  rw [splice, run_plan_append settings (front.append cells) (alternates.after inside)
    (meets_of_closed closed), run_plan_append settings front cells (meets_ofRows _ rows),
    run_plan_around settings alternates behind found, bind_assoc]
  apply congrArg
  funext s
  rw [run_plan_ofRows rectangular alone]
  rfl

theorem writtenTables_splice_ofRows (alternates : t.Alternates)
    (found : t.values[i]? = some (.batch rows)) (rectangular : isRectangular rows = true) :
    (t.splice i (ofRows rows)).writtenTables = t.writtenTables := by
  obtain ⟨segment, behind⟩ := alternates.segment_of_value found
  obtain ⟨inside, -⟩ := List.getElem?_eq_some_iff.mp found
  have front := alternates.before i
  have cells := alternates_ofRows rectangular
  have closed := getLast?_append_ofRows front rows
  rw [splice, writtenTables_append (front.append cells) (alternates.after inside)
    (meets_of_closed closed), writtenTables_append front cells (meets_ofRows _ rows),
    writtenTables_ofRows, List.append_nil, writtenTables_around alternates behind found]
  rfl

theorem isWellFormed_writeOut (found : t.values[i]? = some (.batch rows))
    (rectangular : isRectangular rows = true) :
    (t.writeOut i rows).isWellFormed = t.isWellFormed := by
  obtain ⟨inside, -⟩ := List.getElem?_eq_some_iff.mp found
  have cells := (alternates_ofRows rectangular).length_segments
  simp only [ofRows, List.length_append, List.length_cons, List.length_nil] at cells
  -- As many segments come in as values.
  rw [isWellFormed, isWellFormed, decide_eq_decide]
  simp only [writeOut, List.length_append, List.length_take, List.length_drop, List.length_modify]
  omega

end Template

/-! ### Composing -/

/-- A batch is a shorthand for its cells written out: the statement is the same, or both fail with
the same code, and the same tables are recorded. -/
theorem composeTracked_writeOut (composer : Composer) (changed : ChangeSet) {t : Template} {i : Nat}
    {rows : List (List Value)} (found : t.values[i]? = some (.batch rows))
    (rectangular : isRectangular rows = true)
    (alone : ∀ row ∈ rows, ∀ cell ∈ row, composer.settings.standsAlone cell = true) :
    (composer.composeTracked changed t).1.mapError QueryError.code =
      (composer.composeTracked changed (t.writeOut i rows)).1.mapError QueryError.code ∧
    (composer.composeTracked changed t).2 =
      (composer.composeTracked changed (t.writeOut i rows)).2 ∧
    (t.isWellFormed = true → composer.composeTracked changed t =
      composer.composeTracked changed (t.writeOut i rows)) := by
  have formed := Template.isWellFormed_writeOut found rectangular
  cases count : t.isWellFormed with
  | true =>
    have alternates := Template.alternates_iff.mpr count
    have behind : i + 1 < t.segments.length := by
      obtain ⟨inside, -⟩ := List.getElem?_eq_some_iff.mp found
      have length := alternates.length_segments
      omega
    have same : composer.composeTracked changed t =
        composer.composeTracked changed (t.writeOut i rows) := by
      have spliced := Template.writeOut_eq_splice behind rows
      have written := Template.run_plan_splice_ofRows alternates found rectangular alone .empty
      have tables := Template.writtenTables_splice_ofRows alternates found rectangular
      rw [← spliced] at written tables
      simp only [Composer.composeTracked, Composer.compose_eq_run, formed, count, written, tables,
        if_true]
    rw [← same]
    exact ⟨rfl, rfl, fun _ => rfl⟩
  | false =>
    -- Neither template has a segment more than values, and the errors tell the two counts.
    have failed (u : Template) (malformed : u.isWellFormed = false) :
        composer.composeTracked changed u = (Composer.compose.arityError u, changed) := by
      rw [Composer.composeTracked, Composer.compose_eq_run, malformed]
      rfl
    rw [failed t count, failed _ (formed.trans count)]
    exact ⟨rfl, rfl, fun none => by cases none⟩

/-- A cell that brings two values, one that brings none, and a written table behind the batch. -/
theorem composeTracked_writeOut_insert :
    isRectangular [[.plain (.string "Ann"), .nested ⟨"f($2,$1)", [.int 1, .int 2],
      [⟨2, 4, 2⟩, ⟨5, 7, 1⟩], none⟩], [.raw "default", .plain .null]] = true ∧
    ∃ (s : Statement) (after : ChangeSet),
      Composer.standard.composeTracked .empty
        ⟨["INSERT INTO ", " VALUES ", "; UPDATE ", ""],
          [.table "t", .batch [[.plain (.string "Ann"), .nested ⟨"f($2,$1)", [.int 1, .int 2],
            [⟨2, 4, 2⟩, ⟨5, 7, 1⟩], none⟩], [.raw "default", .plain .null]], .table "u"]⟩ =
        (.ok s, after) ∧
      Composer.standard.composeTracked .empty
        ⟨["INSERT INTO ", " VALUES (", ",", "),(", ",", "); UPDATE ", ""],
          [.table "t", .plain (.string "Ann"), .nested ⟨"f($2,$1)", [.int 1, .int 2],
            [⟨2, 4, 2⟩, ⟨5, 7, 1⟩], none⟩, .raw "default", .plain .null, .table "u"]⟩ =
        (.ok s, after) ∧
      s.text = "INSERT INTO \"public\".\"t\" VALUES ($1,f($3,$2)),(default,$4); " ++
        "UPDATE \"public\".\"u\"" ∧
      s.values = [.string "Ann", .int 1, .int 2, .null] ∧ after.tables = ["t", "u"] := by
  have rectangular : isRectangular [[.plain (.string "Ann"), .nested ⟨"f($2,$1)", [.int 1, .int 2],
      [⟨2, 4, 2⟩, ⟨5, 7, 1⟩], none⟩], [.raw "default", .plain .null]] = true := by decide
  obtain ⟨-, -, same⟩ := composeTracked_writeOut .standard .empty
    (t := ⟨["INSERT INTO ", " VALUES ", "; UPDATE ", ""],
      [.table "t", .batch [[.plain (.string "Ann"), .nested ⟨"f($2,$1)", [.int 1, .int 2],
        [⟨2, 4, 2⟩, ⟨5, 7, 1⟩], none⟩], [.raw "default", .plain .null]], .table "u"]⟩) (i := 1) rfl
    rectangular (by
      intro row member cell inside
      simp only [List.mem_cons, List.not_mem_nil, or_false] at member
      rcases member with rfl | rfl
      all_goals
        simp only [List.mem_cons, List.not_mem_nil, or_false] at inside
        rcases inside with rfl | rfl <;> decide)
  exact ⟨rectangular, _, _, rfl, (same rfl).symm, rfl, rfl, by decide +kernel⟩

end SqlWeave
