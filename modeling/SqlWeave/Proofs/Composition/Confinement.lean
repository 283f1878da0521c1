import Mathlib
import SqlWeave.Proofs.Composition.Adoption
import SqlWeave.Proofs.Composition.Mode
import SqlWeave.Proofs.Composition.Rejection
import SqlWeave.Proofs.Tuples

/-!
# What a batch writes

A batch without nested statements cannot bring text of its own into a statement: it writes one
placeholder, or tuples of placeholders and default keywords that can be read back row by row
(`batch_confined`). The keyword consists of letters because the settings of every composer are in
order.
-/
namespace SqlWeave

/-! ### Writing at the end of a statement -/

/-- The second statement continues the first one by a text with placeholders of these numbers, which
are the next free ones in their order. -/
structure Statement.Continues (s t : Statement) (text : List Char) (numbers : List Nat) : Prop where
  appended : t.text.toList = s.text.toList ++ text
  numbered : numbers = List.range' (s.paramCount + 1) numbers.length
  counted : t.paramCount = s.paramCount + numbers.length

namespace Statement

variable {s t u : Statement} {front back : List Char} {first second : List Nat}

theorem continues_pushText (s : Statement) (text : String) :
    s.Continues (s.pushText text) text.toList [] where
  appended := String.toList_append
  numbered := rfl
  counted := rfl

theorem continues_bind (s : Statement) (scalar : Scalar) :
    s.Continues (s.bind scalar) (Cell.text (.slot (s.paramCount + 1))) [s.paramCount + 1] where
  appended := by simp [Statement.bind, pushPlaceholder, token, Cell.text, paramCount]
  numbered := rfl
  counted := paramCount_bind s scalar

theorem Continues.trans (left : s.Continues t front first) (right : t.Continues u back second) :
    s.Continues u (front ++ back) (first ++ second) where
  appended := by rw [right.appended, left.appended, List.append_assoc]
  numbered := by
    have later := right.numbered
    rw [left.counted, Nat.add_right_comm] at later
    rw [List.length_append, ← List.range'_append_1, ← left.numbered, ← later]
  counted := by rw [right.counted, left.counted, List.length_append, Nat.add_assoc]

end Statement

/-! ### Cells and rows -/

/-- The cell of a written batch that stands for a value: the default keyword as it is spelled there,
or a placeholder for anything else. -/
inductive Cell.StandsFor (settings : Settings) : Cell → Value → Prop
  | keyword {text : String} : settings.asksForDefault text = true →
      StandsFor settings (.keyword text.toList) (.raw text)
  | slot {number : Nat} {v : Value} :
      (∀ text, v = .raw text → settings.asksForDefault text = false) →
      StandsFor settings (.slot number) v

theorem exists_related {α β : Type} {R : α → β → Prop} {xs : List α} {ys : List β}
    (related : List.Forall₂ R xs ys) {x : α} (member : x ∈ xs) : ∃ y ∈ ys, R x y := by
  induction related with
  | nil => cases member
  | @cons a b xs ys here _ ih =>
    cases member with
    | head => exact ⟨b, .head ys, here⟩
    | tail _ member =>
      obtain ⟨y, found, related⟩ := ih member
      exact ⟨y, .tail b found, related⟩

/-- A sequence succeeds if its parts do, one on the result of the other. -/
theorem Rendering.bind_eq_ok_iff {r : Rendering} {f : Statement → Rendering} {t : Statement} :
    r >>= f = .ok t ↔ ∃ s, r = .ok s ∧ f s = .ok t := by
  cases r with
  | error rejection => simp [bind, Except.bind]
  | ok s => simp [bind, Except.bind]

namespace Plan

/-- A rendered sequence continues the statement by the texts of its items, with commas between. -/
theorem continues_separated {α β : Type} {plan : α → Plan} {R : β → α → Prop}
    {text : β → List Char} {numbers : β → List Nat} {items : List α}
    (each : ∀ item ∈ items, ∀ s t, (plan item).run s = .ok t →
      ∃ x, R x item ∧ s.Continues t (text x) (numbers x))
    {s t : Statement} (run : (separated (items.map plan)).run s = .ok t) :
    ∃ xs, List.Forall₂ R xs items ∧
      s.Continues t ([','].intercalate (xs.map text)) (xs.flatMap numbers) := by
  -- A comma stands behind every item but the last one.
  induction items generalizing s with
  | nil =>
    cases run
    exact ⟨[], .nil, (List.append_nil _).symm, rfl, rfl⟩
  | cons item items ih =>
    obtain ⟨here, later⟩ := List.forall_mem_cons.mp each
    cases items with
    | nil =>
      rw [List.map_singleton, run_separated_singleton] at run
      obtain ⟨x, related, continues⟩ := here s t run
      exact ⟨[x], .cons related .nil, by simpa using continues⟩
    | cons next items =>
      rw [List.map_cons, List.map_cons, run_separated_cons] at run
      obtain ⟨middle, rendered, run⟩ := Rendering.bind_eq_ok_iff.mp run
      obtain ⟨x, related, first⟩ := here s middle rendered
      obtain ⟨xs, others, rest⟩ := ih later run
      refine ⟨x :: xs, .cons related others, ?_⟩
      have whole := (first.trans (middle.continues_pushText ",")).trans rest
      -- There is an item behind the comma, as in the list of items.
      cases others with
      | cons => simpa [List.append_assoc] using whole

end Plan

namespace Settings

variable {settings : Settings} {cell : Value} {row : List Value} {rows : List (List Value)}
  {s t : Statement}

theorem continues_rejectPlan {cause : Cause} {v : Value}
    (run : (settings.rejectPlan cause v).run s = .ok t) :
    s.Continues t (Cell.text (.slot (s.paramCount + 1))) [s.paramCount + 1] := by
  unfold rejectPlan at run
  cases mode : settings.mode with
  | strict =>
    rw [mode] at run
    cases run
  | permissive =>
    rw [mode] at run
    cases run
    exact s.continues_bind _

theorem continues_cellPlan (noStatement : ∀ nested, cell ≠ .nested nested)
    (run : (settings.cellPlan cell).run s = .ok t) :
    ∃ written : Cell, written.StandsFor settings cell ∧
      s.Continues t written.text written.number?.toList := by
  -- Whatever is not rendered as a keyword is bound, also what permissive mode makes of bad cells.
  have slot (bound : s.Continues t (Cell.text (.slot (s.paramCount + 1))) [s.paramCount + 1])
      (noKeyword : ∀ text, cell = .raw text → settings.asksForDefault text = false) :
      ∃ written : Cell, written.StandsFor settings cell ∧
        s.Continues t written.text written.number?.toList :=
    ⟨.slot (s.paramCount + 1), .slot noKeyword, bound⟩
  cases cell with
  | nested nested => exact absurd rfl (noStatement nested)
  | plain scalar =>
    cases run
    exact slot (s.continues_bind scalar) (by simp)
  | table name => exact slot (continues_rejectPlan run) (by simp)
  | batch rows => exact slot (continues_rejectPlan run) (by simp)
  | raw text =>
    rw [cellPlan] at run
    split at run
    next asks =>
      cases run
      exact ⟨.keyword text.toList, .keyword asks, s.continues_pushText text⟩
    next other =>
      refine slot (continues_rejectPlan run) fun text same => ?_
      cases same
      exact Bool.eq_false_iff.mpr other

theorem continues_rowPlan (noStatements : ∀ cell ∈ row, ∀ nested, cell ≠ .nested nested)
    (run : (settings.rowPlan row).run s = .ok t) :
    ∃ written : List Cell, List.Forall₂ (Cell.StandsFor settings) written row ∧
      s.Continues t (Tuples.rowText written) (written.filterMap Cell.number?) := by
  rw [run_rowPlan] at run
  -- Behind the cells there is only the parenthesis, and writing it cannot fail.
  obtain ⟨middle, rendered, closed⟩ := Rendering.bind_eq_ok_iff.mp run
  cases closed
  obtain ⟨written, related, cells⟩ := Plan.continues_separated
    (fun cell member _ _ => continues_cellPlan (noStatements cell member)) rendered
  have whole := ((s.continues_pushText "(").trans cells).trans (middle.continues_pushText ")")
  refine ⟨written, related, ?_⟩
  simpa [Tuples.rowText, Tuples.cellsText, List.filterMap_eq_flatMap_toList] using whole

theorem continues_batchPlan (rectangular : isRectangular rows = true)
    (noStatements : ∀ row ∈ rows, ∀ cell ∈ row, ∀ nested, cell ≠ .nested nested)
    (run : (settings.batchPlan rows).run s = .ok t) :
    ∃ written : List (List Cell),
      List.Forall₂ (List.Forall₂ (Cell.StandsFor settings)) written rows ∧
      s.Continues t (Tuples.text written) (written.flatten.filterMap Cell.number?) := by
  rw [batchPlan, shapeProblem?_eq_none_iff.mpr rectangular] at run
  obtain ⟨written, related, continues⟩ := Plan.continues_separated
    (fun row member _ _ => continues_rowPlan (noStatements row member)) run
  refine ⟨written, related, ?_⟩
  rwa [List.filterMap_flatten]

/-- A batch whose rows do not line up is one placeholder. -/
theorem continues_malformed_batchPlan (other : isRectangular rows = false)
    (run : (settings.batchPlan rows).run s = .ok t) :
    s.Continues t (Cell.text (.slot (s.paramCount + 1))) [s.paramCount + 1] := by
  unfold batchPlan at run
  split at run
  next => exact continues_rejectPlan run
  next shape => cases other.symm.trans (shapeProblem?_eq_none_iff.mp shape)

end Settings

theorem Composer.keyword_ne_nil (composer : Composer) :
    Text.lowered composer.settings.defaultKeyword ≠ [] := by
  have keyword := composer.isKeyword_defaultKeyword
  intro empty
  rw [Settings.isKeyword, List.map_eq_nil_iff.mp empty] at keyword
  cases keyword

/-- Text that asks for the default is the keyword of the composer, and so it consists of letters. -/
theorem Composer.legible_of_standsFor (composer : Composer) {cell : Cell} {v : Value}
    (standsFor : cell.StandsFor composer.settings v) :
    cell.Legible composer.settings.defaultKeyword := by
  cases standsFor with
  | slot => trivial
  | @keyword text asks =>
    have same : Text.lowered text = Text.lowered composer.settings.defaultKeyword := by
      simpa [Settings.asksForDefault, Text.sameWord] using asks
    refine ⟨fun empty => ?_, List.all_eq_true.mpr fun c member => ?_, same⟩
    · rw [Text.lowered, empty] at same
      exact composer.keyword_ne_nil same.symm
    · -- Letters are those characters that are letters in lower case.
      have folded : c.toLower ∈ Text.lowered text := List.mem_map_of_mem member
      rw [same] at folded
      obtain ⟨d, found, lower⟩ := List.mem_map.mp folded
      rw [← Char.isAlpha_toLower_eq_isAlpha, ← lower, Char.isAlpha_toLower_eq_isAlpha]
      exact composer.isAlpha_of_mem_keyword d found

/-! ### A batch in its place -/

/-- The template up to its value number `i`, that value included. -/
def Template.through (t : Template) (i : Nat) : Template :=
  ⟨t.segments.take (i + 1) ++ [""], t.values.take (i + 1)⟩

namespace Template

variable {settings : Settings} {t : Template} {i : Nat} {v : Value}

theorem Alternates.through (alternates : t.Alternates) (found : t.values[i]? = some v) :
    (t.through i).Alternates := by
  obtain ⟨inside, -⟩ := List.getElem?_eq_some_iff.mp found
  apply alternates_of_length
  have count := alternates.length_segments
  simp only [Template.through, List.length_append, List.length_take, List.length_singleton]
  omega

/-- What is written up to a value is what is written in front of it and for it. -/
theorem run_plan_through (settings : Settings) (alternates : t.Alternates) {segment : String}
    (behind : t.segments[i]? = some segment) (found : t.values[i]? = some v) (s : Statement) :
    ((t.through i).plan settings).run s =
      ((t.before i).plan settings).run s >>= (settings.valuePlan segment v).run := by
  obtain ⟨inside, -⟩ := List.getElem?_eq_some_iff.mp found
  have count := alternates.length_segments
  have length : (t.segments.take (i + 1)).length = i + 1 := List.length_take_of_le (by omega)
  have front : (t.through i).before i = t.before i := by
    simp only [Template.through, before, List.take_left' length, List.take_take,
      Nat.min_eq_left (Nat.le_succ i)]
  have back : (t.through i).after i = .literal "" := by
    simp only [Template.through, after, List.drop_left' length, List.drop_take, Nat.sub_self,
      List.take_zero, literal]
  have atSegment : (t.through i).segments[i]? = some segment := by
    rw [Template.through, List.getElem?_append_left (by omega), List.getElem?_take,
      if_pos (Nat.lt_succ_self i), behind]
  have atValue : (t.through i).values[i]? = some v := by
    rw [Template.through, List.getElem?_take, if_pos (Nat.lt_succ_self i), found]
  -- Behind the value stands an empty segment, which writes nothing.
  have nothing (s : Statement) : ((literal "").plan settings).run s = pure s := by
    have empty : s.pushText "" = s := by simp [Statement.pushText]
    exact congrArg Except.ok empty
  rw [run_plan_around settings (alternates.through found) atSegment atValue, front, back,
    funext nothing]
  simp only [bind_pure]

end Template

/-- A template that composes does so up to each of its values, without that value and with it. The
value is written on what precedes it, and the text is the beginning of the whole text. -/
theorem Composer.compose_through (composer : Composer) {t : Template} {s : Statement} {i : Nat}
    {v : Value} (composed : composer.compose t = .ok s) (found : t.values[i]? = some v) :
    ∃ (segment : String) (before after : Statement), t.segments[i]? = some segment ∧
      composer.compose (t.before i) = .ok before ∧ composer.compose (t.through i) = .ok after ∧
      (composer.settings.valuePlan segment v).run before = .ok after ∧
      after.text.toList <+: s.text.toList := by
  obtain ⟨formed, run⟩ := Composer.compose_eq_ok_iff_run.mp composed
  have alternates := Template.alternates_iff.mpr formed
  obtain ⟨segment, behind⟩ := alternates.segment_of_value found
  have through := Template.run_plan_through composer.settings alternates behind found .empty
  rw [Template.run_plan_around composer.settings alternates behind found] at run
  -- The template composes, so its parts do, one after the other.
  obtain ⟨before, front, run⟩ := Rendering.bind_eq_ok_iff.mp run
  obtain ⟨after, middle, rest⟩ := Rendering.bind_eq_ok_iff.mp run
  rw [front] at through
  refine ⟨segment, before, after, behind, ?_, ?_, middle, ?_⟩
  · apply Composer.compose_eq_ok_iff_run.mpr
    exact ⟨Template.alternates_iff.mp (alternates.before i), front⟩
  · apply Composer.compose_eq_ok_iff_run.mpr
    exact ⟨Template.alternates_iff.mp (alternates.through found), through.trans middle⟩
  · -- What follows the value is appended to what has been written by then.
    unfold Plan.run at rest
    split at rest
    · cases rest
      exact after.text_prefix_writeAll _
    · cases rest

/-- What a batch without nested statements adds to the text of a statement is one placeholder if its
rows do not line up, and else a list of tuples with as many rows and cells. Default keywords stand
where the batch has them and are words of letters; every other cell is a placeholder, and their
numbers are the next free ones, row by row. -/
theorem batch_confined (composer : Composer) {t : Template} {s : Statement} {i : Nat}
    {rows : List (List Value)} (composed : composer.compose t = .ok s)
    (found : t.values[i]? = some (.batch rows))
    (noStatements : ∀ row ∈ rows, ∀ cell ∈ row, ∀ nested, cell ≠ .nested nested) :
    ∃ (before after : Statement) (written : List Char),
      composer.compose (t.before i) = .ok before ∧
      composer.compose (t.through i) = .ok after ∧
      after.text.toList = before.text.toList ++ written ∧
      after.text.toList <+: s.text.toList ∧
      (isRectangular rows = false →
        written = (Cell.slot (before.paramCount + 1)).text) ∧
      (isRectangular rows = true → ∃ tuples : List (List Cell),
        written = Tuples.text tuples ∧
        Tuples.read? composer.settings.defaultKeyword written = some tuples ∧
        (∀ row ∈ tuples, ∀ cell ∈ row, cell.Legible composer.settings.defaultKeyword) ∧
        List.Forall₂ (List.Forall₂ (Cell.StandsFor composer.settings)) tuples rows ∧
        ∃ count, tuples.flatten.filterMap Cell.number? =
            List.range' (before.paramCount + 1) count ∧
          after.paramCount = before.paramCount + count) := by
  obtain ⟨segment, before, after, -, composedBefore, composedThrough, written, begins⟩ :=
    composer.compose_through composed found
  -- The two statements differ in what the batch writes.
  have run : (composer.settings.batchPlan rows).run before = .ok after := written
  cases shape : isRectangular rows with
  | false =>
    have continues := Settings.continues_malformed_batchPlan shape run
    exact ⟨before, after, _, composedBefore, composedThrough, continues.appended, begins,
      fun _ => rfl, fun other => nomatch other⟩
  | true =>
    obtain ⟨rows_ne, nonempty⟩ := nonempty_of_isRectangular shape
    obtain ⟨tuples, related, continues⟩ := Settings.continues_batchPlan shape noStatements run
    -- Tuples have the shape of the rows that they stand for, and their cells are legible.
    have legible : ∀ row ∈ tuples, ∀ cell ∈ row,
        cell.Legible composer.settings.defaultKeyword := by
      intro row rowMember cell cellMember
      obtain ⟨values, -, sameRow⟩ := exists_related related rowMember
      obtain ⟨v, -, standsFor⟩ := exists_related sameRow cellMember
      exact composer.legible_of_standsFor standsFor
    have filled : ∀ row ∈ tuples, row ≠ [] := by
      rintro row member rfl
      obtain ⟨values, found, sameRow⟩ := exists_related related member
      exact nonempty values found (List.forall₂_nil_left_iff.mp sameRow)
    have tuples_ne : tuples ≠ [] := by
      rintro rfl
      exact rows_ne (List.forall₂_nil_left_iff.mp related)
    refine ⟨before, after, Tuples.text tuples, composedBefore, composedThrough,
      continues.appended, begins, ?_, fun _ => ⟨tuples, rfl,
        Tuples.read?_text legible filled tuples_ne, legible, related, _, continues.numbered,
        continues.counted⟩⟩
    intro other
    cases other

/-- Two rows behind a value in front of them, with the keyword in one cell. -/
theorem batch_confined_insert :
    ∃ (before after : Statement) (tuples : List (List Cell)),
      Composer.standard.compose ⟨["SET a = ", "; INSERT INTO t VALUES "], [.plain (.int 7)]⟩ =
        .ok before ∧
      after.text.toList = before.text.toList ++ Tuples.text tuples ∧
      Tuples.read? "DEFAULT" (Tuples.text tuples) = some tuples ∧
      List.Forall₂ (List.Forall₂ (Cell.StandsFor .standard)) tuples
        [[.plain (.int 1), .raw "default"], [.plain .null, .plain (.bool true)]] ∧
      ∃ count, tuples.flatten.filterMap Cell.number? = List.range' 2 count := by
  obtain ⟨before, after, written, front, -, appended, -, -, rectangular⟩ :=
    batch_confined .standard
      (t := ⟨["SET a = ", "; INSERT INTO t VALUES ", " RETURNING id"], [.plain (.int 7),
        .batch [[.plain (.int 1), .raw "default"], [.plain .null, .plain (.bool true)]]]⟩)
      (i := 1) rfl rfl (by simp)
  obtain ⟨tuples, rfl, readBack, -, related, count, numbers, -⟩ := rectangular rfl
  cases front
  exact ⟨_, after, tuples, rfl, appended, readBack, related, count, numbers⟩

end SqlWeave
