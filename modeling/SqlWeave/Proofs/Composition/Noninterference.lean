import SqlWeave.Proofs.Composition.Plan

/-!
# Data never becomes text

Two templates that differ in data only compose to the same text: the same error, or statements with
the same text, placeholders and number of values, and the same written tables
(`composeTracked_alike`). The plans of the two differ in bound values only, and writing never looks
at a value.
-/
namespace SqlWeave

/-- Statements that differ in their values only, if at all. -/
structure Statement.Alike (s t : Statement) : Prop where
  text : s.text = t.text
  placeholders : s.placeholders = t.placeholders
  count : s.values.length = t.values.length

/-- Cells of batches that differ in data only. -/
inductive Value.CellsAlike : Value → Value → Prop
  | plain (a b : Scalar) : CellsAlike (.plain a) (.plain b)
  | nested {s t : Statement} : s.Alike t → CellsAlike (.nested s) (.nested t)
  | same (v : Value) : CellsAlike v v

/-- Values after a segment that differ in data only; in a table slot a string is a name. -/
inductive Value.Alike (preceding : String) : Value → Value → Prop
  | data (a b : Scalar) : TableSlot.detect? preceding = none → Alike preceding (.plain a) (.plain b)
  | notAString {a b : Scalar} : a.text? = none → b.text? = none →
      Alike preceding (.plain a) (.plain b)
  | nested {s t : Statement} : s.Alike t → Alike preceding (.nested s) (.nested t)
  | batch {rows others : List (List Value)} :
      List.Forall₂ (List.Forall₂ CellsAlike) rows others →
      Alike preceding (.batch rows) (.batch others)
  | same (v : Value) : Alike preceding v v

/-- Templates with the same segments whose values differ in data only. -/
structure Template.Alike (t u : Template) : Prop where
  segments : t.segments = u.segments
  count : t.values.length = u.values.length
  values : ∀ (i : Nat) (segment : String) (v w : Value), t.segments[i]? = some segment →
    t.values[i]? = some v → u.values[i]? = some w → v.Alike segment w

/-! ### Writing -/

namespace Statement

variable {s t : Statement}

theorem Alike.refl (s : Statement) : s.Alike s := ⟨rfl, rfl, rfl⟩

theorem Alike.pushText (alike : s.Alike t) (text : String) :
    (s.pushText text).Alike (t.pushText text) :=
  ⟨congrArg (· ++ text) alike.text, alike.placeholders, alike.count⟩

theorem Alike.pushPlaceholder (alike : s.Alike t) (index : Nat) :
    (s.pushPlaceholder index).Alike (t.pushPlaceholder index) where
  text := by simp only [Statement.pushPlaceholder, alike.text]
  placeholders := by simp only [Statement.pushPlaceholder, alike.text, alike.placeholders]
  count := alike.count

theorem Alike.bind (alike : s.Alike t) (a b : Scalar) : (s.bind a).Alike (t.bind b) := by
  have placed := alike.pushPlaceholder (s.values.length + 1)
  simp only [Statement.bind, ← alike.count]
  exact ⟨placed.text, placed.placeholders, by simp [alike.count]⟩

theorem Alike.foldl_pushPiece (alike : s.Alike t) (offset : Nat) (pieces : List Piece) :
    (pieces.foldl (pushPiece offset) s).Alike (pieces.foldl (pushPiece offset) t) := by
  induction pieces generalizing s t with
  | nil => exact alike
  | cons piece pieces ih =>
    cases piece with
    | text text => exact ih (alike.pushText _)
    | slot index => exact ih (alike.pushPlaceholder _)

theorem Alike.inline {inner others : Statement} (alike : s.Alike t) (nested : inner.Alike others) :
    (s.inline inner).Alike (t.inline others) := by
  -- Where a statement is cut depends on its text and positions only.
  have same : inner.pieces = others.pieces := by
    rw [pieces, pieces, nested.text, nested.placeholders]
  have written := alike.foldl_pushPiece s.values.length inner.pieces
  simp only [Statement.inline, ← same, ← alike.count]
  exact ⟨written.text, written.placeholders, by simp [alike.count, nested.count]⟩

end Statement

/-- Writes that differ in bound values only. -/
inductive Write.Alike : Write → Write → Prop
  | text (text : String) : Alike (.text text) (.text text)
  | value (a b : Scalar) : Alike (.value a) (.value b)
  | statement {s t : Statement} : s.Alike t → Alike (.statement s) (.statement t)

theorem Write.Alike.refl (write : Write) : write.Alike write := by
  cases write with
  | text text => exact .text text
  | value scalar => exact .value scalar scalar
  | statement nested => exact .statement (.refl nested)

theorem Statement.Alike.writeAll {s t : Statement} {a b : List Write} (alike : s.Alike t)
    (writes : List.Forall₂ Write.Alike a b) : (s.writeAll a).Alike (t.writeAll b) := by
  induction writes generalizing s t with
  | nil => exact alike
  | cons first _ ih =>
    cases first with
    | text text => exact ih (alike.pushText text)
    | value a b => exact ih (alike.bind a b)
    | statement nested => exact ih (alike.inline nested)

/-! ### Plans -/

/-- Plans that differ in bound values only and stop for the same cause, if they do. -/
structure Plan.Alike (p q : Plan) : Prop where
  writes : List.Forall₂ Write.Alike p.writes q.writes
  stopped : p.stopped = q.stopped

namespace Plan

theorem Alike.refl (p : Plan) : p.Alike p :=
  ⟨List.forall₂_same.mpr fun write _ => Write.Alike.refl write, rfl⟩

theorem alike_ofWrite {a b : Write} (alike : a.Alike b) : (ofWrite a).Alike (ofWrite b) :=
  ⟨.cons alike .nil, rfl⟩

theorem alike_concat {plans others : List Plan} (each : List.Forall₂ Alike plans others) :
    (concat plans).Alike (concat others) := by
  induction each with
  | nil => exact .refl _
  | @cons p q plans others first _ ih =>
    change (p.andThen (concat plans)).Alike (q.andThen (concat others))
    -- Both first plans stop or neither does, so the same others follow.
    cases stopped : p.stopped with
    | none =>
      have ends : q.stopped = none := first.stopped ▸ stopped
      refine ⟨?_, ?_⟩
      · rw [writes_andThen stopped, writes_andThen ends]
        exact List.rel_append first.writes ih.writes
      · rw [stopped_andThen stopped, stopped_andThen ends, ih.stopped]
    | some cause =>
      have stops : q.stopped = some cause := first.stopped ▸ stopped
      rwa [andThen_of_stopped stopped, andThen_of_stopped stops]

theorem alike_separated {plans others : List Plan} (each : List.Forall₂ Alike plans others) :
    (separated plans).Alike (separated others) :=
  alike_concat (forall₂_intersperse (.refl _) each)

end Plan

/-! ### Roles -/

/-- Roles that differ in data only. -/
inductive Role.Alike : Role → Role → Prop
  | parameter (a b : Scalar) : Alike (.parameter a) (.parameter b)
  | nested {s t : Statement} : s.Alike t → Alike (.nested s) (.nested t)
  | batch {rows others : List (List Value)} :
      List.Forall₂ (List.Forall₂ Value.CellsAlike) rows others → Alike (.batch rows) (.batch others)
  | same (role : Role) : Alike role role

/-- The kind of a value and the segment decide the role; data cannot. -/
theorem Value.Alike.role {preceding : String} {v w : Value} (alike : v.Alike preceding w) :
    (v.role preceding).Alike (w.role preceding) := by
  cases alike with
  | data a b noSlot =>
    have isParameter (scalar : Scalar) :
        (Value.plain scalar).role preceding = .parameter scalar := by
      cases scalar <;> simp [Value.role, noSlot]
    rw [isParameter a, isParameter b]
    exact .parameter a b
  | @notAString a b plain plainToo =>
    have isParameter {scalar : Scalar} (notText : scalar.text? = none) :
        (Value.plain scalar).role preceding = .parameter scalar := by
      cases scalar <;> first | rfl | cases notText
    rw [isParameter plain, isParameter plainToo]
    exact .parameter a b
  | nested statements => exact .nested statements
  | batch rows => exact .batch rows
  | same => exact .same _

theorem Value.Alike.writtenTable? {preceding : String} {v w : Value}
    (alike : v.Alike preceding w) : v.writtenTable? preceding = w.writtenTable? preceding := by
  have roles := alike.role
  unfold Value.writtenTable?
  generalize v.role preceding = role at roles ⊢
  generalize w.role preceding = other at roles ⊢
  cases roles <;> rfl

/-! ### Composing -/

namespace Settings

theorem raggedRow?_eq {R : Value → Value → Prop} {rows others : List (List Value)}
    (alike : List.Forall₂ (List.Forall₂ R) rows others) (width i : Nat) :
    raggedRow? width i rows = raggedRow? width i others := by
  induction alike generalizing i with
  | nil => rfl
  | cons first _ ih => simp only [raggedRow?, first.length_eq, ih]

/-- The shape of a batch does not depend on what its cells hold. -/
theorem shapeProblem?_eq {R : Value → Value → Prop} {rows others : List (List Value)}
    (alike : List.Forall₂ (List.Forall₂ R) rows others) :
    shapeProblem? rows = shapeProblem? others := by
  cases alike with
  | nil => rfl
  | @cons row other _ _ first rest =>
    have width : row.length = other.length := first.length_eq
    have noCells : row.isEmpty = other.isEmpty := by
      cases first <;> rfl
    simp only [shapeProblem?, noCells, width, raggedRow?_eq rest]

variable (settings : Settings)

theorem alike_rejectPlan (cause : Cause) (v w : Value) :
    (settings.rejectPlan cause v).Alike (settings.rejectPlan cause w) := by
  unfold rejectPlan
  cases settings.mode with
  | strict => exact .refl _
  | permissive => exact Plan.alike_ofWrite (.value _ _)

theorem alike_cellPlan {v w : Value} (alike : v.CellsAlike w) :
    (settings.cellPlan v).Alike (settings.cellPlan w) := by
  cases alike with
  | plain a b => exact Plan.alike_ofWrite (.value a b)
  | nested statements => exact Plan.alike_ofWrite (.statement statements)
  | same => exact .refl _

theorem alike_rowPlan {row other : List Value} (alike : List.Forall₂ Value.CellsAlike row other) :
    (settings.rowPlan row).Alike (settings.rowPlan other) := by
  have cells : List.Forall₂ Plan.Alike (row.map settings.cellPlan) (other.map settings.cellPlan) :=
    List.rel_map (fun _ _ cell => settings.alike_cellPlan cell) alike
  exact Plan.alike_concat
    (.cons (.refl _) (.cons (Plan.alike_separated cells) (.cons (.refl _) .nil)))

theorem alike_batchPlan {rows others : List (List Value)}
    (alike : List.Forall₂ (List.Forall₂ Value.CellsAlike) rows others) :
    (settings.batchPlan rows).Alike (settings.batchPlan others) := by
  -- Both batches are well-shaped or both are malformed, for the same cause.
  unfold batchPlan
  rw [shapeProblem?_eq alike]
  cases shapeProblem? others with
  | some cause => exact settings.alike_rejectPlan cause _ _
  | none =>
    exact Plan.alike_separated (List.rel_map (fun _ _ row => settings.alike_rowPlan row) alike)

theorem alike_valuePlan {preceding : String} {v w : Value} (alike : v.Alike preceding w) :
    (settings.valuePlan preceding v).Alike (settings.valuePlan preceding w) := by
  have roles := alike.role
  unfold valuePlan
  generalize v.role preceding = role at roles ⊢
  generalize w.role preceding = other at roles ⊢
  cases roles with
  | parameter a b => exact Plan.alike_ofWrite (.value a b)
  | nested statements => exact Plan.alike_ofWrite (.statement statements)
  | batch rows => exact settings.alike_batchPlan rows
  | same => exact .refl _

/-- The plans of values that are alike, each after the segment in front of it. -/
theorem alike_plansAfter {preceding : String} {segments : List String} {values others : List Value}
    (count : values.length = others.length)
    (each : ∀ (i : Nat) (segment : String) (v w : Value),
      (preceding :: segments)[i]? = some segment → values[i]? = some v → others[i]? = some w →
        v.Alike segment w) :
    List.Forall₂ Plan.Alike (settings.plansAfter preceding (values.zip segments))
      (settings.plansAfter preceding (others.zip segments)) := by
  induction segments generalizing preceding values others with
  | nil => simp only [List.zip_nil_right, plansAfter, List.forall₂_nil_left_iff]
  | cons segment segments ih =>
    cases values with
    | nil =>
      cases others with
      | nil => exact .nil
      | cons => cases count
    | cons v values =>
      cases others with
      | nil => cases count
      | cons w others =>
        -- Behind the first pair all positions are one less.
        have first : v.Alike preceding w := each 0 preceding v w rfl rfl rfl
        have rest := ih (Nat.succ.inj count) fun i => each (i + 1)
        exact .cons (settings.alike_valuePlan first) (.cons (.refl _) rest)

end Settings

namespace Template.Alike

variable {t u : Template}

theorem plan (alike : t.Alike u) (settings : Settings) :
    (t.plan settings).Alike (u.plan settings) := by
  have each := alike.values
  unfold Template.plan
  rw [← alike.segments]
  cases parts : t.segments with
  | nil => exact .refl _
  | cons first segments =>
    rw [parts] at each
    exact Plan.alike_concat (.cons (.refl _) (settings.alike_plansAfter alike.count each))

theorem isWellFormed (alike : t.Alike u) : t.isWellFormed = u.isWellFormed := by
  simp only [Template.isWellFormed, alike.segments, alike.count]

theorem arityError (alike : t.Alike u) :
    Composer.compose.arityError t = Composer.compose.arityError u := by
  simp only [Composer.compose.arityError, alike.segments, alike.count]

/-- At each place the segment is the same and the values are alike. -/
theorem zip (alike : t.Alike u) :
    List.Forall₂ (fun a b => a.1 = b.1 ∧ a.2.Alike a.1 b.2) (t.segments.zip t.values)
      (u.segments.zip u.values) := by
  rw [← alike.segments]
  refine List.forall₂_iff_get.mpr ⟨by simp [alike.count], fun i inT inU => ?_⟩
  simp only [List.length_zip, Nat.lt_min] at inT inU
  simp only [List.get_eq_getElem, List.getElem_zip]
  exact ⟨trivial, alike.values i _ _ _ (List.getElem?_eq_getElem inT.1)
    (List.getElem?_eq_getElem inT.2) (List.getElem?_eq_getElem inU.2)⟩

/-- Data cannot change what counts as a written table. -/
theorem writtenTables (alike : t.Alike u) : t.writtenTables = u.writtenTables := by
  have each := alike.zip
  unfold Template.writtenTables
  generalize t.segments.zip t.values = pairs at each ⊢
  generalize u.segments.zip u.values = others at each ⊢
  induction each with
  | nil => rfl
  | @cons a b _ _ first _ ih =>
    obtain ⟨segment, v⟩ := a
    obtain ⟨other, w⟩ := b
    obtain ⟨rfl, values⟩ := first
    simp only [List.filterMap_cons, values.writtenTable?, ih]

end Template.Alike

/-- Composing templates that differ in data only: the same error, or statements that differ in
their values only, and the same tables recorded in either case. -/
theorem composeTracked_alike (composer : Composer) (changed : ChangeSet) {t u : Template}
    (alike : t.Alike u) :
    (∃ error, composer.composeTracked changed t = (.error error, changed) ∧
      composer.composeTracked changed u = (.error error, changed)) ∨
    ∃ (s s' : Statement) (after : ChangeSet),
      composer.composeTracked changed t = (.ok s, after) ∧
      composer.composeTracked changed u = (.ok s', after) ∧ s.Alike s' := by
  have plans := alike.plan composer.settings
  have written := (Statement.Alike.refl .empty).writeAll plans.writes
  simp only [Composer.composeTracked, Composer.compose_eq_run, ← alike.isWellFormed,
    ← alike.arityError, ← alike.writtenTables]
  cases t.isWellFormed with
  | false => exact .inl ⟨_, rfl, rfl⟩
  | true =>
    simp only [Plan.run, ← plans.stopped]
    cases (t.plan composer.settings).stopped with
    | none => exact .inr ⟨_, _, _, rfl, rfl, written⟩
    | some cause =>
      -- The error quotes the text up to the rejected value, which is the same text.
      refine .inl ⟨_, rfl, ?_⟩
      simp only [Except.mapError, Rejection.toQueryError, written.text, if_true]

/-- A hostile string is bound like any other. -/
theorem composeTracked_alike_hostile :
    ∃ (s s' : Statement) (after : ChangeSet),
      Composer.standard.composeTracked .empty
          ⟨["UPDATE ", " SET name = ", ""],
            [.plain (.string "users"), .plain (.string "Ann")]⟩ = (.ok s, after) ∧
      Composer.standard.composeTracked .empty
          ⟨["UPDATE ", " SET name = ", ""],
            [.plain (.string "users"), .plain (.string "'; DROP TABLE users; --")]⟩ =
        (.ok s', after) ∧
      s.Alike s' := by
  have noSlot : TableSlot.detect? " SET name = " = none := by decide
  have alike : Template.Alike
      ⟨["UPDATE ", " SET name = ", ""], [.plain (.string "users"), .plain (.string "Ann")]⟩
      ⟨["UPDATE ", " SET name = ", ""],
        [.plain (.string "users"), .plain (.string "'; DROP TABLE users; --")]⟩ := by
    refine ⟨rfl, rfl, fun i segment v w atSegment atV atW => ?_⟩
    match i, atSegment, atV, atW with
    | 0, rfl, rfl, rfl => exact .same _
    | 1, rfl, rfl, rfl => exact .data _ _ noSlot
  rcases composeTracked_alike .standard .empty alike with ⟨error, failed, -⟩ | succeeded
  · have composed : (Composer.standard.composeTracked .empty
        ⟨["UPDATE ", " SET name = ", ""],
          [.plain (.string "users"), .plain (.string "Ann")]⟩).1.isOk = true := by decide
    rw [failed] at composed
    cases composed
  · exact succeeded

end SqlWeave
