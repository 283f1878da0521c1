import SqlWeave.Proofs.Composition.Reachable
import SqlWeave.Proofs.Composition.Tracking
import SqlWeave.Proofs.Statement.Inlining
import SqlWeave.Proofs.Template

/-!
# Nesting is splicing

A statement that was made from a template can be nested, or its template can be spliced in for it;
the result is the same (`compose_flattens`). Inlining a written statement is writing it once more in
place, and templates in a row are composed one after the other as long as no name is moved behind a
longer segment: only a name asks for the segment in front of it.
-/
namespace SqlWeave

/-! ### Writing in place -/

/-- Inlining what has been written is writing it in place. -/
theorem Statement.inline_writeAll {s t : Statement} (sound : s.Sound) (inner : t.Sound)
    {writes : List Write} (writesSound : ∀ write ∈ writes, write.Sound) :
    s.inline (t.writeAll writes) = (s.inline t).writeAll writes := by
  induction writes generalizing t with
  | nil => rfl
  | cons write writes ih =>
    obtain ⟨writeSound, rest⟩ := List.forall_mem_cons.mp writesSound
    have step : s.inline (t.write write) = (s.inline t).write write := by
      cases write with
      | text text => exact inline_pushText sound inner text
      | value scalar => exact inline_bind sound inner scalar
      | statement nested => exact inline_inline sound inner writeSound
    have written : s.inline ((t.write write).writeAll writes) =
        (s.inline (t.write write)).writeAll writes :=
      ih (Statement.invariant_sound.write inner writeSound) rest
    rw [step] at written
    exact written

/-- A plan that makes a statement from nothing writes that statement everywhere. -/
theorem Plan.run_eq_inline {p : Plan} {s nested : Statement} (sound : s.Sound)
    (writesSound : ∀ write ∈ p.writes, write.Sound) (made : p.run .empty = .ok nested) :
    p.run s = .ok (s.inline nested) := by
  unfold run at made ⊢
  cases stopped : p.stopped with
  | some cause =>
    rw [stopped] at made
    cases made
  | none =>
    rw [stopped] at made
    cases made
    have written := Statement.inline_writeAll sound Statement.sound_empty writesSound
    rw [Statement.inline_empty sound] at written
    exact congrArg Except.ok written.symm

/-! ### Templates in a row -/

namespace Template

variable {t u inner : Template} {i : Nat}

/-- The first value of the second template plays the same role and writes the same table behind the
segment that the two templates share as behind its own. -/
def Meets (t u : Template) : Prop :=
  ∀ last ∈ t.segments.getLast?, ∀ first ∈ u.segments.head?, ∀ v ∈ u.values.head?,
    v.role (last ++ first) = v.role first ∧
      v.writtenTable? (last ++ first) = v.writtenTable? first

theorem writtenTable?_of_name?_eq_none {v : Value} (noName : v.name? = none) (preceding : String) :
    v.writtenTable? preceding = none := by
  rw [v.writtenTable?_eq, noName, ite_self]

/-- Only a name asks for the segment in front of it. -/
theorem meets_of_name?_eq_none (noName : ∀ v ∈ u.values.head?, v.name? = none) : t.Meets u := by
  intro last _ first _ v member
  have noName := noName v member
  refine ⟨v.role_eq_of_name?_eq_none noName _ _, ?_⟩
  rw [writtenTable?_of_name?_eq_none noName, writtenTable?_of_name?_eq_none noName]

/-- Of the first template only its last segment matters. -/
theorem Meets.of_cons {segment : String} {v : Value} (more : t.segments ≠ [])
    (meets : Meets ⟨segment :: t.segments, v :: t.values⟩ u) : t.Meets u := by
  intro last isLast
  refine meets last ?_
  rwa [List.getLast?_cons_of_ne_nil more]

/-- What is written for two templates in a row. -/
theorem run_plan_append (settings : Settings) (first : t.Alternates) (second : u.Alternates)
    (meets : t.Meets u) (s : Statement) :
    ((t ++ u).plan settings).run s = (t.plan settings).run s >>= (u.plan settings).run := by
  induction first generalizing s with
  | last segment =>
    cases second with
    | last other => exact congrArg Except.ok (s.pushText_append segment other)
    | cons other v rest =>
      have here := run_plan_cons settings (segment ++ other) v rest.segments_ne_nil s
      have apart := run_plan_cons settings other v rest.segments_ne_nil (s.pushText segment)
      have same : settings.valuePlan (segment ++ other) v = settings.valuePlan other v := by
        rw [Settings.valuePlan, Settings.valuePlan, (meets segment rfl other rfl v rfl).1]
      rw [s.pushText_append, same] at here
      exact here.trans apart.symm
  | cons segment v alternates ih =>
    have joined := (alternates.append second).segments_ne_nil
    rw [cons_append segment v alternates.segments_ne_nil, run_plan_cons settings _ _ joined,
      run_plan_cons settings _ _ alternates.segments_ne_nil, bind_assoc,
      funext (ih (meets.of_cons alternates.segments_ne_nil))]

theorem writtenTables_append (first : t.Alternates) (second : u.Alternates) (meets : t.Meets u) :
    (t ++ u).writtenTables = t.writtenTables ++ u.writtenTables := by
  induction first with
  | last segment =>
    cases second with
    | last other => rfl
    | cons other v rest =>
      have here := writtenTables_cons (segment ++ other) v
      have apart := writtenTables_cons other v
      simp only [(meets segment rfl other rfl v rfl).2] at here
      exact (here _).trans (apart _).symm
  | cons segment v alternates ih =>
    rw [cons_append segment v alternates.segments_ne_nil, writtenTables_cons, writtenTables_cons,
      ih (meets.of_cons alternates.segments_ne_nil), List.append_assoc]

/-! ### Templates around a value -/

/-- What is written for a template is written before, for and after each of its values. -/
theorem run_plan_around (settings : Settings) (alternates : t.Alternates) {segment : String}
    {v : Value} (behind : t.segments[i]? = some segment) (found : t.values[i]? = some v)
    (s : Statement) :
    (t.plan settings).run s =
      ((t.before i).plan settings).run s >>= fun s =>
        (settings.valuePlan segment v).run s >>= ((t.after i).plan settings).run := by
  induction alternates generalizing i s with
  | last => cases found
  | cons first v alternates ih =>
    rw [run_plan_cons settings first v alternates.segments_ne_nil]
    cases i with
    | zero =>
      cases behind
      cases found
      rfl
    | succ i =>
      -- The first value is in front of the one meant, and so in the template before it.
      have front := (alternates.before i).segments_ne_nil
      have step := run_plan_cons settings first v front s
      rw [funext (ih behind found), ← bind_assoc, ← step]
      rfl

theorem writtenTables_around (alternates : t.Alternates) {segment : String} {v : Value}
    (behind : t.segments[i]? = some segment) (found : t.values[i]? = some v) :
    t.writtenTables = (t.before i).writtenTables ++
      ((v.writtenTable? segment).toList ++ (t.after i).writtenTables) := by
  induction alternates generalizing i with
  | last => cases found
  | @cons first v t alternates ih =>
    rw [writtenTables_cons]
    cases i with
    | zero =>
      cases behind
      cases found
      rfl
    | succ i =>
      have front := writtenTables_cons first v (t.before i)
      rw [ih behind found, ← List.append_assoc, ← front]
      rfl

theorem Alternates.segment_of_value (alternates : t.Alternates) {v : Value}
    (found : t.values[i]? = some v) : ∃ segment, t.segments[i]? = some segment := by
  obtain ⟨inside, -⟩ := List.getElem?_eq_some_iff.mp found
  have count := alternates.length_segments
  exact ⟨_, List.getElem?_eq_getElem (by omega)⟩

theorem run_plan_of_nested (settings : Settings) (alternates : t.Alternates) {nested : Statement}
    (found : t.values[i]? = some (.nested nested)) (s : Statement) :
    (t.plan settings).run s =
      ((t.before i).plan settings).run s >>= fun s =>
        ((t.after i).plan settings).run (s.inline nested) := by
  obtain ⟨segment, behind⟩ := alternates.segment_of_value found
  exact run_plan_around settings alternates behind found s

theorem writtenTables_of_nested (alternates : t.Alternates) {nested : Statement}
    (found : t.values[i]? = some (.nested nested)) :
    t.writtenTables = (t.before i).writtenTables ++ (t.after i).writtenTables := by
  obtain ⟨segment, behind⟩ := alternates.segment_of_value found
  exact writtenTables_around alternates behind found

/-- The value number `i` is the statement that the composer makes of another template, and neither
the first value inside nor the next one outside can stand for a name. -/
structure Nests (t : Template) (composer : Composer) (i : Nat) (inner : Template) : Prop where
  made : ∃ nested, t.values[i]? = some (.nested nested) ∧ composer.compose inner = .ok nested
  first : ∀ v ∈ inner.values.head?, v.name? = none
  next : ∀ v ∈ t.values[i + 1]?, v.name? = none
  reached : ∀ nested ∈ inner.statements, Reachable nested

variable {composer : Composer} {s : Statement}

theorem Nests.inside (nests : t.Nests composer i inner) : i < t.values.length := by
  obtain ⟨nested, found, -⟩ := nests.made
  exact (List.getElem?_eq_some_iff.mp found).1

theorem Nests.alternates (nests : t.Nests composer i inner) : inner.Alternates := by
  obtain ⟨nested, -, composed⟩ := nests.made
  exact alternates_iff.mpr (Composer.compose_eq_ok_iff_run.mp composed).1

theorem Nests.next_after (nests : t.Nests composer i inner) :
    ∀ v ∈ (t.after i).values.head?, v.name? = none := by
  intro v member
  rw [after, List.head?_drop] at member
  exact nests.next v member

theorem Nests.run_plan_splice (nests : t.Nests composer i inner) (alternates : t.Alternates)
    (settings : Settings) (s : Statement) :
    ((t.splice i inner).plan settings).run s =
      ((t.before i).plan settings).run s >>= (inner.plan settings).run >>=
        ((t.after i).plan settings).run := by
  have front := alternates.before i
  rw [splice, run_plan_append settings (front.append nests.alternates)
    (alternates.after nests.inside) (meets_of_name?_eq_none nests.next_after),
    run_plan_append settings front nests.alternates (meets_of_name?_eq_none nests.first)]

theorem Nests.mem_writtenTables_splice (nests : t.Nests composer i inner)
    (alternates : t.Alternates) {table : String} :
    table ∈ (t.splice i inner).writtenTables ↔
      table ∈ inner.writtenTables ∨ table ∈ t.writtenTables := by
  obtain ⟨nested, found, -⟩ := nests.made
  have front := alternates.before i
  rw [splice, writtenTables_append (front.append nests.alternates)
    (alternates.after nests.inside) (meets_of_name?_eq_none nests.next_after),
    writtenTables_append front nests.alternates (meets_of_name?_eq_none nests.first),
    writtenTables_of_nested alternates found]
  simp only [List.mem_append]
  tauto

theorem statements_before_subset (t : Template) (i : Nat) :
    ∀ nested ∈ (t.before i).statements, nested ∈ t.statements := by
  intro nested member
  obtain ⟨v, found, inside⟩ := List.mem_flatMap.mp member
  exact List.mem_flatMap.mpr ⟨v, List.mem_of_mem_take found, inside⟩

theorem Nests.reached_splice (nests : t.Nests composer i inner)
    (reached : ∀ nested ∈ t.statements, Reachable nested) :
    ∀ nested ∈ (t.splice i inner).statements, Reachable nested := by
  intro nested member
  obtain ⟨v, found, inside⟩ := List.mem_flatMap.mp member
  rcases mem_values_splice found with outside | spliced
  · exact reached nested (List.mem_flatMap.mpr ⟨v, outside, inside⟩)
  · exact nests.reached nested (List.mem_flatMap.mpr ⟨v, spliced, inside⟩)

/-- Splicing in the template of a nested statement does not change what is composed. -/
theorem Nests.compose_splice (nests : t.Nests composer i inner)
    (reached : ∀ nested ∈ t.statements, Reachable nested) (composed : composer.compose t = .ok s) :
    composer.compose (t.splice i inner) = .ok s := by
  rw [Composer.compose_eq_ok_iff_run] at composed ⊢
  obtain ⟨formed, ran⟩ := composed
  have alternates := alternates_iff.mpr formed
  refine ⟨alternates_iff.mp (alternates.splice nests.inside nests.alternates), ?_⟩
  obtain ⟨nested, found, innerComposed⟩ := nests.made
  have made := (Composer.compose_eq_ok_iff_run.mp innerComposed).2
  rw [nests.run_plan_splice alternates]
  rw [run_plan_of_nested composer.settings alternates found] at ran
  -- Everything in front of the nested statement is written alike.
  cases front : ((t.before i).plan composer.settings).run .empty with
  | error rejection =>
    rw [front] at ran
    cases ran
  | ok written =>
    rw [front] at ran
    have sound : written.Sound := by
      have composedFront : composer.compose (t.before i) = .ok written :=
        Composer.compose_eq_ok_iff_run.mpr ⟨alternates_iff.mp (alternates.before i), front⟩
      exact Composer.sound_compose (fun nested member =>
        (reached nested (t.statements_before_subset i nested member)).sound) composedFront
    have inPlace := Plan.run_eq_inline sound
      (sound_of_mem_plan composer.settings fun nested member =>
        (nests.reached nested member).sound) made
    change (inner.plan composer.settings).run written >>= _ = _
    rw [inPlace]
    exact ran

end Template

/-! ### Splicing again and again -/

/-- A template in which nested statements have been replaced one after another by the templates
that they were made from, and these templates, the last one first. -/
inductive Template.Flattens (composer : Composer) (outer : Template) :
    List Template → Template → Prop
  | whole : Flattens composer outer [] outer
  | splice {inners : List Template} {t inner : Template} {i : Nat} :
      Flattens composer outer inners t → t.Nests composer i inner →
        Flattens composer outer (inner :: inners) (t.splice i inner)

namespace Composer

/-- The tables that are recorded when templates are composed one after another. -/
def recordAll (composer : Composer) (changed : ChangeSet) (templates : List Template) : ChangeSet :=
  templates.foldl (fun changed t => (composer.composeTracked changed t).2) changed

theorem mem_composeTracked {composer : Composer} {t : Template} {s : Statement}
    (composed : composer.compose t = .ok s) (changed : ChangeSet) {table : String} :
    table ∈ (composer.composeTracked changed t).2.tables ↔
      table ∈ changed.tables ∨ table ∈ t.writtenTables := by
  rw [composeTracked, composed]
  exact ChangeSet.mem_insertAll

end Composer

/-- Composing a template with nested statements, and composing it after the templates of nested
statements have been spliced in, to whatever depth, gives the same statement and, with the nested
templates composed first, the same set of tables. -/
theorem compose_flattens {composer : Composer} {outer flat : Template} {inners : List Template}
    {s : Statement} (reached : ∀ nested ∈ outer.statements, Reachable nested)
    (flattens : outer.Flattens composer inners flat) (composed : composer.compose outer = .ok s) :
    composer.compose flat = .ok s ∧
    ∀ changed : ChangeSet, (composer.recordAll changed (inners ++ [outer])).sameTables
      (composer.composeTracked changed flat).2 = true := by
  suffices general : composer.compose flat = .ok s ∧
      (∀ nested ∈ flat.statements, Reachable nested) ∧
      ∀ (changed : ChangeSet) (table : String),
        table ∈ (composer.recordAll changed (inners ++ [outer])).tables ↔
          table ∈ (composer.composeTracked changed flat).2.tables by
    obtain ⟨same, -, tables⟩ := general
    exact ⟨same, fun changed => ChangeSet.sameTables_iff.mpr (tables changed)⟩
  induction flattens with
  | whole => exact ⟨composed, reached, fun _ _ => Iff.rfl⟩
  | @splice inners t inner i _ nests ih =>
    obtain ⟨same, reached, tables⟩ := ih
    have alternates := Template.alternates_iff.mpr (Composer.compose_eq_ok_iff_run.mp same).1
    have spliced := nests.compose_splice reached same
    refine ⟨spliced, nests.reached_splice reached, fun changed table => ?_⟩
    obtain ⟨nested, -, made⟩ := nests.made
    -- The innermost template is composed first, then the others as before.
    have rest := tables (composer.composeTracked changed inner).2 table
    rw [Composer.mem_composeTracked same, Composer.mem_composeTracked made] at rest
    rw [Composer.mem_composeTracked spliced, nests.mem_writtenTables_splice alternates, ← or_assoc]
    exact rest

/-- A table that only the nested statement deletes from, and numbers on both sides. The nested
template records its table first. -/
theorem compose_flattens_delete :
    let inner : Template :=
      ⟨["CALL p(", "); DELETE FROM ", " WHERE ", ""],
        [.plain .null, .table "u", .plain (.bool true)]⟩
    let nested : Statement :=
      ⟨"CALL p($1); DELETE FROM \"public\".\"u\" WHERE $2", [.null, .bool true],
        [⟨7, 9, 1⟩, ⟨43, 45, 2⟩], none⟩
    let outer : Template :=
      ⟨["UPDATE ", " SET a = ", "; ", ""], [.table "t", .plain (.int 7), .nested nested]⟩
    let flat : Template :=
      ⟨["UPDATE ", " SET a = ", "; CALL p(", "); DELETE FROM ", " WHERE ", ""],
        [.table "t", .plain (.int 7), .plain .null, .table "u", .plain (.bool true)]⟩
    let composed : Statement :=
      ⟨"UPDATE \"public\".\"t\" SET a = $1; CALL p($2); DELETE FROM \"public\".\"u\" WHERE $3",
        [.int 7, .null, .bool true], [⟨28, 30, 1⟩, ⟨39, 41, 2⟩, ⟨75, 77, 3⟩], none⟩
    Composer.standard.compose outer = .ok composed ∧ Composer.standard.compose flat = .ok composed ∧
      (∀ changed : ChangeSet, (Composer.standard.recordAll changed [inner, outer]).sameTables
        (Composer.standard.composeTracked changed flat).2 = true) ∧
      (Composer.standard.recordAll .empty [inner, outer]).tables = ["u", "t"] ∧
      (Composer.standard.composeTracked .empty flat).2.tables = ["t", "u"] := by
  intro inner nested outer flat composed
  have innerMade : Composer.standard.compose inner = .ok nested := rfl
  -- Without the abbreviations both sides are closed, and computing them settles it.
  have made : Composer.standard.compose outer = .ok composed := by
    dsimp only [outer, nested, composed]
    rfl
  have before : (Composer.standard.recordAll .empty [inner, outer]).tables = ["u", "t"] := by
    dsimp only [inner, outer, nested]
    rfl
  have spliced : (Composer.standard.composeTracked .empty flat).2.tables = ["t", "u"] := by
    dsimp only [flat]
    rfl
  have nests : outer.Nests .standard 2 inner :=
    { made := ⟨nested, rfl, innerMade⟩
      first := by simp [Value.name?, inner]
      next := by simp [outer]
      reached := by simp [inner, Template.statements, Value.statements] }
  have reached : ∀ s ∈ outer.statements, Reachable s := by
    simpa [outer, Template.statements, Value.statements] using
      Reachable.composed nests.reached innerMade
  obtain ⟨same, sameTables⟩ := compose_flattens reached (.splice .whole nests) made
  exact ⟨made, same, sameTables, before, spliced⟩

end SqlWeave
