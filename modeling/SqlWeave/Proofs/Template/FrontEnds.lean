import SqlWeave.Proofs.Template.Format

/-!
# Three ways to write a template

Segments and values that take turns can be given as they are, appended step by step, or written as
one format text with doubled braces and a hole for each value. All three give the same template
(`frontEnds_agree`); the format text does if no hole is inside a literal.
-/
namespace SqlWeave.Template

namespace Builder

/-- A step of building a template. -/
inductive Step where
  | sql (text : String)
  | sqlIf (condition : Bool) (text : String)
  | value (v : Value)
  | bindIf (condition : Bool) (text : String) (v : Value)
  | table (name : String)
  | nest (statement : Statement)
  | raw (text : String)
  | batch (rows : List (List Value))

def apply (b : Builder) : Step → Builder
  | .sql text => b.sql text
  | .sqlIf condition text => b.sqlIf condition text
  | .value v => b.value v
  | .bindIf condition text v => b.bindIf condition text v
  | .table name => b.table name
  | .nest statement => b.nest statement
  | .raw text => b.raw text
  | .batch rows => b.batch rows

/-- Takes steps one after the other. -/
def run (b : Builder) (steps : List Step) : Builder := steps.foldl apply b

/-- The steps that append texts and values in turn, each text in any number of pieces. -/
def alternating : List (List String) → List Value → List Step
  | pieces :: texts, v :: values => pieces.map .sql ++ .value v :: alternating texts values
  | texts, _ => texts.flatten.map .sql

variable {b : Builder}

theorem run_append (b : Builder) (first second : List Step) :
    b.run (first ++ second) = (b.run first).run second := List.foldl_append

theorem run_sql (b : Builder) (pieces : List String) :
    b.run (pieces.map .sql) = b.sql (String.join pieces) := by
  induction pieces generalizing b with
  | nil => simp [run, sql]
  | cons piece pieces ih =>
    have step : b.run ((piece :: pieces).map .sql) = (b.sql piece).run (pieces.map .sql) := rfl
    rw [step, ih, String.join_cons, sql, sql, sql, String.append_assoc]

/-- The last segment is continued by the first text. -/
theorem build_run_alternating (b : Builder) (pieces : List String) (texts : List (List String))
    (values : List Value) (count : texts.length = values.length) :
    (b.run (alternating (pieces :: texts) values)).build =
      ⟨b.closed.map (·.1) ++ (b.current ++ String.join pieces) :: texts.map String.join,
        b.closed.map (·.2) ++ values⟩ := by
  induction values generalizing b pieces texts with
  | nil =>
    rw [List.eq_nil_of_length_eq_zero count]
    simp [alternating, run_sql, build, sql]
  | cons v values ih =>
    cases texts with
    | nil => cases count
    | cons next texts =>
      -- The value closes the segment, and the next text begins an empty one.
      have step : b.run (alternating (pieces :: next :: texts) (v :: values)) =
          ((b.sql (String.join pieces)).value v).run (alternating (next :: texts) values) := by
        rw [alternating, run_append, run_sql]
        rfl
      rw [step, ih _ _ _ (Nat.succ.inj count)]
      simp [sql, value]

/-- Whatever the steps are, there is one segment more than values. -/
theorem isWellFormed_build (b : Builder) : b.build.isWellFormed = true := by
  simp [build, isWellFormed]

end Builder

/-! ### Format texts of segments -/

/-- The format text of segments: doubled braces, and a hole between one segment and the next. -/
def formatText (segments : List String) : String := hole.intercalate (segments.map escapeBraces)

/-- The number of single quotes in a text. -/
def quotes (text : String) : Nat := text.toList.count '\''

theorem splitHoles_intercalate (text : List Char) (texts : List (List Char))
    (even : ∀ i < texts.length, Even (((text :: texts).take (i + 1)).flatten.count '\'')) :
    splitHoles false (hole.toList.intercalate ((text :: texts).map escape)) = text :: texts := by
  induction texts generalizing text with
  | nil => simpa using splitHoles_escape false text
  | cons next texts ih =>
    have here : Even (text.count '\'') := by simpa using even 0 (Nat.zero_lt_succ _)
    have outside : literalAfter false text = false := by
      rw [literalAfter_eq, decide_eq_false (Nat.not_odd_iff_even.mpr here)]
      rfl
    have later := ih next fun i inside => by
      have whole := even (i + 1) (Nat.succ_lt_succ inside)
      rw [List.take_succ_cons, List.flatten_cons, List.count_append, Nat.even_add] at whole
      exact whole.mp here
    -- The hole is outside of literals, and so the next segment begins outside, too.
    have cut (rest : List Char) :
        splitHoles false (hole.toList ++ rest) = [] :: splitHoles false rest := splitHoles_hole rest
    rw [List.map_cons, List.map_cons, List.intercalate_cons_cons, List.append_assoc,
      splitHoles_escape_append, outside, cut, ← List.map_cons, later, foldr_consFirst,
      List.append_nil]

theorem ofFormat_formatText {segments : List String} {values : List Value}
    (count : segments.length = values.length + 1)
    (even : ∀ i < values.length, Even (quotes (String.join (segments.take (i + 1))))) :
    ofFormat (formatText segments) values = ⟨segments, values⟩ := by
  cases segments with
  | nil => cases count
  | cons segment segments =>
    have split := splitHoles_intercalate segment.toList (segments.map String.toList)
      fun i inside => by
        rw [List.length_map, Nat.succ.inj count] at inside
        have whole := even i inside
        rwa [quotes, String.toList_join, List.flatMap_def, List.map_take, List.map_cons] at whole
    have text : (formatText (segment :: segments)).toList =
        hole.toList.intercalate ((segment.toList :: segments.map String.toList).map escape) := by
      simp [formatText, escapeBraces, Function.comp_def]
    rw [ofFormat, text, split]
    simp [Function.comp_def]

/-! ### All three -/

/-- Steps that append the segments in any number of pieces, with the values between them, build the
template of the segments and values. So does the format text, if the quotes in front of each hole
are even in number. Doubling its braces protects every text, and no steps build a template that is
not well-formed. -/
theorem frontEnds_agree {segments : List String} {values : List Value}
    (count : segments.length = values.length + 1) :
    (∀ texts : List (List String), texts.map String.join = segments →
      (Builder.empty.run (Builder.alternating texts values)).build = ⟨segments, values⟩) ∧
    ((∀ i < values.length, Even (quotes (String.join (segments.take (i + 1))))) →
      ofFormat (formatText segments) values = ⟨segments, values⟩) ∧
    (∀ text, ofFormat (escapeBraces text) [] = literal text) ∧
    ∀ steps, (Builder.empty.run steps).build.isWellFormed = true := by
  refine ⟨?building, ofFormat_formatText count, ?escaping,
    fun steps => (Builder.empty.run steps).isWellFormed_build⟩
  case building =>
    intro texts joined
    subst joined
    cases texts with
    | nil => cases count
    | cons pieces texts =>
      rw [List.length_map, List.length_cons] at count
      rw [Builder.build_run_alternating .empty pieces texts values (Nat.succ.inj count)]
      simp [Builder.empty]
  case escaping =>
    intro text
    rw [ofFormat, escapeBraces, String.toList_ofList, splitHoles_escape, List.map_singleton,
      String.ofList_toList, literal]

/-- A brace at the end of a segment, a segment without text, and quotes behind the last hole. -/
theorem frontEnds_agree_update :
    (Builder.empty.run (Builder.alternating
        [["UPDATE t SET a = '\x7b1\x7d'", " || '\x7b' || \x7b"], [], ["\x7d || 'it''s"]]
        [.plain (.int 1), .plain .null])).build =
      ⟨["UPDATE t SET a = '\x7b1\x7d' || '\x7b' || \x7b", "", "\x7d || 'it''s"],
        [.plain (.int 1), .plain .null]⟩ ∧
    ofFormat (formatText
        ["UPDATE t SET a = '\x7b1\x7d' || '\x7b' || \x7b", "", "\x7d || 'it''s"])
        [.plain (.int 1), .plain .null] =
      ⟨["UPDATE t SET a = '\x7b1\x7d' || '\x7b' || \x7b", "", "\x7d || 'it''s"],
        [.plain (.int 1), .plain .null]⟩ := by
  obtain ⟨building, format, -, -⟩ := @frontEnds_agree
    ["UPDATE t SET a = '\x7b1\x7d' || '\x7b' || \x7b", "", "\x7d || 'it''s"]
    [.plain (.int 1), .plain .null] rfl
  exact ⟨building _ (by decide), format (by decide)⟩

end SqlWeave.Template
