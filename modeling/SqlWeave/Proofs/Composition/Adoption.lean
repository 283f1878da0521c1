import SqlWeave.Proofs.Composition.Plan
import SqlWeave.Proofs.Statement.Numbering

/-!
# Reading composed text back

A server reads the text of a statement and never sees where its placeholders were recorded. When no
dollar sign comes from elsewhere, the text of a composed statement is taken over with exactly the
recorded placeholders unless a digit stands right after one of them; then the digit is read as a
part of the number (`adopt?_eq_some_iff`). Numbers past 64 bits are not read at all.
-/
namespace SqlWeave

/-! ### Statements with no other dollar signs -/

/-- Dollar signs stand in placeholders only, and every value is referred to. -/
structure Statement.Legible (s : Statement) : Prop where
  shown : ∃ glyphs, s.Shows glyphs ∧ ∀ c, .char c ∈ glyphs → c ≠ '$'
  numbers : ∀ index, index ∈ s.indices ↔ 1 ≤ index ∧ index ≤ s.values.length

namespace Statement

variable {s t : Statement}

theorem legible_empty : empty.Legible :=
  ⟨⟨[], shows_empty, by simp⟩, covering_empty⟩

theorem Legible.named (legible : s.Legible) (name : String) : (s.named name).Legible := by
  obtain ⟨glyphs, shows, noDollar⟩ := legible.shown
  exact ⟨⟨glyphs, shows.named name, noDollar⟩, legible.numbers⟩

theorem Legible.pushText (legible : s.Legible) {text : String} (noDollar : '$' ∉ text.toList) :
    (s.pushText text).Legible := by
  obtain ⟨glyphs, shows, others⟩ := legible.shown
  refine ⟨⟨_, shows.pushText text, fun c member => ?_⟩, legible.numbers⟩
  rcases List.mem_append.mp member with old | new
  · exact others c old
  · rintro rfl
    simp only [Glyph.ofText, List.mem_map, Glyph.char.injEq, exists_eq_right] at new
    exact noDollar new

theorem Legible.bind (legible : s.Legible) (value : Scalar) : (s.bind value).Legible := by
  obtain ⟨glyphs, shows, others⟩ := legible.shown
  refine ⟨⟨_, shows.bind value, fun c member => ?_⟩, Covering.bind legible.numbers value⟩
  simp only [List.mem_append, List.mem_singleton, reduceCtorEq, or_false] at member
  exact others c member

theorem Legible.inline (legible : s.Legible) (nested : t.Legible) : (s.inline t).Legible := by
  obtain ⟨glyphs, shows, others⟩ := legible.shown
  obtain ⟨inner, nestedShows, nestedOthers⟩ := nested.shown
  refine ⟨⟨_, shows.inline nestedShows, fun c member => ?_⟩,
    Covering.inline legible.numbers nested.numbers⟩
  rcases List.mem_append.mp member with old | new
  · exact others c old
  · obtain ⟨glyph, found, shifted⟩ := List.mem_map.mp new
    cases glyph with
    | char d =>
      cases shifted
      exact nestedOthers c found
    | token => cases shifted

end Statement

def Write.Legible : Write → Prop
  | .text written => '$' ∉ written.toList
  | .value _ => True
  | .statement nested => nested.Legible

theorem Statement.Legible.write {s : Statement} {write : Write} (legible : s.Legible)
    (writeLegible : write.Legible) : (s.write write).Legible := by
  cases write with
  | text text => exact legible.pushText writeLegible
  | value scalar => exact legible.bind scalar
  | statement nested => exact legible.inline writeLegible

/-! ### Templates with no dollar signs -/

/-- The text that a value in this role writes as it stands, or as a name. -/
def Role.text? : Role → Option String
  | .raw text => some text
  | .tableName _ name => some name
  | .parameter _ | .nested _ | .batch _ | .misplacedTable _ => none

/-- No segment, no raw text and no name of a table holds a dollar sign. -/
structure Template.NoDollar (t : Template) : Prop where
  segments : ∀ segment ∈ t.segments, '$' ∉ segment.toList
  texts : ∀ pair ∈ t.segments.zip t.values, ∀ text ∈ (pair.2.role pair.1).text?, '$' ∉ text.toList

/-- Statements composed of such templates under a schema without dollar signs, nested statements
likewise. -/
inductive Composed : Statement → Prop
  | composed {composer : Composer} {t : Template} {s : Statement} :
      '$' ∉ composer.settings.schema.toList → t.NoDollar →
      (∀ nested ∈ t.statements, Composed nested) → composer.compose t = .ok s → Composed s
  | named {s : Statement} (name : String) : Composed s → Composed (s.named name)

private theorem toLower_ne_dollar {c : Char} (letter : c.isAlpha = true) : c.toLower ≠ '$' := by
  intro dollar
  unfold Char.toLower at dollar
  split at dollar
  next upper =>
    have value := congrArg (fun d => d.val.toNat) dollar
    simp only [ge_iff_le, UInt32.le_iff_toNat_le] at upper
    simp at value upper
    omega
  next =>
    subst dollar
    cases letter

theorem Composer.isKeyword_defaultKeyword (composer : Composer) :
    Settings.isKeyword composer.settings.defaultKeyword = true := by
  have inOrder := composer.inOrder
  unfold Settings.problem? at inOrder
  grind

theorem Composer.isAlpha_of_mem_keyword (composer : Composer) :
    ∀ c ∈ composer.settings.defaultKeyword.toList, c.isAlpha = true := by
  have keyword := composer.isKeyword_defaultKeyword
  unfold Settings.isKeyword at keyword
  split at keyword
  · cases keyword
  · exact List.all_eq_true.mp keyword

/-- The default keyword consists of letters, so raw text that asks for it does, too. -/
theorem Composer.dollar_notMem_keyword (composer : Composer) {text : String}
    (asks : composer.settings.asksForDefault text = true) : '$' ∉ text.toList := by
  intro member
  -- Folding keeps the dollar sign, and it turns no letter into one.
  have same : Text.lowered text = Text.lowered composer.settings.defaultKeyword := by
    simpa [Settings.asksForDefault, Text.sameWord] using asks
  have folded : '$'.toLower ∈ Text.lowered text := List.mem_map_of_mem member
  rw [same] at folded
  obtain ⟨c, found, lower⟩ := List.mem_map.mp folded
  exact toLower_ne_dollar (composer.isAlpha_of_mem_keyword c found) lower

theorem Template.NoDollar.legible_of_mem_plan {composer : Composer} {t : Template}
    (schemaPlain : '$' ∉ composer.settings.schema.toList) (noDollar : t.NoDollar)
    (nestedLegible : ∀ nested ∈ t.statements, nested.Legible) :
    ∀ write ∈ (t.plan composer.settings).writes, write.Legible := by
  apply forall_mem_plan (P := Write.Legible) noDollar.segments (fun _ => trivial) nestedLegible
  case punctuation =>
    intro text one
    simp only [List.mem_cons, List.not_mem_nil, or_false] at one
    rcases one with rfl | rfl | rfl <;> simp [Write.Legible]
  case keyword => exact fun text asks => composer.dollar_notMem_keyword asks
  case raw =>
    intro pair member text isRaw
    have texts := noDollar.texts pair member
    rw [isRaw] at texts
    exact texts text rfl
  case table =>
    intro pair member slot name isTable
    have texts := noDollar.texts pair member
    rw [isTable] at texts
    simp only [Write.Legible, Identifier.mem_qualify_iff]
    rintro (isQuote | isDot | inSchema | inName)
    · cases isQuote
    · cases isDot
    · exact schemaPlain inSchema
    · exact texts name rfl inName

theorem Composed.legible {s : Statement} (composed : Composed s) : s.Legible := by
  induction composed with
  | composed schemaPlain noDollar _ composed nestedLegible =>
    obtain ⟨-, -, rfl⟩ := Composer.compose_eq_ok_iff.mp composed
    exact Statement.writeAll_preserves (fun _ _ legible => legible.write) Statement.legible_empty
      (noDollar.legible_of_mem_plan schemaPlain nestedLegible)
  | named name _ legible => exact legible.named name

/-! ### Taking the text over -/

theorem Statement.Legible.scan_eq_iff {s : Statement} (legible : s.Legible) :
    Statement.scan 0 s.text.toList = s.placeholders ↔
      s.values.length < Text.wordCount ∧
        ∀ p ∈ s.placeholders, Text.digitAt p.stop s.text.toList = false := by
  obtain ⟨glyphs, shows, noDollar⟩ := legible.shown
  have found := scan_eq_place_iff [] noDollar
  rw [Text.byteLength_nil, List.nil_append, ← shows.text, ← shows.placeholders] at found
  rw [found]
  constructor
  · intro each
    refine ⟨?_, fun p member => (each p member).2⟩
    cases count : s.values.length with
    | zero => decide
    | succ last =>
      -- The highest number is referred to, so it is among those that were read.
      have member : last + 1 ∈ s.indices := (legible.numbers _).mpr (by omega)
      obtain ⟨p, placed, same⟩ := List.mem_map.mp member
      exact same ▸ (each p placed).1
  · rintro ⟨small, ends⟩ p member
    have bound := (legible.numbers p.index).mp (List.mem_map_of_mem member)
    exact ⟨Nat.lt_of_le_of_lt bound.2 small, ends p member⟩

/-- The numbers in a composed statement are those of its values, and its text alone gives it back,
up to the name, exactly when no placeholder runs into a digit. -/
theorem adopt?_eq_some_iff {s : Statement} (composed : Composed s) :
    (∀ index, index ∈ s.indices ↔ 1 ≤ index ∧ index ≤ s.values.length) ∧
    (Statement.adopt? s.text s.values = some { s with name := none } ↔
      s.values.length < Text.wordCount ∧
        ∀ p ∈ s.placeholders, Text.digitAt p.stop s.text.toList = false) := by
  have legible := composed.legible
  refine ⟨legible.numbers, ?_⟩
  rw [← legible.scan_eq_iff]
  refine ⟨Statement.scan_of_adopt?, fun scanned => Statement.adopt?_of_scan scanned ?_⟩
  intro p member
  have bound := (legible.numbers p.index).mp (List.mem_map_of_mem member)
  simpa [Statement.refersTo] using bound

theorem adopt?_eq_some_iff_nested :
    Statement.adopt? "UPDATE \"public\".\"users\" SET a = $1 + $2" [.null, .bool true] =
      some ⟨"UPDATE \"public\".\"users\" SET a = $1 + $2", [.null, .bool true],
        [⟨32, 34, 1⟩, ⟨37, 39, 2⟩], none⟩ := by
  have setting : Composer.standard.compose ⟨["a = ", " + "], [.plain .null]⟩ =
      .ok ⟨"a = $1 + ", [.null], [⟨4, 6, 1⟩], none⟩ := rfl
  have update : Composer.standard.compose
      ⟨["UPDATE ", " SET ", "", ""], [.plain (.string "users"),
        .nested ⟨"a = $1 + ", [.null], [⟨4, 6, 1⟩], none⟩, .plain (.bool true)]⟩ =
      .ok ⟨"UPDATE \"public\".\"users\" SET a = $1 + $2", [.null, .bool true],
        [⟨32, 34, 1⟩, ⟨37, 39, 2⟩], none⟩ := rfl
  have nested : Composed ⟨"a = $1 + ", [.null], [⟨4, 6, 1⟩], none⟩ :=
    .composed (by decide) ⟨by decide, by decide⟩ (fun _ member => by cases member) setting
  have composed := Composed.composed (by decide) ⟨by decide, by decide⟩
    (by simpa [Template.statements, Value.statements] using nested) update
  exact (adopt?_eq_some_iff composed).2.mpr ⟨by decide, by decide⟩

/-- The digit after the placeholder is read as a part of its number. -/
theorem adopt?_eq_none_of_digit :
    Composed ⟨"SELECT $11", [.int 5], [⟨7, 9, 1⟩], none⟩ ∧
      Statement.adopt? "SELECT $11" [.int 5] = none := by
  have composed : Composer.standard.compose ⟨["SELECT ", "1"], [.plain (.int 5)]⟩ =
      .ok ⟨"SELECT $11", [.int 5], [⟨7, 9, 1⟩], none⟩ := rfl
  exact ⟨.composed (by decide) ⟨by decide, by decide⟩ (fun _ member => by cases member) composed,
    by decide +kernel⟩

end SqlWeave
