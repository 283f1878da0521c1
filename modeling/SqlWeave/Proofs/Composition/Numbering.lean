import SqlWeave.Proofs.Composition.Invariant
import SqlWeave.Proofs.Statement.Numbering

/-!
# Contiguous numbering

Composing and joining canonical statements gives a canonical one, and likewise for covering
statements (`contiguous_numbering`). Only adopted texts can repeat, skip or reorder numbers:
whatever is built without them is canonical.
-/
namespace SqlWeave

/-- The statements that can be built without adopting a text, to whatever depth. -/
inductive Assembled : Statement → Prop
  | empty : Assembled .empty
  | literal (text : String) : Assembled (.literal text)
  | named {s : Statement} (name : String) : Assembled s → Assembled (s.named name)
  | composed {composer : Composer} {t : Template} {s : Statement} :
      (∀ nested ∈ t.statements, Assembled nested) → composer.compose t = .ok s → Assembled s
  | joined (operator : String) {statements : List Statement} :
      (∀ s ∈ statements, Assembled s) → Assembled (.join operator statements)

namespace Statement

theorem invariant_canonical : Invariant Canonical where
  empty := canonical_empty
  pushText := fun _ canonical => canonical
  bind := fun scalar canonical => canonical.bind scalar
  inline := Canonical.inline

theorem invariant_covering : Invariant Covering where
  empty := covering_empty
  pushText := fun _ covering => covering
  bind := fun scalar covering => covering.bind scalar
  inline := Covering.inline

end Statement

theorem Assembled.canonical {s : Statement} (assembled : Assembled s) : s.Canonical := by
  induction assembled with
  | empty => exact Statement.canonical_empty
  | literal text => exact Statement.canonical_literal text
  | named _ _ canonical => exact canonical
  | composed _ composed canonical => exact Statement.invariant_canonical.compose canonical composed
  | joined operator _ canonical => exact Statement.invariant_canonical.join operator canonical

/-- Canonical statements compose and join to canonical ones, covering statements to covering ones,
and everything that is built without adopting a text is canonical. -/
theorem contiguous_numbering :
    (∀ (composer : Composer) (t : Template) (s : Statement), composer.compose t = .ok s →
      ((∀ nested ∈ t.statements, nested.Canonical) → s.Canonical) ∧
      ((∀ nested ∈ t.statements, nested.Covering) → s.Covering)) ∧
    (∀ (operator : String) (statements : List Statement),
      ((∀ s ∈ statements, s.Canonical) → (Statement.join operator statements).Canonical) ∧
      ((∀ s ∈ statements, s.Covering) → (Statement.join operator statements).Covering)) ∧
    ∀ s, Assembled s → s.Canonical := by
  refine ⟨?composing, ?joining, fun s assembled => assembled.canonical⟩
  case composing =>
    intro composer t s composed
    constructor
    · intro canonical
      exact Statement.invariant_canonical.compose canonical composed
    · intro covering
      exact Statement.invariant_covering.compose covering composed
  case joining =>
    intro operator statements
    constructor
    · intro canonical
      exact Statement.invariant_canonical.join operator canonical
    · intro covering
      exact Statement.invariant_covering.join operator covering

/-- A nested statement, the same one in a cell of a batch, and data around them; then twice the
result. -/
theorem contiguous_numbering_batch :
    let nested : Statement := ⟨"$1", [.null], [⟨0, 2, 1⟩], none⟩
    let template : Template :=
      ⟨["a = ", " AND (b, c) IN (", ")"],
        [.nested nested,
          .batch [[.plain (.bool true), .nested nested], [.plain (.int 7), .raw "DEFAULT"]]]⟩
    let composed : Statement :=
      ⟨"a = $1 AND (b, c) IN (($2,$3),($4,DEFAULT))", [.null, .bool true, .null, .int 7],
        [⟨4, 6, 1⟩, ⟨23, 25, 2⟩, ⟨26, 28, 3⟩, ⟨31, 33, 4⟩], none⟩
    nested.Canonical ∧ Composer.standard.compose template = .ok composed ∧ composed.Canonical ∧
      (Statement.join " OR " [composed, composed]).Canonical := by
  intro nested template composed
  have canonical : nested.Canonical := by decide
  have inside : ∀ s ∈ template.statements, s.Canonical := by
    simpa [template, Template.statements, Value.statements] using canonical
  have made : Composer.standard.compose template = .ok composed := by
    dsimp only [template, nested, composed]
    rfl
  obtain ⟨composing, joining, -⟩ := contiguous_numbering
  have result := (composing _ _ _ made).1 inside
  have twice := (joining " OR " [composed, composed]).1 (by simpa using result)
  exact ⟨canonical, made, result, twice⟩

end SqlWeave
