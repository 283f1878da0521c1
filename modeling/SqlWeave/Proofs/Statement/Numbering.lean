import SqlWeave.Proofs.Statement.WellFormed

/-!
# Numbers of placeholders

A covering statement refers to each of its values and to nothing else; a canonical one refers to
each of them once and in their order. The number of the next placeholder is one more than the number
of values, and inlining shifts by that number, so writing keeps both.
-/
namespace SqlWeave.Statement

/-- The placeholders are `$1`, `$2` and so on from left to right, one for each value. -/
def Canonical (s : Statement) : Prop := s.indices = List.range' 1 s.paramCount

/-- The numbers in the text are those of the values, in whatever order and however often. -/
def Covering (s : Statement) : Prop :=
  ∀ index, index ∈ s.indices ↔ 1 ≤ index ∧ index ≤ s.paramCount

instance (s : Statement) : Decidable s.Canonical :=
  inferInstanceAs (Decidable (s.indices = List.range' 1 s.paramCount))

variable {s t : Statement}

@[simp] theorem paramCount_bind (s : Statement) (scalar : Scalar) :
    (s.bind scalar).paramCount = s.paramCount + 1 := by
  rw [paramCount, values_bind, List.length_append, List.length_singleton, paramCount]

@[simp] theorem paramCount_inline (s t : Statement) :
    (s.inline t).paramCount = s.paramCount + t.paramCount := by
  rw [paramCount, values_inline, List.length_append, paramCount, paramCount]

/-! ### Canonical statements -/

theorem canonical_literal (text : String) : (literal text).Canonical := rfl

theorem canonical_empty : empty.Canonical := canonical_literal ""

theorem Canonical.bind (canonical : s.Canonical) (scalar : Scalar) :
    (s.bind scalar).Canonical := by
  rw [Canonical, indices_bind, paramCount_bind, canonical, List.range'_1_concat, Nat.add_comm 1]
  rfl

theorem Canonical.inline (canonical : s.Canonical) (nested : t.Canonical) :
    (s.inline t).Canonical := by
  have shifted : t.indices.map (· + s.values.length) =
      List.range' (1 + s.paramCount) t.paramCount := by
    rw [nested]
    simp only [Nat.add_comm _ s.values.length, List.map_add_range']
    rw [Nat.add_comm]
    rfl
  rw [Canonical, indices_inline, paramCount_inline, shifted, canonical, List.range'_append_1]

/-! ### Covering statements -/

theorem covering_literal (text : String) : (literal text).Covering := by
  intro index
  simp only [literal, indices, paramCount, List.map_nil, List.not_mem_nil, List.length_nil,
    false_iff]
  omega

theorem covering_empty : empty.Covering := covering_literal ""

theorem Covering.bind (covering : s.Covering) (scalar : Scalar) : (s.bind scalar).Covering := by
  intro index
  rw [indices_bind, paramCount_bind, List.mem_append, List.mem_singleton, covering index]
  change _ ∨ index = s.paramCount + 1 ↔ _
  omega

theorem Covering.inline (covering : s.Covering) (nested : t.Covering) :
    (s.inline t).Covering := by
  intro index
  rw [indices_inline, paramCount_inline, List.mem_append, List.mem_map, covering index]
  change _ ∨ (∃ number, number ∈ t.indices ∧ number + s.paramCount = index) ↔ _
  constructor
  · rintro (old | ⟨number, new, rfl⟩)
    · omega
    · have bound := (nested number).mp new
      omega
  · intro bound
    -- Numbers up to the known count are old ones, those past it are shifted ones.
    by_cases old : index ≤ s.paramCount
    · exact .inl ⟨bound.1, old⟩
    · exact .inr ⟨index - s.paramCount, (nested _).mpr (by omega), by omega⟩

end SqlWeave.Statement
