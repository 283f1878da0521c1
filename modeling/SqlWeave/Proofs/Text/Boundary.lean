import SqlWeave.Proofs.Text.Slice

/-!
# The last boundary within a budget

A text that is too long is cut at the last position between two characters that a budget of bytes
allows. What stands in front of it is what `splitBytes` takes (`slice?_lastBoundary`), the longest
beginning of whole characters within the budget (`isPrefix_splitBytes`). Since a character has at
most four bytes, at most three bytes of the budget are left over (`lt_byteLength_splitBytes`).
-/
namespace SqlWeave.Text

variable {budget position : Nat} {front text : List Char}

/-! ### The longest beginning -/

theorem byteLength_le_of_isPrefix (begins : front <+: text) :
    byteLength front ≤ byteLength text := by
  obtain ⟨rest, rfl⟩ := begins
  rw [byteLength_append]
  exact Nat.le_add_right _ _

theorem splitBytes_isPrefix (budget : Nat) (text : List Char) :
    (splitBytes budget text).1 <+: text :=
  ⟨(splitBytes budget text).2, splitBytes_append budget text⟩

/-- Every beginning within the budget is part of what is taken. -/
theorem isPrefix_splitBytes (begins : front <+: text) (within : byteLength front ≤ budget) :
    front <+: (splitBytes budget text).1 := by
  induction front generalizing text budget with
  | nil => exact List.nil_prefix
  | cons c front ih =>
    obtain ⟨rest, rfl⟩ := begins
    rw [byteLength_cons] at within
    have fits : c.utf8Size ≤ budget := by omega
    have later := ih ⟨rest, rfl⟩ (Nat.le_sub_of_add_le' within)
    rw [List.cons_append, splitBytes, if_pos fits]
    exact List.cons_prefix_cons.mpr ⟨rfl, later⟩

theorem byteLength_le_splitBytes (begins : front <+: text) (within : byteLength front ≤ budget) :
    byteLength front ≤ byteLength (splitBytes budget text).1 :=
  byteLength_le_of_isPrefix (isPrefix_splitBytes begins within)

/-- What is left of the budget would not hold every character. -/
theorem lt_byteLength_splitBytes (long : budget < byteLength text) :
    budget < byteLength (splitBytes budget text).1 + 4 := by
  induction text generalizing budget with
  | nil => cases long
  | cons c text ih =>
    rw [byteLength_cons] at long
    rw [splitBytes]
    split
    next fits =>
      have longer : budget - c.utf8Size < byteLength text := by omega
      have later := ih longer
      rw [byteLength_cons]
      omega
    next tooWide =>
      have width := c.utf8Size_le_four
      rw [byteLength_nil]
      omega

/-! ### Boundaries -/

theorem slice?_zero_eq_some_iff :
    slice? 0 position text = some front ↔ front <+: text ∧ byteLength front = position := by
  rw [slice?_eq_some_iff]
  constructor
  · rintro ⟨before, after, whole, nothing, size⟩
    cases before with
    | nil => exact ⟨⟨after, whole.symm⟩, by omega⟩
    | cons c before =>
      have := c.utf8Size_pos
      rw [byteLength_cons] at nothing
      omega
  · rintro ⟨⟨after, rfl⟩, size⟩
    exact ⟨[], after, rfl, rfl, by omega⟩

/-- Does the byte position stand between two characters, or at an end of the text? -/
def isBoundary (text : List Char) (position : Nat) : Bool := (slice? 0 position text).isSome

theorem isBoundary_iff :
    isBoundary text position = true ↔ ∃ front, front <+: text ∧ byteLength front = position := by
  simp only [isBoundary, Option.isSome_iff_exists, slice?_zero_eq_some_iff]

/-- The last boundary up to `limit`, looked for from there downwards. -/
def lastBoundary (text : List Char) : Nat → Nat
  | 0 => 0
  | limit + 1 => if isBoundary text (limit + 1) then limit + 1 else lastBoundary text limit

theorem lastBoundary_eq (text : List Char) (limit : Nat) :
    lastBoundary text limit = byteLength (splitBytes limit text).1 := by
  induction limit with
  | zero => exact (Nat.le_zero.mp (byteLength_splitBytes_le 0 text)).symm
  | succ limit ih =>
    have bound := byteLength_splitBytes_le (limit + 1) text
    rw [lastBoundary]
    split
    next boundary =>
      obtain ⟨front, begins, size⟩ := isBoundary_iff.mp boundary
      have whole := byteLength_le_splitBytes begins (Nat.le_of_eq size)
      omega
    next inside =>
      -- The budget of one more byte buys nothing, for a beginning that used it would end here.
      have unused : byteLength (splitBytes (limit + 1) text).1 ≠ limit + 1 := fun used =>
        inside (isBoundary_iff.mpr ⟨_, splitBytes_isPrefix _ _, used⟩)
      have within := byteLength_splitBytes_le limit text
      have less :
          byteLength (splitBytes (limit + 1) text).1 ≤ byteLength (splitBytes limit text).1 :=
        byteLength_le_splitBytes (splitBytes_isPrefix _ _) (by omega)
      have more :
          byteLength (splitBytes limit text).1 ≤ byteLength (splitBytes (limit + 1) text).1 :=
        byteLength_le_splitBytes (splitBytes_isPrefix _ _) (by omega)
      rw [ih]
      exact Nat.le_antisymm more less

/-- The cut at the last boundary can be made. -/
theorem slice?_lastBoundary (text : List Char) (limit : Nat) :
    slice? 0 (lastBoundary text limit) text = some (splitBytes limit text).1 :=
  slice?_zero_eq_some_iff.mpr ⟨splitBytes_isPrefix limit text, (lastBoundary_eq text limit).symm⟩

end SqlWeave.Text
