import SqlWeave.Text.Utf8

/-!
# Slices

Cutting a text at byte positions fails when a position lies behind the end or inside a character,
or when the end comes before the start. `slice?` is the cut that says so, where `splitBytes` would
give a shorter text.
-/
namespace SqlWeave.Text

/-- The text from the byte `start` up to the byte `stop`, if both stand between characters. -/
def slice? (start stop : Nat) (text : List Char) : Option (List Char) :=
  let cut := splitBytes start text
  let inner := (splitBytes (stop - start) cut.2).1
  if byteLength cut.1 = start ∧ start + byteLength inner = stop then some inner else none

/-- A slice is a run of whole characters of the text, and every such run is a slice. -/
theorem slice?_eq_some_iff {start stop : Nat} {text inner : List Char} :
    slice? start stop text = some inner ↔ ∃ before after, text = before ++ inner ++ after ∧
      byteLength before = start ∧ start + byteLength inner = stop := by
  constructor
  · intro sliced
    simp only [slice?] at sliced
    split at sliced
    next boundaries =>
      cases sliced
      have outer := splitBytes_append start text
      have rest := splitBytes_append (stop - start) (splitBytes start text).2
      refine ⟨(splitBytes start text).1,
        (splitBytes (stop - start) (splitBytes start text).2).2, ?_, boundaries⟩
      rw [List.append_assoc, rest, outer]
    next => cases sliced
  · rintro ⟨before, after, rfl, rfl, rfl⟩
    simp only [slice?, List.append_assoc, splitBytes_byteLength, Nat.add_sub_cancel_left,
      and_self, if_true]

theorem slice?_middle (before inner after : List Char) :
    slice? (byteLength before) (byteLength before + byteLength inner) (before ++ inner ++ after) =
      some inner :=
  slice?_eq_some_iff.mpr ⟨before, after, rfl, rfl, rfl⟩

theorem slice?_end (before inner : List Char) :
    slice? (byteLength before) (byteLength (before ++ inner)) (before ++ inner) = some inner := by
  have whole := slice?_middle before inner []
  rwa [List.append_nil, ← byteLength_append] at whole

end SqlWeave.Text
