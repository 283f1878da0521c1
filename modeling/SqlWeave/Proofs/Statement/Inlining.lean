import SqlWeave.Proofs.Statement.WellFormed

/-!
# Laws of inlining

A statement is its glyphs, its values and its name (`Shows.ext`). Inlining appends glyphs with their
numbers shifted, and numbers that are shifted twice are shifted once by the sum. So it makes no
difference whether something is written into a statement that is then inlined, or written after the
statement has been inlined (`inline_pushText`, `inline_bind`, `inline_inline`).
-/
namespace SqlWeave

theorem Glyph.shift_shift (offset more : Nat) (glyph : Glyph) :
    (glyph.shift offset).shift more = glyph.shift (more + offset) := by
  cases glyph with
  | char => rfl
  | token number =>
    rw [shift, shift, shift, Text.Digits.value_ofNat, Nat.add_assoc, Nat.add_comm offset]

theorem Glyph.map_shift_shift (offset more : Nat) (glyphs : List Glyph) :
    (glyphs.map (shift offset)).map (shift more) = glyphs.map (shift (more + offset)) := by
  rw [List.map_map]
  exact List.map_congr_left fun glyph _ => glyph.shift_shift offset more

namespace Statement

variable {s t u : Statement} {glyphs inner : List Glyph}

/-- Glyphs leave no choice of the text and the placeholders. -/
theorem Shows.ext (shows : s.Shows glyphs) (alsoShows : t.Shows glyphs)
    (values : s.values = t.values) (name : s.name = t.name) : s = t := by
  have text : s.text = t.text := String.toList_inj.mp (shows.text.trans alsoShows.text.symm)
  have placeholders : s.placeholders = t.placeholders :=
    shows.placeholders.trans alsoShows.placeholders.symm
  cases s
  cases t
  simp_all

/-- What is inlined does not give its name away. -/
@[simp] theorem name_inline (s t : Statement) : (s.inline t).name = s.name := by
  have pushed (offset : Nat) (pieces : List Piece) :
      (pieces.foldl (pushPiece offset) s).name = s.name := by
    induction pieces generalizing s with
    | nil => rfl
    | cons piece pieces ih =>
      rw [List.foldl_cons, ih]
      cases piece <;> rfl
  exact pushed s.values.length t.pieces

theorem pushText_append (s : Statement) (a b : String) :
    s.pushText (a ++ b) = (s.pushText a).pushText b := by
  simp [pushText, String.append_assoc]

theorem inline_pushText (sound : s.Sound) (inner : t.Sound) (text : String) :
    s.inline (t.pushText text) = (s.inline t).pushText text := by
  obtain ⟨glyphs, shows⟩ := sound.shown
  obtain ⟨others, othersShow⟩ := inner.shown
  have inlined := shows.inline (othersShow.pushText text)
  have pushed := (shows.inline othersShow).pushText text
  rw [List.map_append, Glyph.map_shift_ofText, ← List.append_assoc] at inlined
  exact inlined.ext pushed rfl (by simp [pushText])

theorem inline_bind (sound : s.Sound) (inner : t.Sound) (scalar : Scalar) :
    s.inline (t.bind scalar) = (s.inline t).bind scalar := by
  obtain ⟨glyphs, shows⟩ := sound.shown
  obtain ⟨others, othersShow⟩ := inner.shown
  have inlined := shows.inline (othersShow.bind scalar)
  have bound := (shows.inline othersShow).bind scalar
  -- The number that is bound inside is shifted to the one that is free outside.
  have number : Glyph.shift s.values.length (.token (.ofNat (t.values.length + 1))) =
      .token (.ofNat ((s.inline t).values.length + 1)) := by
    rw [Glyph.shift, Text.Digits.value_ofNat, values_inline, List.length_append]
    congr 2
    omega
  rw [List.map_append, List.map_singleton, number, ← List.append_assoc] at inlined
  have values : s.values ++ (t.values ++ [scalar]) = s.values ++ t.values ++ [scalar] :=
    (List.append_assoc _ _ _).symm
  exact inlined.ext bound values (by simp [bind, pushPlaceholder])

/-- Inlining is associative. -/
theorem inline_inline (sound : s.Sound) (inner : t.Sound) (innermost : u.Sound) :
    s.inline (t.inline u) = (s.inline t).inline u := by
  obtain ⟨glyphs, shows⟩ := sound.shown
  obtain ⟨others, othersShow⟩ := inner.shown
  obtain ⟨last, lastShows⟩ := innermost.shown
  have deep := shows.inline (othersShow.inline lastShows)
  have flat := (shows.inline othersShow).inline lastShows
  rw [List.map_append, Glyph.map_shift_shift, ← List.append_assoc] at deep
  rw [values_inline, List.length_append] at flat
  have values : s.values ++ (t.values ++ u.values) = s.values ++ t.values ++ u.values :=
    (List.append_assoc _ _ _).symm
  exact deep.ext flat values (by simp)

theorem inline_empty (sound : s.Sound) : s.inline empty = s := by
  obtain ⟨glyphs, shows⟩ := sound.shown
  have inlined := shows.inline shows_empty
  rw [List.map_nil, List.append_nil] at inlined
  exact inlined.ext shows (List.append_nil _) (name_inline s empty)

end Statement

end SqlWeave
