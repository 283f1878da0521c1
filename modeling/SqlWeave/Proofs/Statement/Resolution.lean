import SqlWeave.Proofs.Statement.WellFormed

/-!
# What a statement means

The meaning of a statement is its text with a value in the place of each placeholder: a sequence of
characters and values, in which neighbouring texts need no merging. `Statement.resolve?` reads it
off the recorded positions. For sound statements it exists, and inlining appends the meaning of one
statement to that of the other, whatever their numbers are.
-/
namespace SqlWeave

/-- A character of a text, or a value that stands between characters. -/
inductive Symbol where
  | char (c : Char)
  | value (scalar : Scalar)

namespace Symbol

def ofText (text : String) : List Symbol := text.toList.map .char

/-- Sequences one after another; none if one of them is missing. -/
def concat? : List (Option (List Symbol)) → Option (List Symbol)
  | [] => some []
  | part :: parts => do
    let first ← part
    let rest ← concat? parts
    some (first ++ rest)

theorem concat?_cons (part : Option (List Symbol)) (parts : List (Option (List Symbol))) :
    concat? (part :: parts) = concat? [part, concat? parts] := by
  cases part with
  | none => rfl
  | some first => cases rest : concat? parts <;> simp [concat?, rest]

theorem concat?_append (a b : List (Option (List Symbol))) :
    concat? (a ++ b) = concat? [concat? a, concat? b] := by
  induction a with
  | nil => cases rest : concat? b <;> simp [concat?, rest]
  | cons part a ih =>
    rw [List.cons_append, concat?_cons, ih, concat?_cons part a]
    cases part <;> cases concat? a <;> cases concat? b <;> simp [concat?]

@[simp] theorem concat?_singleton (part : Option (List Symbol)) : concat? [part] = part := by
  cases part <;> simp [concat?]

theorem isSome_concat? {parts : List (Option (List Symbol))}
    (present : ∀ part ∈ parts, part.isSome = true) : (concat? parts).isSome = true := by
  induction parts with
  | nil => rfl
  | cons part parts ih =>
    obtain ⟨first, rfl⟩ := Option.isSome_iff_exists.mp (present part List.mem_cons_self)
    obtain ⟨rest, found⟩ := Option.isSome_iff_exists.mp
      (ih fun other member => present other (List.mem_cons_of_mem _ member))
    simp [concat?, found]

end Symbol

namespace Statement

/-- The value of a number; numbers count from one. -/
def valueAt? (values : List Scalar) : Nat → Option Scalar
  | 0 => none
  | index + 1 => values[index]?

/-- A text stands for itself, a reference for the value of its number. -/
def Piece.meaning? (values : List Scalar) : Piece → Option (List Symbol)
  | .text chars => some (chars.map .char)
  | .slot index => (valueAt? values index).map fun scalar => [.value scalar]

/-- The text of a statement with each recorded placeholder replaced by its value, if the recorded
positions and numbers allow it. -/
def resolve? (s : Statement) : Option (List Symbol) := do
  let pieces ← s.cut?
  Symbol.concat? (pieces.map (Piece.meaning? s.values))

def meaningOf? (values : List Scalar) : Glyph → Option (List Symbol)
  | .char c => some [.char c]
  | .token number => (valueAt? values number.value).map fun scalar => [.value scalar]

variable {s t : Statement} {glyphs inner : List Glyph}

private theorem concat?_ofText (values : List Scalar) (text : List Char) :
    Symbol.concat? ((Glyph.ofText text).map (meaningOf? values)) = some (text.map .char) := by
  induction text with
  | nil => rfl
  | cons c text ih =>
    simp only [Glyph.ofText, List.map_cons] at ih ⊢
    rw [Symbol.concat?_cons, ih]
    simp [Symbol.concat?, meaningOf?]

private theorem concat?_pieces (values : List Scalar) (start : Nat) (glyphs : List Glyph) :
    Symbol.concat? ((piecesFrom start (Glyph.spell glyphs) (Glyph.place start glyphs)).map
        (Piece.meaning? values)) =
      Symbol.concat? (glyphs.map (meaningOf? values)) := by
  induction glyphs using Glyph.chunks generalizing start with
  | plain text =>
    rw [piecesFrom_plain, concat?_ofText, List.map_singleton, Symbol.concat?_singleton]
    rfl
  | token before number glyphs ih =>
    rw [piecesFrom_token, List.map_cons, List.map_cons, List.map_append, List.map_cons,
      Symbol.concat?_append, concat?_ofText, Symbol.concat?_cons,
      Symbol.concat?_cons (Piece.meaning? values (.slot number.value)), ih,
      Symbol.concat?_cons (meaningOf? values (.token number))]
    rfl

/-- The meaning of a statement, glyph by glyph. -/
theorem Shows.resolve?_eq (shows : s.Shows glyphs) :
    s.resolve? = Symbol.concat? (glyphs.map (meaningOf? s.values)) := by
  rw [resolve?, shows.cut?_eq, pieces, shows.text, shows.placeholders]
  exact concat?_pieces s.values 0 glyphs

private theorem valueAt?_append_left {index : Nat} {values : List Scalar}
    (positive : 1 ≤ index) (bound : index ≤ values.length) (more : List Scalar) :
    valueAt? (values ++ more) index = valueAt? values index := by
  obtain ⟨below, rfl⟩ := Nat.exists_eq_add_of_le' positive
  exact List.getElem?_append_left (by omega)

private theorem valueAt?_append_right {index : Nat} (positive : 1 ≤ index)
    (values more : List Scalar) :
    valueAt? (values ++ more) (index + values.length) = valueAt? more index := by
  obtain ⟨below, rfl⟩ := Nat.exists_eq_add_of_le' positive
  have shifted : below + 1 + values.length = (values.length + below) + 1 := by omega
  rw [shifted, valueAt?, List.getElem?_append_right (by omega), Nat.add_sub_cancel_left, valueAt?]

private theorem mem_indices_of_token (shows : s.Shows glyphs) {number : Text.Digits}
    (member : .token number ∈ glyphs) : number.value ∈ s.indices := by
  rw [shows.indices]
  exact List.mem_filterMap.mpr ⟨_, member, rfl⟩

/-- More values at the end do not change what a sound statement's glyphs mean. -/
private theorem Sound.concat?_append_values (sound : s.Sound) (shows : s.Shows glyphs)
    (more : List Scalar) :
    Symbol.concat? (glyphs.map (meaningOf? (s.values ++ more))) = s.resolve? := by
  rw [shows.resolve?_eq]
  refine congrArg Symbol.concat? (List.map_congr_left fun glyph member => ?_)
  cases glyph with
  | char => rfl
  | token number =>
    -- The number refers to one of the old values.
    have bound := sound.inRange _ (mem_indices_of_token shows member)
    rw [meaningOf?, valueAt?_append_left bound.1 bound.2, meaningOf?]

/-- Shifted glyphs mean after more values what they meant before. -/
private theorem Sound.concat?_shift (sound : t.Sound) (shows : t.Shows inner)
    (values : List Scalar) :
    Symbol.concat? ((inner.map (Glyph.shift values.length)).map (meaningOf? (values ++ t.values))) =
      t.resolve? := by
  rw [shows.resolve?_eq, List.map_map]
  refine congrArg Symbol.concat? (List.map_congr_left fun glyph member => ?_)
  cases glyph with
  | char => rfl
  | token number =>
    -- The number goes up by as many values as there are in front.
    have bound := sound.inRange _ (mem_indices_of_token shows member)
    rw [Function.comp_apply, Glyph.shift, meaningOf?, Text.Digits.value_ofNat,
      valueAt?_append_right bound.1, meaningOf?]

/-! ### Meanings of what is written -/

theorem Sound.isSome_resolve? (sound : s.Sound) : s.resolve?.isSome = true := by
  obtain ⟨glyphs, shows⟩ := sound.shown
  rw [shows.resolve?_eq]
  apply Symbol.isSome_concat?
  intro part member
  obtain ⟨glyph, found, rfl⟩ := List.mem_map.mp member
  cases glyph with
  | char => rfl
  | token number =>
    obtain ⟨positive, bound⟩ := sound.inRange _ (mem_indices_of_token shows found)
    obtain ⟨below, same⟩ := Nat.exists_eq_add_of_le' positive
    rw [meaningOf?, same, valueAt?, List.getElem?_eq_getElem (by omega)]
    rfl

theorem resolve?_literal (text : String) :
    (literal text).resolve? = some (Symbol.ofText text) := by
  rw [(shows_literal text).resolve?_eq, concat?_ofText]
  rfl

theorem Sound.resolve?_pushText (sound : s.Sound) (text : String) :
    (s.pushText text).resolve? = Symbol.concat? [s.resolve?, some (Symbol.ofText text)] := by
  obtain ⟨glyphs, shows⟩ := sound.shown
  rw [(shows.pushText text).resolve?_eq, shows.resolve?_eq, List.map_append,
    Symbol.concat?_append, concat?_ofText]
  rfl

theorem Sound.resolve?_bind (sound : s.Sound) (scalar : Scalar) :
    (s.bind scalar).resolve? = Symbol.concat? [s.resolve?, some [.value scalar]] := by
  obtain ⟨glyphs, shows⟩ := sound.shown
  have own : meaningOf? (s.values ++ [scalar]) (.token (.ofNat (s.values.length + 1))) =
      some [.value scalar] := by
    simp [meaningOf?, valueAt?]
  rw [(shows.bind scalar).resolve?_eq, values_bind, List.map_append, Symbol.concat?_append,
    sound.concat?_append_values shows, List.map_singleton, Symbol.concat?_singleton, own]

theorem Sound.resolve?_inline (sound : s.Sound) (others : t.Sound) :
    (s.inline t).resolve? = Symbol.concat? [s.resolve?, t.resolve?] := by
  obtain ⟨glyphs, shows⟩ := sound.shown
  obtain ⟨inner, othersShow⟩ := others.shown
  rw [(shows.inline othersShow).resolve?_eq, values_inline, List.map_append,
    Symbol.concat?_append, sound.concat?_append_values shows, others.concat?_shift othersShow]

end Statement

end SqlWeave
