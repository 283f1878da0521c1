import SqlWeave.Proofs.Text.Digits
import SqlWeave.Statement

/-!
# Glyphs

A statement keeps its text and, apart from it, the bytes at which its placeholders stand. Both come
from one sequence of glyphs: characters, and placeholders with the digits that spell them.
`Statement.Shows` ties a statement to its glyphs. Every operation on statements is an operation on
glyphs, so that no later proof counts bytes again.
-/
namespace SqlWeave

open Text (Digits byteLength)

/-- A character of a text, or a placeholder as it is spelled. -/
inductive Glyph where
  | char (c : Char)
  | token (number : Digits)

namespace Glyph

@[simp] def spelling : Glyph → List Char
  | .char c => [c]
  | .token number => '$' :: number.chars

/-- The number of the value that a glyph refers to. -/
@[simp] def index? : Glyph → Option Nat
  | .char _ => none
  | .token number => some number.value

/-- The glyph after `offset` more values have been put in front of those it refers to. -/
def shift (offset : Nat) : Glyph → Glyph
  | .char c => .char c
  | .token number => .token (.ofNat (number.value + offset))

def ofText (text : List Char) : List Glyph := text.map .char

/-- The text that glyphs make up. -/
def spell (glyphs : List Glyph) : List Char := glyphs.flatMap spelling

/-- The placeholders among glyphs that start at the byte `start`. -/
def place (start : Nat) : List Glyph → List Placeholder
  | [] => []
  | glyph :: glyphs =>
    let stop := start + byteLength glyph.spelling
    (glyph.index?.map fun index => (⟨start, stop, index⟩ : Placeholder)).toList ++
      place stop glyphs

@[simp] theorem spell_nil : spell [] = [] := rfl

@[simp] theorem spell_cons (glyph : Glyph) (glyphs : List Glyph) :
    spell (glyph :: glyphs) = glyph.spelling ++ spell glyphs := rfl

@[simp] theorem spell_append (a b : List Glyph) : spell (a ++ b) = spell a ++ spell b :=
  List.flatMap_append

@[simp] theorem spell_ofText (text : List Char) : spell (ofText text) = text := by
  induction text with
  | nil => rfl
  | cons c text ih =>
    simp only [ofText, List.map_cons, spell_cons, spelling, List.singleton_append] at ih ⊢
    rw [ih]

@[simp] theorem place_nil (start : Nat) : place start [] = [] := rfl

theorem place_append (start : Nat) (a b : List Glyph) :
    place start (a ++ b) = place start a ++ place (start + byteLength (spell a)) b := by
  induction a generalizing start with
  | nil => rfl
  | cons glyph a ih =>
    simp only [List.cons_append, place, ih, spell_cons, Text.byteLength_append, Nat.add_assoc,
      List.append_assoc]

@[simp] theorem place_ofText (start : Nat) (text : List Char) : place start (ofText text) = [] := by
  induction text generalizing start with
  | nil => rfl
  | cons c text ih => exact ih _

@[simp] theorem place_token (start : Nat) (number : Digits) (glyphs : List Glyph) :
    place start (.token number :: glyphs) =
      ⟨start, start + byteLength ('$' :: number.chars), number.value⟩ ::
        place (start + byteLength ('$' :: number.chars)) glyphs := rfl

theorem place_text_token (start : Nat) (before : List Char) (number : Digits)
    (glyphs : List Glyph) :
    place start (ofText before ++ .token number :: glyphs) =
      ⟨start + byteLength before, start + byteLength before + byteLength ('$' :: number.chars),
        number.value⟩ ::
        place (start + byteLength before + byteLength ('$' :: number.chars)) glyphs := by
  rw [place_append, place_ofText, spell_ofText, List.nil_append, place_token]

/-- Positions do not matter for the numbers. -/
theorem map_index_place (start : Nat) (glyphs : List Glyph) :
    (place start glyphs).map (·.index) = glyphs.filterMap index? := by
  induction glyphs generalizing start with
  | nil => rfl
  | cons glyph glyphs ih => cases glyph <;> simp [place, ih, List.filterMap_cons]

/-- Placeholders stand at or after the start. -/
theorem le_start_of_mem_place {start : Nat} {glyphs : List Glyph} {p : Placeholder}
    (member : p ∈ place start glyphs) : start ≤ p.start := by
  induction glyphs generalizing start with
  | nil => cases member
  | cons glyph glyphs ih =>
    rcases List.mem_append.mp member with first | later
    · cases glyph <;> simp at first
      exact Nat.le_of_eq (by rw [first])
    · exact Nat.le_trans (Nat.le_add_right _ _) (ih later)

@[simp] theorem map_shift_ofText (offset : Nat) (text : List Char) :
    (ofText text).map (shift offset) = ofText text := by
  simp only [ofText, List.map_map]
  rfl

/-- Glyphs are a text, or a text, a placeholder and further glyphs: the cases in which a
statement is cut at its placeholders. -/
@[elab_as_elim]
theorem chunks {motive : List Glyph → Prop} (plain : ∀ text, motive (ofText text))
    (token : ∀ before number glyphs, motive glyphs →
      motive (ofText before ++ .token number :: glyphs)) (glyphs : List Glyph) :
    motive glyphs := by
  -- A character goes to the text in front, so that text is kept general.
  suffices general : ∀ before, motive (ofText before ++ glyphs) from general []
  induction glyphs with
  | nil =>
    intro before
    rw [List.append_nil]
    exact plain before
  | cons glyph glyphs ih =>
    intro before
    cases glyph with
    | char c =>
      have longer := ih (before ++ [c])
      simpa only [ofText, List.map_append, List.map_cons, List.map_nil, List.append_assoc,
        List.singleton_append] using longer
    | token number => exact token before number glyphs (ih [])

end Glyph

namespace Statement

/-- The text and the placeholders of the statement are those of the glyphs. -/
structure Shows (s : Statement) (glyphs : List Glyph) : Prop where
  text : s.text.toList = Glyph.spell glyphs
  placeholders : s.placeholders = Glyph.place 0 glyphs

variable {s t : Statement} {glyphs inner : List Glyph}

theorem Shows.indices (shows : s.Shows glyphs) : s.indices = glyphs.filterMap Glyph.index? := by
  rw [Statement.indices, shows.placeholders, Glyph.map_index_place]

theorem shows_literal (text : String) : (literal text).Shows (Glyph.ofText text.toList) where
  text := by simp [literal]
  placeholders := by simp [literal]

theorem shows_empty : empty.Shows [] := shows_literal ""

theorem Shows.named (shows : s.Shows glyphs) (name : String) : (s.named name).Shows glyphs :=
  ⟨shows.text, shows.placeholders⟩

theorem Shows.withValues (shows : s.Shows glyphs) (values : List Scalar) :
    { s with values }.Shows glyphs :=
  ⟨shows.text, shows.placeholders⟩

theorem Shows.pushText (shows : s.Shows glyphs) (text : String) :
    (s.pushText text).Shows (glyphs ++ Glyph.ofText text.toList) where
  text := by simp [Statement.pushText, shows.text]
  placeholders := by simp [Statement.pushText, Glyph.place_append, shows.placeholders]

theorem Shows.pushPlaceholder (shows : s.Shows glyphs) (index : Nat) :
    (s.pushPlaceholder index).Shows (glyphs ++ [.token (.ofNat index)]) where
  text := by simp [Statement.pushPlaceholder, token, shows.text]
  placeholders := by
    simp [Statement.pushPlaceholder, token, Glyph.place_append, shows.placeholders, shows.text,
      Text.utf8ByteSize_eq_byteLength]

theorem Shows.bind (shows : s.Shows glyphs) (value : Scalar) :
    (s.bind value).Shows (glyphs ++ [.token (.ofNat (s.values.length + 1))]) :=
  (shows.pushPlaceholder _).withValues _

end Statement

end SqlWeave
