import SqlWeave.Proofs.Statement.Glyph
import SqlWeave.Proofs.Text.Slice

/-!
# Cutting statements

Inlining cuts a statement at its placeholders. `Statement.pieces` cuts whatever it is given;
`Statement.cut?` takes the same slices and has none when one of them would fall outside the text or
go through a character. For a statement that shows glyphs the two agree (`Shows.cut?_eq`), and what
is inlined is its glyphs with the numbers shifted (`Shows.inline`).
-/
namespace SqlWeave

open Text (Digits byteLength)

namespace Statement

/-- Cuts a text at its placeholders from the byte `cursor` on, if all slices can be taken. -/
def cutFrom? (text : List Char) (cursor : Nat) : List Placeholder → Option (List Piece)
  | [] => (Text.slice? cursor (byteLength text) text).map fun rest => [.text rest]
  | p :: placeholders => do
    let before ← Text.slice? cursor p.start text
    let pieces ← cutFrom? text p.stop placeholders
    some (.text before :: .slot p.index :: pieces)

/-- The pieces of a statement, if all slices between its placeholders can be taken. -/
def cut? (s : Statement) : Option (List Piece) := cutFrom? s.text.toList 0 s.placeholders

/-- Inlines a statement, if it can be cut. -/
def inline? (s t : Statement) : Option Statement :=
  t.cut?.map fun pieces =>
    { pieces.foldl (pushPiece s.values.length) s with values := s.values ++ t.values }

variable {s t : Statement} {glyphs inner : List Glyph}

theorem piecesFrom_plain (start : Nat) (text : List Char) :
    piecesFrom start (Glyph.spell (Glyph.ofText text)) (Glyph.place start (Glyph.ofText text)) =
      [.text text] := by
  rw [Glyph.spell_ofText, Glyph.place_ofText, piecesFrom]

theorem piecesFrom_token (start : Nat) (before : List Char) (number : Digits)
    (glyphs : List Glyph) :
    piecesFrom start (Glyph.spell (Glyph.ofText before ++ .token number :: glyphs))
        (Glyph.place start (Glyph.ofText before ++ .token number :: glyphs)) =
      .text before :: .slot number.value ::
        piecesFrom (start + byteLength before + byteLength ('$' :: number.chars))
          (Glyph.spell glyphs)
          (Glyph.place (start + byteLength before + byteLength ('$' :: number.chars)) glyphs) := by
  rw [Glyph.place_text_token, Glyph.spell_append, Glyph.spell_ofText, Glyph.spell_cons,
    Glyph.spelling, piecesFrom]
  simp only [Nat.add_sub_cancel_left, Text.splitBytes_byteLength]

private theorem cutFrom?_glyphs (before : List Char) (glyphs : List Glyph) :
    cutFrom? (before ++ Glyph.spell glyphs) (byteLength before)
        (Glyph.place (byteLength before) glyphs) =
      some (piecesFrom (byteLength before) (Glyph.spell glyphs)
        (Glyph.place (byteLength before) glyphs)) := by
  -- Slices are taken from the whole text, pieces from what is left of it.
  induction glyphs using Glyph.chunks generalizing before with
  | plain text =>
    rw [piecesFrom_plain, Glyph.spell_ofText, Glyph.place_ofText, cutFrom?, Text.slice?_end]
    rfl
  | token middle number glyphs ih =>
    have rest := ih (before ++ middle ++ '$' :: number.chars)
    have sliced := Text.slice?_middle before middle ('$' :: number.chars ++ Glyph.spell glyphs)
    simp only [Text.byteLength_append, List.append_assoc, ← Nat.add_assoc] at rest sliced
    rw [piecesFrom_token, Glyph.place_text_token, Glyph.spell_append, Glyph.spell_ofText,
      Glyph.spell_cons, Glyph.spelling, cutFrom?, sliced]
    dsimp only
    rw [rest]
    rfl

/-- No slice that inlining takes falls outside the text or inside a character. -/
theorem Shows.cut?_eq (shows : s.Shows glyphs) : s.cut? = some s.pieces := by
  rw [cut?, pieces, shows.text, shows.placeholders]
  exact cutFrom?_glyphs [] glyphs

theorem Shows.inline?_eq (shows : t.Shows inner) : s.inline? t = some (s.inline t) := by
  rw [inline?, shows.cut?_eq]
  rfl

private theorem Shows.foldl_pushPiece (inner : List Glyph) (offset start : Nat)
    (shows : s.Shows glyphs) :
    ((piecesFrom start (Glyph.spell inner) (Glyph.place start inner)).foldl
      (pushPiece offset) s).Shows (glyphs ++ inner.map (Glyph.shift offset)) := by
  induction inner using Glyph.chunks generalizing s glyphs start with
  | plain text =>
    rw [piecesFrom_plain, Glyph.map_shift_ofText]
    simpa [pushPiece] using shows.pushText (String.ofList text)
  | token before number inner ih =>
    rw [piecesFrom_token]
    have pushed := (shows.pushText (String.ofList before)).pushPlaceholder (number.value + offset)
    have rest := ih (start + byteLength before + byteLength ('$' :: number.chars)) pushed
    simpa [pushPiece, Glyph.shift] using rest

/-- Inlining appends the glyphs of the other statement, with its numbers after the known ones. -/
theorem Shows.inline (shows : s.Shows glyphs) (others : t.Shows inner) :
    (s.inline t).Shows (glyphs ++ inner.map (Glyph.shift s.values.length)) := by
  have pushed := shows.foldl_pushPiece inner s.values.length 0
  rw [← others.text, ← others.placeholders] at pushed
  exact pushed.withValues _

end Statement

end SqlWeave
