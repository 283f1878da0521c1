import SqlWeave.Proofs.Statement.Cutting
import SqlWeave.Proofs.Statement.Scanning

/-!
# Well-formed statements

The placeholders of a well-formed statement stand in its text from left to right, each is a dollar
sign with the digits of its number, and each number refers to a value. `Statement.Sound` says the
same of the glyphs that the statement shows; it is what every way of building statements keeps, and
`Sound.wellFormed` reads the bytes off it.
-/
namespace SqlWeave.Statement

open Text (Digits byteLength)

/-- A dollar sign and a non-empty run of digits that stand for the number. -/
def Spells (token : List Char) (index : Nat) : Prop :=
  ∃ digits, token = '$' :: digits ∧ digits ≠ [] ∧ (∀ c ∈ digits, c.isDigit = true) ∧
    Text.decimalValue digits = index

/-- What a statement promises to everyone who cuts its text at its placeholders. -/
structure WellFormed (s : Statement) : Prop where
  /-- Placeholders go strictly from left to right and do not overlap. -/
  ordered : s.placeholders.Pairwise fun p q => p.start < q.start ∧ p.stop ≤ q.start
  /-- The bytes of a placeholder are whole characters of the text and spell its number. -/
  spelled : ∀ p ∈ s.placeholders, ∃ token,
    Text.slice? p.start p.stop s.text.toList = some token ∧ Spells token p.index
  /-- Each number refers to a value. -/
  inRange : ∀ p ∈ s.placeholders, 1 ≤ p.index ∧ p.index ≤ s.values.length

/-- A statement shows glyphs, and its numbers refer to values. -/
structure Sound (s : Statement) : Prop where
  shown : ∃ glyphs, s.Shows glyphs
  inRange : ∀ index ∈ s.indices, 1 ≤ index ∧ index ≤ s.values.length

variable {s t : Statement} {glyphs inner : List Glyph}

/-! ### From glyphs to bytes -/

private theorem split_of_mem_place {start : Nat} {p : Placeholder}
    (member : p ∈ Glyph.place start glyphs) :
    ∃ before, ∃ number : Digits, ∃ after,
      Glyph.spell glyphs = before ++ ('$' :: number.chars) ++ after ∧
      p = ⟨start + byteLength before,
        start + byteLength before + byteLength ('$' :: number.chars), number.value⟩ := by
  induction glyphs using Glyph.chunks generalizing start with
  | plain text => simp at member
  | token text number rest ih =>
    rw [Glyph.place_text_token] at member
    rw [Glyph.spell_append, Glyph.spell_ofText, Glyph.spell_cons, Glyph.spelling]
    rcases List.mem_cons.mp member with rfl | later
    · exact ⟨text, number, Glyph.spell rest, (List.append_assoc _ _ _).symm, rfl⟩
    · obtain ⟨before, other, after, spelled, rfl⟩ := ih later
      refine ⟨text ++ '$' :: number.chars ++ before, other, after, ?_, ?_⟩
      · rw [spelled]
        simp only [List.append_assoc]
      · simp only [Text.byteLength_append, Nat.add_assoc]

theorem pairwise_place (start : Nat) (glyphs : List Glyph) :
    (Glyph.place start glyphs).Pairwise fun p q => p.start < q.start ∧ p.stop ≤ q.start := by
  induction glyphs using Glyph.chunks generalizing start with
  | plain text => simp
  | token text number rest ih =>
    rw [Glyph.place_text_token, List.pairwise_cons]
    refine ⟨fun q later => ?_, ih _⟩
    have bound := Glyph.le_start_of_mem_place later
    have positive : 0 < byteLength ('$' :: number.chars) := by
      rw [byteLength_dollar_digits number.areDigits]
      omega
    exact ⟨by dsimp only; omega, bound⟩

theorem Sound.wellFormed (sound : s.Sound) : s.WellFormed := by
  obtain ⟨glyphs, shows⟩ := sound.shown
  constructor
  case ordered =>
    rw [shows.placeholders]
    exact pairwise_place 0 glyphs
  case spelled =>
    intro p member
    rw [shows.placeholders] at member
    obtain ⟨before, number, after, spelled, rfl⟩ := split_of_mem_place member
    refine ⟨'$' :: number.chars, ?_, number.chars, rfl, number.nonempty, number.areDigits, rfl⟩
    rw [shows.text, spelled, Nat.zero_add]
    exact Text.slice?_middle before _ after
  case inRange =>
    intro p member
    exact sound.inRange p.index (List.mem_map_of_mem member)

theorem Sound.cut?_eq (sound : s.Sound) : s.cut? = some s.pieces := by
  obtain ⟨glyphs, shows⟩ := sound.shown
  exact shows.cut?_eq

theorem Sound.inline?_eq (sound : t.Sound) : s.inline? t = some (s.inline t) := by
  obtain ⟨glyphs, shows⟩ := sound.shown
  exact shows.inline?_eq

/-! ### What keeps statements sound -/

theorem sound_literal (text : String) : (literal text).Sound :=
  ⟨⟨_, shows_literal text⟩, by simp [indices, literal]⟩

theorem sound_empty : empty.Sound := sound_literal ""

theorem sound_of_adopt? {text : String} {values : List Scalar}
    (adopted : adopt? text values = some s) : s.Sound :=
  ⟨(of_adopt? adopted).1, (of_adopt? adopted).2⟩

theorem Sound.named (sound : s.Sound) (name : String) : (s.named name).Sound := by
  obtain ⟨glyphs, shows⟩ := sound.shown
  exact ⟨⟨glyphs, shows.named name⟩, sound.inRange⟩

theorem Sound.pushText (sound : s.Sound) (text : String) : (s.pushText text).Sound := by
  obtain ⟨glyphs, shows⟩ := sound.shown
  exact ⟨⟨_, shows.pushText text⟩, sound.inRange⟩

@[simp] theorem indices_bind (s : Statement) (value : Scalar) :
    (s.bind value).indices = s.indices ++ [s.values.length + 1] := by
  simp [indices, bind, pushPlaceholder]

@[simp] theorem values_bind (s : Statement) (value : Scalar) :
    (s.bind value).values = s.values ++ [value] := rfl

@[simp] theorem values_inline (s t : Statement) : (s.inline t).values = s.values ++ t.values := rfl

theorem Sound.bind (sound : s.Sound) (value : Scalar) : (s.bind value).Sound := by
  obtain ⟨glyphs, shows⟩ := sound.shown
  refine ⟨⟨_, shows.bind value⟩, fun index member => ?_⟩
  rw [indices_bind, List.mem_append, List.mem_singleton] at member
  rw [values_bind, List.length_append, List.length_singleton]
  rcases member with old | rfl
  · have bound := sound.inRange index old
    omega
  · omega

/-- The number that a piece refers to. -/
def Piece.index? : Piece → Option Nat
  | .text _ => none
  | .slot index => some index

private theorem filterMap_index?_piecesFrom (start : Nat) (text : List Char)
    (placeholders : List Placeholder) :
    (piecesFrom start text placeholders).filterMap Piece.index? = placeholders.map (·.index) := by
  induction placeholders generalizing start text with
  | nil => rfl
  | cons p placeholders ih =>
    simp only [piecesFrom, List.filterMap_cons, Piece.index?, ih, List.map_cons]

private theorem indices_foldl_pushPiece (s : Statement) (offset : Nat) (pieces : List Piece) :
    (pieces.foldl (pushPiece offset) s).indices =
      s.indices ++ (pieces.filterMap Piece.index?).map (· + offset) := by
  induction pieces generalizing s with
  | nil => simp
  | cons piece pieces ih =>
    rw [List.foldl_cons, ih]
    cases piece with
    | text text => rfl
    | slot index => simp [pushPiece, pushPlaceholder, indices, Piece.index?]

/-- The numbers of an inlined statement follow the known ones, wherever its text is cut. -/
theorem indices_inline (s t : Statement) :
    (s.inline t).indices = s.indices ++ t.indices.map (· + s.values.length) := by
  have numbers : t.pieces.filterMap Piece.index? = t.indices := filterMap_index?_piecesFrom 0 _ _
  rw [← numbers]
  exact indices_foldl_pushPiece s s.values.length t.pieces

theorem Sound.inline (sound : s.Sound) (others : t.Sound) : (s.inline t).Sound := by
  obtain ⟨glyphs, shows⟩ := sound.shown
  obtain ⟨inner, othersShow⟩ := others.shown
  refine ⟨⟨_, shows.inline othersShow⟩, fun index member => ?_⟩
  rw [indices_inline, List.mem_append, List.mem_map] at member
  rw [values_inline, List.length_append]
  rcases member with old | ⟨index, new, rfl⟩
  · have bound := sound.inRange index old
    omega
  · have bound := others.inRange index new
    omega

end SqlWeave.Statement
