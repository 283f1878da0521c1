import SqlWeave.Proofs.Statement.Glyph

/-!
# Scanning a text for placeholders

A text that is taken over is read once for its placeholders. What the scanner finds are placeholders
among the glyphs of the text (`scan_shows`), so an adopted statement shows glyphs like every other.
-/
namespace SqlWeave.Statement

open Text (Digits byteLength)

theorem drop_length_takeWhile (p : Char → Bool) (text : List Char) :
    text.drop (text.takeWhile p).length = text.dropWhile p := by
  conv => lhs; arg 2; rw [← List.takeWhile_append_dropWhile (p := p) (l := text)]
  exact List.drop_left

private theorem takeWhile_append_drop (p : Char → Bool) (text : List Char) :
    text.takeWhile p ++ text.drop (text.takeWhile p).length = text := by
  rw [drop_length_takeWhile, List.takeWhile_append_dropWhile]

/-- A dollar sign and the digits after it take one byte each. -/
theorem byteLength_dollar_digits {digits : List Char} (areDigits : ∀ c ∈ digits, c.isDigit = true) :
    byteLength ('$' :: digits) = 1 + digits.length := by
  rw [Text.byteLength_cons, Text.byteLength_of_digits areDigits]
  rfl

theorem areDigits_takeWhile (text : List Char) :
    ∀ c ∈ text.takeWhile Char.isDigit, c.isDigit = true :=
  List.all_eq_true.mp List.all_takeWhile

theorem scan_shows (position : Nat) (text : List Char) :
    ∃ glyphs, Glyph.spell glyphs = text ∧ Glyph.place position glyphs = scan position text := by
  fun_induction scan position text with
  | case1 => exact ⟨[], rfl, rfl⟩
  | case2 position text digits stop found ih =>
    obtain ⟨glyphs, spelled, placed⟩ := ih
    have whole : digits ++ text.drop digits.length = text := takeWhile_append_drop _ text
    have size : position + byteLength ('$' :: digits) = stop := by
      rw [byteLength_dollar_digits (areDigits_takeWhile text), ← Nat.add_assoc]
    cases token : found with
    | none =>
      -- No digits, or too many: the dollar sign and the digits are plain characters.
      refine ⟨Glyph.ofText ('$' :: digits) ++ glyphs, ?_, ?_⟩
      · rw [Glyph.spell_append, Glyph.spell_ofText, spelled, List.cons_append, whole]
      · rw [Glyph.place_append, Glyph.place_ofText, Glyph.spell_ofText, size, placed]
        rfl
    | some index =>
      have read := (Option.filter_eq_some_iff.mp token).1
      obtain ⟨number, chars, value⟩ := Digits.of_readDecimal? read
      refine ⟨.token number :: glyphs, ?_, ?_⟩
      · rw [Glyph.spell_cons, Glyph.spelling, chars, spelled, List.cons_append, whole]
      · rw [Glyph.place_token, chars, size, value, placed]
        rfl
  | case3 position c text other ih =>
    obtain ⟨glyphs, spelled, placed⟩ := ih
    refine ⟨.char c :: glyphs, ?_, ?_⟩
    · rw [Glyph.spell_cons, spelled]
      rfl
    · rw [← placed]
      rfl

theorem le_start_of_mem_scan {position : Nat} {text : List Char} {p : Placeholder}
    (member : p ∈ scan position text) : position ≤ p.start := by
  obtain ⟨glyphs, -, placed⟩ := scan_shows position text
  exact Glyph.le_start_of_mem_place (placed ▸ member)

/-! ### Finding the placeholders that were written -/

private theorem takeWhile_chars (number : Digits) (after : List Char) :
    (number.chars ++ after).takeWhile Char.isDigit =
      number.chars ++ after.takeWhile Char.isDigit :=
  List.takeWhile_append_of_pos number.areDigits

theorem scan_token {start : Nat} {number : Digits} {after : List Char}
    (small : number.value < Text.wordCount) (ends : after.head?.any Char.isDigit = false) :
    scan start ('$' :: number.chars ++ after) =
      ⟨start, start + byteLength ('$' :: number.chars), number.value⟩ ::
        scan (start + byteLength ('$' :: number.chars)) after := by
  have noMore : after.takeWhile Char.isDigit = [] := by
    cases after with
    | nil => rfl
    | cons c after => exact List.takeWhile_cons_of_neg (by simpa using ends)
  have read : (Text.readDecimal? number.chars).filter (· < Text.wordCount) = some number.value := by
    rw [number.readDecimal?_chars]
    simp [small]
  rw [List.cons_append, scan, if_pos rfl, takeWhile_chars, noMore, List.append_nil]
  dsimp only
  rw [read, List.drop_left, byteLength_dollar_digits number.areDigits, Nat.add_assoc]
  rfl

/-- A placeholder that the scanner finds where it was written has no digit after it. -/
theorem of_scan_eq_cons {start : Nat} {number : Digits} {after : List Char}
    {rest : List Placeholder}
    (found : scan start ('$' :: number.chars ++ after) =
      ⟨start, start + byteLength ('$' :: number.chars), number.value⟩ :: rest) :
    number.value < Text.wordCount ∧ after.head?.any Char.isDigit = false := by
  rw [List.cons_append, scan, if_pos rfl, takeWhile_chars,
    byteLength_dollar_digits number.areDigits] at found
  dsimp only at found
  generalize token : (Text.readDecimal? (number.chars ++ after.takeWhile Char.isDigit)).filter
    (· < Text.wordCount) = read at found
  cases read with
  | none =>
    -- Nothing is found at the dollar sign, and everything else starts after it.
    have member : (⟨start, start + (1 + number.chars.length), number.value⟩ : Placeholder) ∈ _ :=
      found ▸ List.mem_cons_self
    have later := le_start_of_mem_scan member
    dsimp only at later
    omega
  | some index =>
    -- The placeholder that is found stops where the written one does, so no digit was added.
    obtain ⟨first, -⟩ := List.cons_eq_cons.mp found
    have small := (Option.filter_eq_some_iff.mp token).2
    simp only [Placeholder.mk.injEq, List.length_append] at first
    have noMore : after.takeWhile Char.isDigit = [] := List.length_eq_zero_iff.mp (by omega)
    refine ⟨by simpa [first.2.2] using small, ?_⟩
    cases after with
    | nil => rfl
    | cons c after =>
      cases digit : c.isDigit with
      | false => simp [digit]
      | true =>
        rw [List.takeWhile_cons_of_pos digit] at noMore
        cases noMore

/-- Scanning finds exactly the written placeholders if and only if no other dollar sign disturbs
it, no digit follows a placeholder, and all numbers fit in 64 bits. -/
theorem scan_eq_place_iff (before : List Char) {glyphs : List Glyph}
    (noDollar : ∀ c, .char c ∈ glyphs → c ≠ '$') :
    scan (byteLength before) (Glyph.spell glyphs) = Glyph.place (byteLength before) glyphs ↔
      ∀ p ∈ Glyph.place (byteLength before) glyphs, p.index < Text.wordCount ∧
        Text.digitAt p.stop (before ++ Glyph.spell glyphs) = false := by
  -- Positions count from the start of the whole text, so what was read stays in the statement.
  induction glyphs generalizing before with
  | nil => simp [scan]
  | cons glyph glyphs ih =>
    have others : ∀ c, .char c ∈ glyphs → c ≠ '$' := fun c member =>
      noDollar c (List.mem_cons_of_mem _ member)
    have rest := ih (before ++ glyph.spelling) others
    rw [Text.byteLength_append] at rest
    cases glyph with
    | char c =>
      have plain : c ≠ '$' := noDollar c List.mem_cons_self
      have skip : Glyph.place (byteLength before) (.char c :: glyphs) =
          Glyph.place (byteLength before + byteLength [c]) glyphs := rfl
      have read : scan (byteLength before) (c :: Glyph.spell glyphs) =
          scan (byteLength before + byteLength [c]) (Glyph.spell glyphs) := by
        rw [scan, if_neg plain]
        rfl
      rw [Glyph.spelling, List.append_assoc] at rest
      rw [skip, Glyph.spell_cons, Glyph.spelling, ← rest, List.singleton_append, read]
    | token number =>
      have stop : Text.digitAt (byteLength before + byteLength ('$' :: number.chars))
          (before ++ Glyph.spell (.token number :: glyphs)) =
          (Glyph.spell glyphs).head?.any Char.isDigit := by
        rw [Glyph.spell_cons, ← List.append_assoc, ← Text.byteLength_append, Text.digitAt,
          Glyph.spelling, Text.splitBytes_byteLength]
      rw [Glyph.place_token, List.forall_mem_cons, stop, Glyph.spell_cons, Glyph.spelling]
      rw [← List.append_assoc]
      constructor
      · intro found
        have first := of_scan_eq_cons found
        rw [scan_token first.1 first.2] at found
        exact ⟨first, rest.mp (List.cons_eq_cons.mp found).2⟩
      · rintro ⟨first, later⟩
        rw [scan_token first.1 first.2]
        exact congrArg _ (rest.mpr later)

/-! ### Adopting -/

theorem adopt?_of_scan {text : String} {values : List Scalar} {placeholders : List Placeholder}
    (scanned : scan 0 text.toList = placeholders)
    (inRange : ∀ p ∈ placeholders, refersTo values.length p.index = true) :
    adopt? text values = some ⟨text, values, placeholders, none⟩ := by
  simp only [adopt?, scanned]
  rw [if_pos (List.all_eq_true.mpr inRange)]

theorem scan_of_adopt? {text : String} {values : List Scalar} {s : Statement}
    (adopted : adopt? text values = some s) : scan 0 text.toList = s.placeholders := by
  simp only [adopt?] at adopted
  split at adopted
  next => exact congrArg placeholders (Option.some.inj adopted)
  next => cases adopted

/-- An adopted statement shows glyphs, and each of its numbers refers to a value. -/
theorem of_adopt? {text : String} {values : List Scalar} {s : Statement}
    (adopted : adopt? text values = some s) :
    (∃ glyphs, s.Shows glyphs) ∧ ∀ index ∈ s.indices, 1 ≤ index ∧ index ≤ s.values.length := by
  simp only [adopt?] at adopted
  split at adopted
  next all =>
    cases adopted
    constructor
    · obtain ⟨glyphs, spelled, placed⟩ := scan_shows 0 text.toList
      exact ⟨glyphs, spelled.symm, placed.symm⟩
    · intro index member
      obtain ⟨p, found, rfl⟩ := List.mem_map.mp member
      simpa [refersTo] using List.all_eq_true.mp all p found
  next => cases adopted

end SqlWeave.Statement
