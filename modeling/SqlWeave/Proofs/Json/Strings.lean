import SqlWeave.Json.Printer
import SqlWeave.Json.Reader
import SqlWeave.Proofs.Text.Hexadecimal

/-!
# Strings in JSON

Most characters are written as they are, the others are escaped. Either way the text of a string is
read back as that string, whatever follows (`readString?_escaped`).
-/
namespace SqlWeave.Json

/-- The character is written as it is. -/
def IsBare (c : Char) : Prop := c ≠ '"' ∧ c ≠ '\\' ∧ 0x20 ≤ c.toNat

instance : DecidablePred IsBare :=
  fun c => inferInstanceAs (Decidable (c ≠ '"' ∧ c ≠ '\\' ∧ 0x20 ≤ c.toNat))

/-! ### Writing -/

theorem escapedChar_of_isBare {c : Char} (bare : IsBare c) : escapedChar c = [c] := by
  obtain ⟨noQuote, noBackslash, printable⟩ := bare
  have noControl {control : Char} (low : control.toNat < 0x20) : c ≠ control := by
    rintro rfl
    omega
  rw [escapedChar, if_neg noQuote, if_neg noBackslash, if_neg (noControl (by decide)),
    if_neg (noControl (by decide)), if_neg (noControl (by decide)), if_neg (noControl (by decide)),
    if_neg (noControl (by decide)), if_neg (Nat.not_lt.mpr printable)]

theorem stringText_of_isBare {text : List Char} (bare : ∀ c ∈ text, IsBare c) :
    stringText text = '"' :: text ++ ['"'] := by
  have same : text.flatMap escapedChar = text.flatMap fun c => [c] :=
    congrArg List.flatten
      (List.map_congr_left fun c member => escapedChar_of_isBare (bare c member))
  rw [stringText, same, List.flatMap_singleton']

/-- A character is written as it is, by a letter or by its number. -/
theorem escapedChar_cases (c : Char) :
    IsBare c ∨ (∃ letter, escapedChar c = ['\\', letter] ∧ shortEscape? letter = some c) ∨
      c.toNat < 0x20 ∧ escapedChar c = '\\' :: 'u' :: Text.hexPadded 4 c.toNat := by
  by_cases low : c.toNat < 0x20
  · unfold escapedChar
    split_ifs with h₁ h₂ h₃ h₄ h₅ h₆ h₇
    case neg => exact .inr (.inr ⟨low, rfl⟩)
    all_goals subst c; exact .inr (.inl ⟨_, rfl, rfl⟩)
  · by_cases special : c = '"' ∨ c = '\\'
    · refine .inr (.inl ?_)
      rcases special with rfl | rfl <;> exact ⟨_, rfl, rfl⟩
    · obtain ⟨noQuote, noBackslash⟩ := not_or.mp special
      exact .inl ⟨noQuote, noBackslash, Nat.not_lt.mp low⟩

/-! ### Reading back -/

theorem readCharacter?_letter {letter c : Char} (short : shortEscape? letter = some c)
    (rest : List Char) : readCharacter? ('\\' :: letter :: rest) = some (some c, rest) := by
  have noNumber : letter ≠ 'u' := by
    rintro rfl
    cases short
  unfold readCharacter?
  split
  next same => exact absurd (List.cons.inj (List.cons.inj same).2).1 noNumber
  next same =>
    cases same
    rw [short]
    rfl
  next other same =>
    cases same
    exact absurd rfl (other _ _ rfl)
  next same => cases same

theorem readCharacter?_number {c : Char} (low : c.toNat < 0x20) (rest : List Char) :
    readCharacter? ('\\' :: 'u' :: (Text.hexPadded 4 c.toNat ++ rest)) = some (some c, rest) := by
  have value := Text.readHex?_hexPadded 4 c.toNat
  obtain ⟨d₁, d₂, d₃, d₄, digits⟩ :
      ∃ d₁ d₂ d₃ d₄, Text.hexPadded 4 c.toNat = [d₁, d₂, d₃, d₄] := ⟨_, _, _, _, rfl⟩
  have small : c.toNat % Nat.pow 16 4 = c.toNat := Nat.mod_eq_of_lt (Nat.lt_trans low (by decide))
  rw [digits, small] at value
  have noSurrogate : isHighSurrogate c.toNat = false ∧ isLowSurrogate c.toNat = false := by
    constructor <;> simp [isHighSurrogate, isLowSurrogate] <;> omega
  simp [digits, readCharacter?, codeUnit?, value, noSurrogate]

theorem readCharacter?_escapedChar (c : Char) (rest : List Char) :
    readCharacter? (escapedChar c ++ rest) = some (some c, rest) := by
  rcases escapedChar_cases c with bare | ⟨letter, written, short⟩ | ⟨low, written⟩
  · rw [escapedChar_of_isBare bare]
    obtain ⟨noQuote, noBackslash, printable⟩ := bare
    have noControl : ¬ c.toNat < 0x20 := Nat.not_lt.mpr printable
    unfold readCharacter?
    split <;> simp_all
  · rw [written]
    exact readCharacter?_letter short rest
  · rw [written]
    exact readCharacter?_number low rest

/-- No character ends its string. -/
theorem escapedChar_eq_cons (c : Char) :
    ∃ first others, escapedChar c = first :: others ∧ first ≠ '"' := by
  rcases escapedChar_cases c with bare | ⟨letter, written, -⟩ | ⟨-, written⟩
  · exact ⟨c, [], escapedChar_of_isBare bare, bare.1⟩
  · exact ⟨_, _, written, by decide⟩
  · exact ⟨_, _, written, by decide⟩

theorem readStringBody?_cons (fuel : Nat) (c : Char) (rest : List Char) :
    readStringBody? (fuel + 1) (escapedChar c ++ rest) =
      (readStringBody? fuel rest).map fun (cs, rest) => (some c :: cs, rest) := by
  have character := readCharacter?_escapedChar c rest
  obtain ⟨first, others, written, noQuote⟩ := escapedChar_eq_cons c
  rw [written, List.cons_append] at character ⊢
  rw [readStringBody?, character]
  · simp only [Option.bind_eq_bind, Option.bind_some]
    cases readStringBody? fuel rest <;> rfl
  · intro more same
    exact noQuote (List.cons.inj same).1

theorem readStringBody?_escaped {text : List Char} {fuel : Nat} (enough : text.length < fuel)
    (rest : List Char) :
    readStringBody? fuel (text.flatMap escapedChar ++ '"' :: rest) =
      some (text.map some, rest) := by
  induction text generalizing fuel with
  | nil =>
    cases fuel with
    | zero => cases enough
    | succ fuel => rfl
  | cons c text ih =>
    cases fuel with
    | zero => cases enough
    | succ fuel =>
      rw [List.flatMap_cons, List.append_assoc, readStringBody?_cons,
        ih (Nat.lt_of_succ_lt_succ enough)]
      rfl

theorem readString?_escaped (text rest : List Char) :
    readString? (text.flatMap escapedChar ++ '"' :: rest) =
      some (some (String.ofList text), rest) := by
  -- There is fuel for each character that is written, and escaping makes no text shorter.
  have longer : text.length ≤ (text.flatMap escapedChar).length := by
    have each (c : Char) : 1 ≤ (escapedChar c).length := by
      obtain ⟨first, others, written, -⟩ := escapedChar_eq_cons c
      simp [written]
    induction text with
    | nil => exact Nat.le_refl _
    | cons c text ih =>
      have first := each c
      rw [List.flatMap_cons, List.length_append, List.length_cons]
      omega
  have enough : text.length < (text.flatMap escapedChar ++ '"' :: rest).length + 1 := by
    rw [List.length_append]
    omega
  have whole : (text.map some).mapM id = some text := by
    rw [List.mapM_map]
    simpa using List.mapM_pure (m := Option) (f := id) (l := text)
  rw [readString?, readStringBody?_escaped enough]
  simp [whole]

/-- Different strings have different texts. -/
theorem stringText_injective {text other : List Char} (same : stringText text = stringText other) :
    text = other := by
  have read := readString?_escaped text []
  have again := readString?_escaped other []
  have body : text.flatMap escapedChar ++ ['"'] = other.flatMap escapedChar ++ ['"'] :=
    (List.cons.inj same).2
  rw [body, again] at read
  exact (String.ofList_injective (by simpa using read)).symm

end SqlWeave.Json
