import SqlWeave.Proofs.Text.Hexadecimal
import SqlWeave.Uuid

/-!
# Spellings of UUIDs

The text of a UUID is read back as that UUID, whatever the case of its letters and with or without
its hyphens (`Spells.read?_eq`).
-/
namespace SqlWeave.Uuid

/-- The text of a UUID up to the case of letters, with all its hyphens or with none. -/
def Spells (u : Uuid) (text : List Char) : Prop :=
  text.map Char.toLower = u.text.toList ∨
    text.map Char.toLower = u.text.toList.filter (· ≠ '-')

/-! ### Digits -/

theorem length_digits (u : Uuid) : u.digits.length = 32 := Text.length_hexPadded 32 _

theorem ofDigits?_digits (u : Uuid) : ofDigits? u.digits = some u := by
  have small : u.value.toNat % Nat.pow 16 32 = u.value.toNat := Nat.mod_eq_of_lt u.value.isLt
  rw [ofDigits?, if_pos u.length_digits, digits, Text.readHex?_hexPadded, small]
  simp

theorem ofDigits?_map_toLower (text : List Char) :
    ofDigits? (text.map Char.toLower) = ofDigits? text := by
  rw [ofDigits?, ofDigits?, List.length_map, Text.readHex?_map_toLower]

/-- No digit is a hyphen. -/
theorem filter_digits (u : Uuid) : u.digits.filter (· ≠ '-') = u.digits := by
  rw [List.filter_eq_self]
  intro c member
  obtain ⟨digit, isDigit⟩ : ∃ digit, Text.hexValue? c = some digit :=
    Text.hexValue?_of_readHex? (Text.readHex?_hexPadded 32 _) c member
  rw [decide_eq_true_eq]
  rintro rfl
  cases isDigit

/-! ### Hyphens -/

/-- The digits in their groups of 8, 4, 4, 4 and 12. -/
theorem exists_groups {digits : List Char} (length : digits.length = 32) :
    ∃ a b c d e : List Char, a.length = 8 ∧ b.length = 4 ∧ c.length = 4 ∧ d.length = 4 ∧
      digits = a ++ (b ++ (c ++ (d ++ e))) := by
  have cut (start : Nat) :
      digits.drop start = (digits.drop start).take 4 ++ digits.drop (start + 4) := by
    rw [← List.drop_drop, List.take_append_drop]
  refine ⟨digits.take 8, (digits.drop 8).take 4, (digits.drop 12).take 4, (digits.drop 16).take 4,
    digits.drop 20, by simp [length], by simp [length], by simp [length], by simp [length], ?_⟩
  rw [← cut 16, ← cut 12, ← cut 8, List.take_append_drop]

section Groups

variable {a b c d : List Char} (ha : a.length = 8) (hb : b.length = 4) (hc : c.length = 4)
  (hd : d.length = 4) (e : List Char)
include ha hb hc hd

theorem hyphenate_groups :
    hyphenate (a ++ (b ++ (c ++ (d ++ e)))) =
      a ++ '-' :: (b ++ '-' :: (c ++ '-' :: (d ++ '-' :: e))) := by
  simp (disch := omega) [hyphenate, List.drop_append, List.drop_of_length_le, ha, hb, hc]

theorem ofHyphenated?_groups :
    ofHyphenated? (a ++ '-' :: (b ++ '-' :: (c ++ '-' :: (d ++ '-' :: e)))) =
      ofDigits? (a ++ (b ++ (c ++ (d ++ e)))) := by
  rw [ofHyphenated?]
  simp (disch := omega) [List.drop_append, List.drop_of_length_le, hyphenate_groups ha hb hc hd,
    ha, hb, hc, hd]

end Groups

theorem toLower_eq_hyphen_iff {c : Char} : c.toLower = '-' ↔ c = '-' := by
  constructor
  · intro lower
    unfold Char.toLower at lower
    split at lower
    next upper =>
      have code := congrArg (fun d => d.val.toNat) lower
      simp only [ge_iff_le, UInt32.le_iff_toNat_le] at upper
      simp at code upper
      omega
    next => exact lower
  · rintro rfl
    rfl

/-- What is a hyphenated text in small letters is hyphenated in the same places. -/
theorem exists_hyphenate_of_map {text digits : List Char} (length : digits.length = 32)
    (same : text.map Char.toLower = hyphenate digits) :
    ∃ found, text = hyphenate found ∧ found.map Char.toLower = digits := by
  obtain ⟨a, b, c, d, e, ha, hb, hc, hd, rfl⟩ := exists_groups length
  rw [hyphenate_groups ha hb hc hd] at same
  simp only [List.map_eq_append_iff, List.map_eq_cons_iff, toLower_eq_hyphen_iff] at same
  obtain ⟨a, _, rfl, rfl, _, _, rfl, rfl, b, _, rfl, rfl, _, _, rfl, rfl, c, _, rfl, rfl, _, _, rfl,
    rfl, d, _, rfl, rfl, _, e, rfl, rfl, rfl⟩ := same
  rw [List.length_map] at ha hb hc hd
  exact ⟨a ++ (b ++ (c ++ (d ++ e))), (hyphenate_groups ha hb hc hd e).symm, by simp⟩

theorem mem_hyphenate {digits : List Char} {c : Char} (member : c ∈ hyphenate digits) :
    c = '-' ∨ c ∈ digits := by
  have group {start size : Nat} (inside : c ∈ (digits.drop start).take size) : c ∈ digits :=
    List.mem_of_mem_drop (List.mem_of_mem_take inside)
  simp only [hyphenate, List.mem_append, List.mem_cons] at member
  rcases member with
    (((first | hyphen | second) | hyphen | third) | hyphen | fourth) | hyphen | last
  · exact .inr (List.mem_of_mem_take first)
  · exact .inl hyphen
  · exact .inr (group second)
  · exact .inl hyphen
  · exact .inr (group third)
  · exact .inl hyphen
  · exact .inr (group fourth)
  · exact .inl hyphen
  · exact .inr (List.mem_of_mem_drop last)

/-! ### Whole texts -/

theorem length_hyphenate {digits : List Char} (length : digits.length = 32) :
    (hyphenate digits).length = 36 := by
  simp [hyphenate, length]

theorem ofHyphenated?_hyphenate {digits : List Char} (length : digits.length = 32) :
    ofHyphenated? (hyphenate digits) = ofDigits? digits := by
  obtain ⟨a, b, c, d, e, ha, hb, hc, hd, rfl⟩ := exists_groups length
  rw [hyphenate_groups ha hb hc hd, ofHyphenated?_groups ha hb hc hd]

theorem filter_hyphenate {digits : List Char} (length : digits.length = 32) :
    (hyphenate digits).filter (· ≠ '-') = digits.filter (· ≠ '-') := by
  obtain ⟨a, b, c, d, e, ha, hb, hc, hd, rfl⟩ := exists_groups length
  rw [hyphenate_groups ha hb hc hd]
  simp

/-- Digits in either case, with hyphens or without. -/
theorem Spells.read?_eq {u : Uuid} {text : List Char} (spells : u.Spells text) :
    read? text = some u := by
  rw [Spells, Uuid.text, String.toList_ofList, filter_hyphenate u.length_digits,
    filter_digits] at spells
  rcases spells with hyphenated | plain
  · obtain ⟨found, rfl, same⟩ := exists_hyphenate_of_map u.length_digits hyphenated
    have length : found.length = 32 := by rw [← List.length_map, same, length_digits]
    rw [read?, length_hyphenate length, if_neg (by decide), if_pos rfl,
      ofHyphenated?_hyphenate length, ← ofDigits?_map_toLower, same, ofDigits?_digits]
  · have length : text.length = 32 := by rw [← List.length_map, plain, length_digits]
    rw [read?, if_pos length, ← ofDigits?_map_toLower, plain, ofDigits?_digits]

theorem read?_text (u : Uuid) : read? u.text.toList = some u := by
  refine Spells.read?_eq (.inl ?_)
  -- The digits are small already.
  have small : u.digits.map Char.toLower = u.digits := Text.map_toLower_hexPadded 32 _
  rw [Uuid.text, String.toList_ofList]
  conv => rhs; rw [← small]
  simp [hyphenate, List.map_take, List.map_drop]

/-! ### Texts of other things -/

theorem hexValue?_of_ofDigits? {text : List Char} {u : Uuid} (read : ofDigits? text = some u) :
    ∀ c ∈ text, ∃ digit, Text.hexValue? c = some digit := by
  unfold ofDigits? at read
  split at read
  next =>
    obtain ⟨value, digits, -⟩ := Option.map_eq_some_iff.mp read
    exact Text.hexValue?_of_readHex? digits
  next => cases read

theorem hexValue?_of_ofHyphenated? {text : List Char} {u : Uuid}
    (read : ofHyphenated? text = some u) :
    ∀ c ∈ text, c = '-' ∨ ∃ digit, Text.hexValue? c = some digit := by
  simp only [ofHyphenated?] at read
  split at read
  next hyphenated =>
    intro c member
    rw [hyphenated] at member
    exact (mem_hyphenate member).imp_right (hexValue?_of_ofDigits? read c)
  next => cases read

/-- No spelling of a UUID ends with this letter. -/
theorem read?_eq_none_of_getLast? {text : List Char} (last : text.getLast? = some 'Z') :
    read? text = none := by
  have member : 'Z' ∈ text := List.mem_of_getLast? last
  have noDigit : ¬ ∃ digit, Text.hexValue? 'Z' = some digit := by
    rintro ⟨digit, isDigit⟩
    cases isDigit
  rw [← Option.not_isSome_iff_eq_none, Option.isSome_iff_exists]
  rintro ⟨u, read⟩
  unfold read? at read
  split_ifs at read with plain hyphenated braced urn
  · exact noDigit (hexValue?_of_ofDigits? read _ member)
  · exact noDigit ((hexValue?_of_ofHyphenated? read _ member).resolve_left (by decide))
  · rw [last] at braced
    exact absurd braced.2.2 (by decide)
  · have behind : 'Z' ∈ text.drop 9 := by
      refine List.mem_of_getLast? ?_
      rw [List.getLast?_drop, if_neg (by omega), last]
    exact noDigit ((hexValue?_of_ofHyphenated? read _ behind).resolve_left (by decide))

end SqlWeave.Uuid
