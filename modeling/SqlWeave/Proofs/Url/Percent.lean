import SqlWeave.Proofs.Text.Hexadecimal
import SqlWeave.Proofs.Text.Utf8
import SqlWeave.Url.Percent

/-!
# Percent-encoding undone

A text of which all but ASCII letters and digits is percent-encoded is found again by decoding
(`decodedBytes_encode`). It is as it was only if there was nothing to encode (`encode_eq_self_iff`).
-/
namespace SqlWeave.Url

/-! ### Letters and digits -/

theorem toNat_lt_of_isAlphanum {c : Char} (isAlphanum : c.isAlphanum = true) : c.toNat < 123 := by
  have kinds : (c.isUpper || c.isLower || c.isDigit) = true := isAlphanum
  have small {last : Char} (below : c.val ≤ last.val) (bound : last.toNat < 123) :
      c.toNat < 123 :=
    Nat.lt_of_le_of_lt (UInt32.le_iff_toNat_le.mp below) bound
  rw [Bool.or_eq_true, Bool.or_eq_true] at kinds
  rcases kinds with (upper | lower) | digit
  · exact small (of_decide_eq_true upper).2 (by decide)
  · exact small (of_decide_eq_true (Bool.and_eq_true_iff.mp lower).2) (by decide)
  · exact small (of_decide_eq_true (Bool.and_eq_true_iff.mp digit).2) (by decide)

/-- What holds of the ASCII letters and digits, checked on all of them. -/
theorem of_isAlphanum (holds : Char → Prop)
    (each : ∀ code < 123, (Char.ofNat code).isAlphanum = true → holds (Char.ofNat code)) {c : Char}
    (isAlphanum : c.isAlphanum = true) : holds c := by
  have here := each c.toNat (toNat_lt_of_isAlphanum isAlphanum)
  rw [Char.ofNat_toNat] at here
  exact here isAlphanum

/-- Letters, digits and percent signs, of which an encoded text consists. -/
def IsPlain (c : Char) : Prop := c.isAlphanum = true ∨ c = '%'

theorem of_isPlain (holds : Char → Prop)
    (each : ∀ code < 123, (Char.ofNat code).isAlphanum = true → holds (Char.ofNat code))
    (percent : holds '%') {c : Char} (plain : IsPlain c) : holds c := by
  rcases plain with isAlphanum | rfl
  · exact of_isAlphanum holds each isAlphanum
  · exact percent

/-- The text with all but letters and digits percent-encoded. -/
def encoded (text : String) : List Char := encode Char.isAlphanum text.toList

theorem isAlphanum_upperHexDigit (n : Nat) : (upperHexDigit n).isAlphanum = true := by
  have each : ∀ digit < 16, (Nat.digitChar digit).toUpper.isAlphanum = true := by decide
  exact each (n % 16) (Nat.mod_lt n (by decide))

theorem isPlain_of_mem_percentByte {b : UInt8} : ∀ c ∈ percentByte b, IsPlain c := by
  simp [percentByte, IsPlain, isAlphanum_upperHexDigit]

theorem isPlain_of_mem_encode {text : List Char} :
    ∀ c ∈ encode Char.isAlphanum text, IsPlain c := by
  intro c member
  obtain ⟨d, -, inside⟩ := List.mem_flatMap.mp member
  unfold encodeChar at inside
  split at inside
  next kept =>
    rw [List.mem_singleton] at inside
    exact .inl (inside ▸ kept)
  next =>
    obtain ⟨b, -, inside⟩ := List.mem_flatMap.mp inside
    exact isPlain_of_mem_percentByte c inside

/-! ### Decoding -/

theorem decode_cons {b : UInt8} (noPercent : b ≠ 0x25) (bytes : List UInt8) :
    decode (b :: bytes) = b :: decode bytes := by
  match bytes with
  | [] => rfl
  | [_] => rfl
  | _ :: _ :: _ => rw [decode, if_neg noPercent]

theorem utf8EncodeChar_upperHexDigit (n : Nat) :
    ∃ byte, String.utf8EncodeChar (upperHexDigit n) = [byte] ∧ hexByte? byte = some (n % 16) := by
  have each : ∀ digit < 16,
      String.utf8EncodeChar (Nat.digitChar digit).toUpper =
        [UInt8.ofNat (Nat.digitChar digit).toUpper.toNat] ∧
      hexByte? (UInt8.ofNat (Nat.digitChar digit).toUpper.toNat) = some digit := by decide
  exact ⟨_, each (n % 16) (Nat.mod_lt n (by decide))⟩

theorem decode_percentByte (b : UInt8) (bytes : List UInt8) :
    decode ((percentByte b).flatMap String.utf8EncodeChar ++ bytes) = b :: decode bytes := by
  obtain ⟨high, highByte, highValue⟩ := utf8EncodeChar_upperHexDigit (b.toNat / 16)
  obtain ⟨low, lowByte, lowValue⟩ := utf8EncodeChar_upperHexDigit b.toNat
  have percent : String.utf8EncodeChar '%' = [0x25] := by decide
  have small := b.toNat_lt
  have value : 16 * (b.toNat / 16 % 16) + b.toNat % 16 = b.toNat := by omega
  simp only [percentByte, List.flatMap_cons, List.flatMap_nil, percent, highByte, lowByte,
    List.append_nil, List.cons_append, List.nil_append]
  rw [decode, if_pos rfl, highValue, lowValue]
  simp [value]

theorem decode_percentBytes (encodedBytes bytes : List UInt8) :
    decode ((encodedBytes.flatMap percentByte).flatMap String.utf8EncodeChar ++ bytes) =
      encodedBytes ++ decode bytes := by
  induction encodedBytes with
  | nil => rfl
  | cons b encodedBytes ih =>
    rw [List.flatMap_cons, List.flatMap_append, List.append_assoc, decode_percentByte, ih,
      List.cons_append]

theorem utf8EncodeChar_of_isAlphanum {c : Char} (isAlphanum : c.isAlphanum = true) :
    String.utf8EncodeChar c = [UInt8.ofNat c.toNat] ∧ UInt8.ofNat c.toNat ≠ 0x25 :=
  of_isAlphanum (fun c => String.utf8EncodeChar c = [UInt8.ofNat c.toNat] ∧
    UInt8.ofNat c.toNat ≠ 0x25) (by decide) isAlphanum

theorem decode_encodeChar (c : Char) (bytes : List UInt8) :
    decode ((encodeChar Char.isAlphanum c).flatMap String.utf8EncodeChar ++ bytes) =
      String.utf8EncodeChar c ++ decode bytes := by
  unfold encodeChar
  split
  next kept =>
    obtain ⟨written, noPercent⟩ := utf8EncodeChar_of_isAlphanum kept
    rw [List.flatMap_singleton, written, List.singleton_append, decode_cons noPercent]
    rfl
  next => rw [Text.utf8Bytes_singleton, decode_percentBytes]

theorem decodedBytes_encode (text : List Char) :
    decodedBytes (encode Char.isAlphanum text) = Text.utf8Bytes (String.ofList text) := by
  rw [decodedBytes, Text.utf8Bytes_ofList, Text.utf8Bytes_ofList]
  induction text with
  | nil => rfl
  | cons c text ih =>
    rw [encode, List.flatMap_cons, List.flatMap_append, decode_encodeChar, List.flatMap_cons, ← ih]
    rfl

/-- Where a plus sign stands for a space, an encoded text has none. -/
theorem decodeForm_encoded (text : String) : decodeForm (encoded text) = text := by
  have noPlus : (encoded text).map (fun c => if c = '+' then ' ' else c) = encoded text := by
    have kept : ∀ c ∈ encoded text, (if c = '+' then ' ' else c) = c := fun c member =>
      if_neg (of_isPlain (· ≠ '+') (by decide) (by decide) (isPlain_of_mem_encode c member))
    rw [List.map_congr_left kept, List.map_id']
  rw [decodeForm, noPlus, encoded, decodedBytes_encode, String.ofList_toList, Text.ofUtf8Lossy,
    Text.ofUtf8?_utf8Bytes, Option.getD_some]

/-- ASCII characters stand for themselves, except for plus and percent signs. -/
theorem decodeForm_ascii {text : List Char}
    (ascii : ∀ c ∈ text, c.toNat < 128 ∧ c ≠ '+' ∧ c ≠ '%') :
    decodeForm text = String.ofList text := by
  have each : ∀ code < 128, String.utf8EncodeChar (Char.ofNat code) = [UInt8.ofNat code] ∧
      (Char.ofNat code ≠ '%' → UInt8.ofNat code ≠ 0x25) := by decide
  have noPlus : ∀ c ∈ text, (if c = '+' then ' ' else c) = c := fun c member =>
    if_neg (ascii c member).2.1
  have same : decodedBytes text = Text.utf8Bytes (String.ofList text) := by
    rw [decodedBytes, Text.utf8Bytes_ofList]
    -- Plus signs play no part in the bytes, and would be in the way of the induction.
    clear noPlus
    induction text with
    | nil => rfl
    | cons c text ih =>
      obtain ⟨⟨low, -, noPercent⟩, others⟩ := List.forall_mem_cons.mp ascii
      obtain ⟨written, different⟩ := each c.toNat low
      rw [Char.ofNat_toNat] at written different
      rw [List.flatMap_cons, written, List.singleton_append, decode_cons (different noPercent),
        ih others]
  rw [decodeForm, List.map_congr_left noPlus, List.map_id', same, Text.ofUtf8Lossy,
    Text.ofUtf8?_utf8Bytes, Option.getD_some]

/-! ### Encoding that changes nothing -/

section Kept

variable {keep : Char → Bool}

theorem encode_cons (c : Char) (text : List Char) :
    encode keep (c :: text) = encodeChar keep c ++ encode keep text := List.flatMap_cons

theorem encode_of_kept {text : List Char} (kept : ∀ c ∈ text, keep c = true) :
    encode keep text = text := by
  induction text with
  | nil => rfl
  | cons c text ih =>
    obtain ⟨first, others⟩ := List.forall_mem_cons.mp kept
    rw [encode_cons, encodeChar, if_pos first, ih others, List.singleton_append]

/-- Whatever is not kept takes more room. -/
theorem two_le_length_encodeChar {c : Char} (changed : keep c = false) :
    2 ≤ (encodeChar keep c).length := by
  obtain ⟨b, bytes, written⟩ : ∃ b bytes, Text.utf8Bytes (String.singleton c) = b :: bytes := by
    refine List.exists_cons_of_ne_nil (List.ne_nil_of_length_pos ?_)
    rw [Text.utf8Bytes_singleton, String.length_utf8EncodeChar]
    exact c.utf8Size_pos
  rw [encodeChar, if_neg (by simp [changed]), written, List.flatMap_cons, List.length_append]
  exact Nat.le_add_right_of_le (Nat.le_succ 2)

theorem one_le_length_encodeChar (c : Char) : 1 ≤ (encodeChar keep c).length := by
  cases kept : keep c with
  | true => simp [encodeChar, kept]
  | false => exact Nat.le_of_succ_le (two_le_length_encodeChar kept)

theorem length_le_length_encode (text : List Char) : text.length ≤ (encode keep text).length := by
  induction text with
  | nil => exact Nat.le_refl _
  | cons c text ih =>
    have first : 1 ≤ (encodeChar keep c).length := one_le_length_encodeChar c
    rw [encode_cons, List.length_append, List.length_cons]
    omega

theorem encode_eq_self_iff {text : List Char} :
    encode keep text = text ↔ ∀ c ∈ text, keep c = true := by
  refine ⟨fun same => ?_, encode_of_kept⟩
  induction text with
  | nil => exact List.forall_mem_nil _
  | cons c text ih =>
    have longer : text.length ≤ (encode keep text).length := length_le_length_encode text
    rw [encode_cons] at same
    have first : keep c = true := by
      by_contra changed
      have long : 2 ≤ (encodeChar keep c).length :=
        two_le_length_encodeChar (by simpa using changed)
      have lengths := congrArg List.length same
      rw [List.length_append, List.length_cons] at lengths
      omega
    rw [encodeChar, if_pos first] at same
    exact List.forall_mem_cons.mpr ⟨first, ih (List.cons.inj same).2⟩

theorem isEmpty_encode (text : List Char) : (encode keep text).isEmpty = text.isEmpty := by
  cases text with
  | nil => rfl
  | cons c text =>
    have longer : (c :: text).length ≤ (encode keep (c :: text)).length := length_le_length_encode _
    have nonempty : encode keep (c :: text) ≠ [] :=
      List.ne_nil_of_length_pos (Nat.lt_of_lt_of_le (Nat.succ_pos _) longer)
    simpa using nonempty

end Kept

end SqlWeave.Url
