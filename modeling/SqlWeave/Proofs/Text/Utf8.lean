import SqlWeave.Text.Utf8

/-!
# Texts and their bytes

The bytes of a text are those of its characters one after another (`utf8Bytes_ofList`), and the
text is found again in them and in no others (`ofUtf8?_eq_some_iff`).
-/
namespace SqlWeave.Text

private theorem toList_loop (bytes : ByteArray) (i : Nat) (front : List UInt8) :
    ByteArray.toList.loop bytes i front = front.reverse ++ bytes.data.toList.drop i := by
  fun_induction ByteArray.toList.loop bytes i front with
  | case1 i front inside ih =>
    have position : i < bytes.data.toList.length := by simpa using inside
    have byte : bytes.get! i = bytes.data[i] := getElem!_pos bytes.data i inside
    rw [ih, List.drop_eq_getElem_cons position, byte]
    simp
  | case2 i front outside =>
    rw [List.drop_eq_nil_of_le (by simpa using outside), List.append_nil]

theorem toList_eq_data (bytes : ByteArray) : bytes.toList = bytes.data.toList := by
  rw [ByteArray.toList, toList_loop]
  rfl

theorem utf8Bytes_ofList (text : List Char) :
    utf8Bytes (String.ofList text) = text.flatMap String.utf8EncodeChar := by
  rw [utf8Bytes, String.toUTF8, String.toByteArray_ofList, toList_eq_data, List.utf8Encode,
    List.toList_data_toByteArray]

theorem utf8Bytes_singleton (c : Char) :
    utf8Bytes (String.singleton c) = String.utf8EncodeChar c := by
  rw [String.singleton_eq_ofList, utf8Bytes_ofList, List.flatMap_singleton]

theorem ofUtf8?_utf8Bytes (text : String) : ofUtf8? (utf8Bytes text) = some text := by
  have bytes : (utf8Bytes text).toByteArray = text.toByteArray := by
    obtain ⟨characters, rfl⟩ : ∃ characters, text = String.ofList characters :=
      ⟨text.toList, String.ofList_toList.symm⟩
    rw [utf8Bytes_ofList, String.toByteArray_ofList, List.utf8Encode]
  rw [ofUtf8?, bytes]
  exact dif_pos text.isValidUTF8

/-- A byte of ASCII stands for a character of ASCII and is no part of another one. -/
theorem eq_of_mem_utf8EncodeChar {c : Char} {b : UInt8} (member : b ∈ String.utf8EncodeChar c)
    (ascii : b.toNat < 0x80) : c = Char.ofNat b.toNat := by
  -- All bytes of longer encodings are 0x80 or above.
  have absurd_of_high {n : Nat} (high : 0x80 ≤ n % 0x100) (byte : b = UInt8.ofNat n) : False := by
    rw [byte, UInt8.toNat_ofNat'] at ascii
    exact Nat.not_lt.mpr high ascii
  unfold String.utf8EncodeChar at member
  dsimp only at member
  split at member
  next low =>
    have code : b.toNat = c.toNat := by
      rw [List.mem_singleton.mp member, UInt8.toNat_ofNat']
      exact Nat.mod_eq_of_lt (Nat.lt_of_le_of_lt low (by decide))
    rw [code, Char.ofNat_toNat]
  split at member
  next =>
    simp only [List.mem_cons, List.not_mem_nil, or_false] at member
    rcases member with byte | byte <;> exact (absurd_of_high (by omega) byte).elim
  split at member
  next =>
    simp only [List.mem_cons, List.not_mem_nil, or_false] at member
    rcases member with byte | byte | byte <;> exact (absurd_of_high (by omega) byte).elim
  next =>
    simp only [List.mem_cons, List.not_mem_nil, or_false] at member
    rcases member with byte | byte | byte | byte <;> exact (absurd_of_high (by omega) byte).elim

/-- Valid bytes are those of one text. -/
theorem ofUtf8?_eq_some_iff {bytes : List UInt8} {text : String} :
    ofUtf8? bytes = some text ↔ bytes = utf8Bytes text := by
  constructor
  · intro read
    rw [ofUtf8?, String.fromUTF8?] at read
    split at read
    next =>
      cases read
      rw [utf8Bytes, toList_eq_data]
      exact List.toList_data_toByteArray.symm
    next => cases read
  · rintro rfl
    exact ofUtf8?_utf8Bytes text

end SqlWeave.Text
