import SqlWeave.Proofs.Statement.Tokens
import SqlWeave.Proofs.Text.Utf8

/-!
# Scanning bytes

`Statement.scan` goes through the characters of a text. A loop over the bytes of its UTF-8 form,
which knows nothing of characters, finds the same: it steps over one byte, or over a dollar sign and
the digits behind it (`Scanner.next?`). It comes to its end, after at most one round for each byte
(`Scanner.exists_ends`), because a byte of ASCII is never part of another character. With the tokens
of a text this says all about scanning and adopting it (`scan_exact`).
-/
namespace SqlWeave.Statement

open Text (Digits byteLength)

/-- How far a loop over bytes has come, and what it has found. -/
structure Scanner where
  position : Nat
  found : List Placeholder

namespace Scanner

def isDigitByte (b : UInt8) : Bool := 0x30 ≤ b && b ≤ 0x39

/-- The number of 64 bits that the bytes spell. -/
def number? (digits : List UInt8) : Option Nat := do
  let text ← Text.ofUtf8? digits
  (Text.readDecimal? text.toList).filter (· < Text.wordCount)

/-- One round of the loop, unless it is at the end of the bytes. -/
def next? (bytes : List UInt8) (scanner : Scanner) : Option Scanner := do
  let b ← bytes[scanner.position]?
  if b = 0x24 then
    let digits := (bytes.drop (scanner.position + 1)).takeWhile isDigitByte
    let stop := scanner.position + 1 + digits.length
    let found := (number? digits).map fun index => (⟨scanner.position, stop, index⟩ : Placeholder)
    some ⟨stop, scanner.found ++ found.toList⟩
  else some { scanner with position := scanner.position + 1 }

/-- The loop ends after so many rounds, with the last of the scanners. -/
inductive Ends (bytes : List UInt8) : Nat → Scanner → Scanner → Prop
  | done {last : Scanner} (atEnd : next? bytes last = none) : Ends bytes 0 last last
  | round {rounds : Nat} {scanner next last : Scanner} (step : next? bytes scanner = some next)
      (rest : Ends bytes rounds next last) : Ends bytes (rounds + 1) scanner last

/-! ### Rounds over bytes -/

variable {found : List Placeholder}

theorem next?_end (bytes : List UInt8) : next? bytes ⟨bytes.length, found⟩ = none := by
  simp [next?]

theorem next?_dollar (front rest : List UInt8) :
    next? (front ++ 0x24 :: rest) ⟨front.length, found⟩ =
      some ⟨front.length + 1 + (rest.takeWhile isDigitByte).length, found ++
        ((number? (rest.takeWhile isDigitByte)).map fun index =>
          (⟨front.length, front.length + 1 + (rest.takeWhile isDigitByte).length, index⟩ :
            Placeholder)).toList⟩ := by
  have behind : (front ++ 0x24 :: rest).drop (front.length + 1) = rest := by
    rw [List.drop_append]
    simp
  simp [next?, behind]

theorem next?_other {b : UInt8} (plain : b ≠ 0x24) (front rest : List UInt8) :
    next? (front ++ b :: rest) ⟨front.length, found⟩ = some ⟨front.length + 1, found⟩ := by
  simp [next?, plain]

/-- Bytes that are no dollar sign take one round each. -/
theorem Ends.skip {front chunk back : List UInt8} {rounds : Nat} {last : Scanner}
    (plain : ∀ b ∈ chunk, b ≠ 0x24)
    (rest : Ends (front ++ chunk ++ back) rounds ⟨(front ++ chunk).length, found⟩ last) :
    Ends (front ++ chunk ++ back) (rounds + chunk.length) ⟨front.length, found⟩ last := by
  induction chunk generalizing front with
  | nil => simpa using rest
  | cons b chunk ih =>
    obtain ⟨first, others⟩ := List.forall_mem_cons.mp plain
    have moved : Ends (front ++ [b] ++ chunk ++ back) rounds
        ⟨(front ++ [b] ++ chunk).length, found⟩ last := by simpa using rest
    have step : next? (front ++ b :: chunk ++ back) ⟨front.length, found⟩ =
        some ⟨front.length + 1, found⟩ := by
      rw [List.append_assoc, List.cons_append]
      exact next?_other first front (chunk ++ back)
    have later := ih others moved
    rw [List.append_assoc front [b] chunk, List.length_append] at later
    exact .round step later

/-! ### From bytes to characters -/

theorem isDigitByte_iff {b : UInt8} :
    isDigitByte b = true ↔ 48 ≤ b.toNat ∧ b.toNat < 58 := by
  simp only [isDigitByte, Bool.and_eq_true, decide_eq_true_eq, UInt8.le_iff_toNat_le]
  exact and_congr Iff.rfl Nat.lt_succ_iff.symm

theorem dollar_notMem_utf8EncodeChar {c : Char} (plain : c ≠ '$') :
    ∀ b ∈ String.utf8EncodeChar c, b ≠ 0x24 := by
  rintro b member rfl
  exact plain (Text.eq_of_mem_utf8EncodeChar member (by decide))

theorem isDigit_of_isDigitByte {c : Char} {b : UInt8} (member : b ∈ String.utf8EncodeChar c)
    (digit : isDigitByte b = true) : c.isDigit = true := by
  have each : ∀ code < 58, 48 ≤ code → (Char.ofNat code).isDigit = true := by decide
  obtain ⟨low, high⟩ := isDigitByte_iff.mp digit
  rw [Text.eq_of_mem_utf8EncodeChar member (Nat.lt_trans high (by decide))]
  exact each b.toNat high low

theorem utf8EncodeChar_of_isDigit {c : Char} (digit : c.isDigit = true) :
    String.utf8EncodeChar c = [UInt8.ofNat c.toNat] ∧ isDigitByte (UInt8.ofNat c.toNat) = true :=
  Text.of_isDigit (fun c => String.utf8EncodeChar c = [UInt8.ofNat c.toNat] ∧
    isDigitByte (UInt8.ofNat c.toNat) = true) (by decide) digit

theorem takeWhile_isDigitByte (text : List Char) :
    (text.flatMap String.utf8EncodeChar).takeWhile isDigitByte =
      (text.takeWhile Char.isDigit).flatMap String.utf8EncodeChar := by
  induction text with
  | nil => rfl
  | cons c text ih =>
    rw [List.flatMap_cons]
    cases digit : c.isDigit with
    | true =>
      obtain ⟨encoded, digitByte⟩ := utf8EncodeChar_of_isDigit digit
      rw [List.takeWhile_cons_of_pos digit, List.flatMap_cons, encoded, List.singleton_append,
        List.takeWhile_cons_of_pos digitByte, ih, List.singleton_append]
    | false =>
      rw [List.takeWhile_cons_of_neg (by simp [digit]), List.flatMap_nil]
      -- The first byte of a character that is no digit is no digit either, so both stop here.
      cases encoded : String.utf8EncodeChar c with
      | nil =>
        have size := String.length_utf8EncodeChar c
        rw [encoded] at size
        exact absurd size.symm (Nat.ne_of_gt c.utf8Size_pos)
      | cons b bytes =>
        have noDigit : ¬ isDigitByte b = true := by
          intro digitByte
          have isDigit := isDigit_of_isDigitByte (encoded ▸ List.mem_cons_self) digitByte
          rw [digit] at isDigit
          cases isDigit
        exact List.takeWhile_cons_of_neg noDigit

theorem length_encoded (text : List Char) :
    (text.flatMap String.utf8EncodeChar).length = byteLength text := by
  induction text with
  | nil => rfl
  | cons c text ih =>
    rw [List.flatMap_cons, List.length_append, String.length_utf8EncodeChar, ih,
      Text.byteLength_cons]

theorem number?_encoded (digits : List Char) :
    number? (digits.flatMap String.utf8EncodeChar) =
      (Text.readDecimal? digits).filter (· < Text.wordCount) := by
  rw [number?, ← Text.utf8Bytes_ofList, Text.ofUtf8?_utf8Bytes]
  simp

/-! ### The whole loop -/

/-- At a dollar sign the loop does what the scanner does. -/
theorem next?_encoded_dollar (before text : List Char) :
    next? ((before ++ '$' :: text).flatMap String.utf8EncodeChar) ⟨byteLength before, found⟩ =
      some ⟨byteLength before + byteLength ('$' :: text.takeWhile Char.isDigit),
        found ++ (tokenAt? (byteLength before) text).toList⟩ := by
  have bytes : (before ++ '$' :: text).flatMap String.utf8EncodeChar =
      before.flatMap String.utf8EncodeChar ++ 0x24 :: text.flatMap String.utf8EncodeChar := by
    rw [List.flatMap_append, List.flatMap_cons]
    rfl
  rw [bytes, ← length_encoded before, next?_dollar, takeWhile_isDigitByte, number?_encoded,
    length_encoded (text.takeWhile Char.isDigit), tokenAt?, Text.byteLength_cons, Nat.add_assoc]
  rfl

private theorem ends_from (before text : List Char) (found : List Placeholder) :
    ∃ rounds ≤ byteLength text, Ends ((before ++ text).flatMap String.utf8EncodeChar) rounds
      ⟨byteLength before, found⟩
      ⟨byteLength (before ++ text), found ++ scan (byteLength before) text⟩ := by
  -- The bytes are those of the whole text, so what the loop has passed stays in the statement.
  induction text using stretches generalizing before found with
  | nil =>
    refine ⟨0, Nat.le_refl 0, ?_⟩
    rw [List.append_nil, scan, List.append_nil, ← length_encoded]
    exact .done (next?_end _)
  | dollar text ih =>
    have whole : before ++ '$' :: text.takeWhile Char.isDigit ++ text.dropWhile Char.isDigit =
        before ++ '$' :: text := by
      rw [List.append_assoc, List.cons_append, List.takeWhile_append_dropWhile]
    have size : byteLength text = byteLength (text.takeWhile Char.isDigit) +
        byteLength (text.dropWhile Char.isDigit) := by
      rw [← Text.byteLength_append, List.takeWhile_append_dropWhile]
    obtain ⟨rounds, few, ends⟩ := ih (before ++ '$' :: text.takeWhile Char.isDigit)
      (found ++ (tokenAt? (byteLength before) text).toList)
    rw [whole, Text.byteLength_append before ('$' :: text.takeWhile Char.isDigit),
      List.append_assoc found, ← scan_dollar] at ends
    have dollar := Char.utf8Size_pos '$'
    refine ⟨rounds + 1, by rw [Text.byteLength_cons]; omega, ?_⟩
    exact .round (next?_encoded_dollar before text) ends
  | other c text plain ih =>
    have bytes : (before ++ c :: text).flatMap String.utf8EncodeChar =
        before.flatMap String.utf8EncodeChar ++ String.utf8EncodeChar c ++
          text.flatMap String.utf8EncodeChar := by
      rw [List.flatMap_append, List.flatMap_cons, List.append_assoc]
    have passed : (before.flatMap String.utf8EncodeChar ++ String.utf8EncodeChar c).length =
        byteLength before + byteLength [c] := by
      rw [List.length_append, length_encoded, String.length_utf8EncodeChar]
      rfl
    obtain ⟨rounds, few, ends⟩ := ih (before ++ [c]) found
    rw [List.append_assoc, List.singleton_append, bytes, Text.byteLength_append before [c],
      ← passed] at ends
    have skipped := ends.skip (dollar_notMem_utf8EncodeChar plain)
    rw [passed, length_encoded, String.length_utf8EncodeChar] at skipped
    refine ⟨rounds + c.utf8Size, by rw [Text.byteLength_cons]; omega, ?_⟩
    rw [bytes, scan_other _ plain]
    exact skipped

theorem exists_ends (text : String) :
    ∃ rounds ≤ (Text.utf8Bytes text).length, Ends (Text.utf8Bytes text) rounds ⟨0, []⟩
      ⟨(Text.utf8Bytes text).length, scan 0 text.toList⟩ := by
  have ends := ends_from [] text.toList []
  rw [List.nil_append, ← length_encoded, ← Text.utf8Bytes_ofList, String.ofList_toList] at ends
  exact ends

end Scanner

/-- The loop ends, and what it finds are the tokens of the text from left to right; the text can be
adopted, as it stands, exactly if each of them refers to a value. -/
theorem scan_exact (text : String) :
    (∃ rounds ≤ (Text.utf8Bytes text).length, Scanner.Ends (Text.utf8Bytes text) rounds ⟨0, []⟩
      ⟨(Text.utf8Bytes text).length, scan 0 text.toList⟩) ∧
    ((scan 0 text.toList).Pairwise fun p q => p.start < q.start ∧ p.stop ≤ q.start) ∧
    (∀ p, p ∈ scan 0 text.toList ↔ IsToken text.toList p) ∧
    ∀ values,
      (adopt? text values = none ↔
        ∃ p, IsToken text.toList p ∧ (p.index = 0 ∨ values.length < p.index)) ∧
      ∀ s, adopt? text values = some s → s = ⟨text, values, scan 0 text.toList, none⟩ := by
  refine ⟨Scanner.exists_ends text, scan_ordered 0 text.toList, fun p => mem_scan_iff, ?_⟩
  intro values
  exact ⟨adopt?_eq_none_iff, fun s => eq_of_adopt?⟩

/-- A dollar sign before another one, digits of another script and a lone dollar sign at the end are
no tokens; zeros in front are part of one. -/
example : scan 0 "$$1é$007$٣$".toList = [⟨1, 3, 1⟩, ⟨5, 9, 7⟩] := by cbv

end SqlWeave.Statement
