/-!
# Text as bytes

Positions in a statement's text are counted in the bytes of its UTF-8 form. This module measures
and cuts a text by bytes, never inside a character, and turns texts into bytes and back.
-/
namespace SqlWeave.Text

/-- The number of bytes of a text in UTF-8. -/
def byteLength (text : List Char) : Nat := text.foldr (fun c size => c.utf8Size + size) 0

@[simp] theorem byteLength_nil : byteLength [] = 0 := rfl

@[simp] theorem byteLength_cons (c : Char) (text : List Char) :
    byteLength (c :: text) = c.utf8Size + byteLength text := by
  simp [byteLength]

@[simp] theorem byteLength_append (a b : List Char) :
    byteLength (a ++ b) = byteLength a + byteLength b := by
  induction a with
  | nil => simp
  | cons c a ih => simp [ih, Nat.add_assoc]

/-- The byte length of a string is that of its characters. -/
theorem utf8ByteSize_eq_byteLength (s : String) : s.utf8ByteSize = byteLength s.toList := by
  conv => lhs; rw [← String.ofList_toList (s := s)]
  generalize s.toList = text
  induction text with
  | nil => rfl
  | cons c text ih =>
    rw [String.ofList_cons, String.utf8ByteSize_append, ih]
    simp

/-- The longest beginning of whole characters that takes at most `budget` bytes, and the rest. -/
def splitBytes (budget : Nat) : List Char → List Char × List Char
  | [] => ([], [])
  | c :: text =>
    if c.utf8Size ≤ budget then
      let (taken, rest) := splitBytes (budget - c.utf8Size) text
      (c :: taken, rest)
    else ([], c :: text)

/-- Cutting loses nothing. -/
theorem splitBytes_append (budget : Nat) (text : List Char) :
    (splitBytes budget text).1 ++ (splitBytes budget text).2 = text := by
  induction text generalizing budget with
  | nil => rfl
  | cons c text ih =>
    simp only [splitBytes]
    split
    · simp [ih]
    · rfl

/-- The first part stays within the budget. -/
theorem byteLength_splitBytes_le (budget : Nat) (text : List Char) :
    byteLength (splitBytes budget text).1 ≤ budget := by
  induction text generalizing budget with
  | nil => simp [splitBytes]
  | cons c text ih =>
    simp only [splitBytes]
    split
    · next fits =>
      have := ih (budget - c.utf8Size)
      simp only [byteLength_cons]
      omega
    · simp

/-- A cut at the end of a beginning gives that beginning. -/
theorem splitBytes_byteLength_append (a b : List Char) :
    splitBytes (byteLength a) (a ++ b) = (a, (splitBytes 0 b).1 ++ (splitBytes 0 b).2) := by
  induction a with
  | nil =>
    cases b with
    | nil => rfl
    | cons c b =>
      have := c.utf8Size_pos
      simp only [byteLength_nil, List.nil_append, splitBytes]
      split
      · omega
      · rfl
  | cons c a ih =>
    simp only [byteLength_cons, List.cons_append, splitBytes, Nat.le_add_right, ite_true,
      Nat.add_sub_cancel_left, ih]

theorem splitBytes_byteLength (a b : List Char) : splitBytes (byteLength a) (a ++ b) = (a, b) := by
  rw [splitBytes_byteLength_append, splitBytes_append]

def utf8Bytes (text : String) : List UInt8 := text.toUTF8.toList

/-- The text that the bytes stand for, if they are valid UTF-8. -/
def ofUtf8? (bytes : List UInt8) : Option String := String.fromUTF8? bytes.toByteArray

/--
How many bytes follow the lead byte `b`, and the range that the first of them has to lie in; none
for a byte that starts no character.
-/
def continuationOf (b : UInt8) : Option (Nat × UInt8 × UInt8) :=
  if 0xC2 ≤ b && b ≤ 0xDF then some (1, 0x80, 0xBF)
  else if b = 0xE0 then some (2, 0xA0, 0xBF)
  else if b = 0xED then some (2, 0x80, 0x9F)
  else if 0xE1 ≤ b && b ≤ 0xEF then some (2, 0x80, 0xBF)
  else if b = 0xF0 then some (3, 0x90, 0xBF)
  else if 0xF1 ≤ b && b ≤ 0xF3 then some (3, 0x80, 0xBF)
  else if b = 0xF4 then some (3, 0x80, 0x8F)
  else none

/-- The bytes after a lead byte that go on with its character, at most `missing` of them. -/
def continuationBytes (missing : Nat) (low high : UInt8) : List UInt8 → List UInt8
  | [] => []
  | b :: bytes =>
    match missing with
    | 0 => []
    | missing + 1 =>
      if low ≤ b && b ≤ high then b :: continuationBytes missing 0x80 0xBF bytes else []

/-- The character of a lead byte followed by `tail`. -/
def charOfBytes (lead : UInt8) (tail : List UInt8) : Char :=
  let start := match tail.length with
    | 1 => lead.toNat % 0x20
    | 2 => lead.toNat % 0x10
    | _ => lead.toNat % 0x08
  Char.ofNat (tail.foldl (fun code b => code * 0x40 + b.toNat % 0x40) start)

/--
Reads bytes that may be no valid UTF-8. Each longest beginning of a character that breaks off,
and each byte that starts none, becomes one replacement character U+FFFD.
-/
def decodeLossy : List UInt8 → List Char
  | [] => []
  | b :: bytes =>
    if b < 0x80 then Char.ofNat b.toNat :: decodeLossy bytes
    else match continuationOf b with
      | none => '\uFFFD' :: decodeLossy bytes
      | some (missing, low, high) =>
        let tail := continuationBytes missing low high bytes
        let c := if tail.length = missing then charOfBytes b tail else '\uFFFD'
        c :: decodeLossy (bytes.drop tail.length)
termination_by bytes => bytes.length
decreasing_by all_goals simp; try omega

/-- Reads valid UTF-8 exactly, and anything else with replacement characters. -/
def ofUtf8Lossy (bytes : List UInt8) : String :=
  (ofUtf8? bytes).getD (String.ofList (decodeLossy bytes))

end SqlWeave.Text
