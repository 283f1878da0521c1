import SqlWeave.Text.Decimal

/-!
# UUIDs

A UUID is a number of 128 bits. It is written as 32 hexadecimal digits in groups of 8, 4, 4, 4
and 12; it is read with or without the hyphens, and in the long form also in braces or after
`urn:uuid:`.
-/
namespace SqlWeave

structure Uuid where
  value : BitVec 128
deriving DecidableEq, Repr

namespace Uuid

def digits (u : Uuid) : List Char := Text.hexPadded 32 u.value.toNat

/-- Puts hyphens after the digits 8, 12, 16 and 20. -/
def hyphenate (digits : List Char) : List Char :=
  digits.take 8 ++ '-' :: (digits.drop 8).take 4 ++ '-' :: (digits.drop 12).take 4 ++ '-' ::
    (digits.drop 16).take 4 ++ '-' :: digits.drop 20

def text (u : Uuid) : String := String.ofList (hyphenate u.digits)

/-- Exactly 32 hexadecimal digits. -/
def ofDigits? (digits : List Char) : Option Uuid :=
  if digits.length = 32 then
    (Text.readHex? digits).map fun value => ⟨BitVec.ofNat 128 value⟩
  else none

def ofHyphenated? (text : List Char) : Option Uuid :=
  let digits := text.take 8 ++ (text.drop 9).take 4 ++ (text.drop 14).take 4 ++
    (text.drop 19).take 4 ++ text.drop 24
  if text = hyphenate digits then ofDigits? digits else none

/-- Reads a UUID in any of its spellings. -/
def read? (text : List Char) : Option Uuid :=
  if text.length = 32 then ofDigits? text
  else if text.length = 36 then ofHyphenated? text
  else if text.length = 38 ∧ text.head? = some '\x7b' ∧ text.getLast? = some '\x7d' then
    ofHyphenated? ((text.drop 1).take 36)
  else if text.length = 45 ∧ text.take 9 = "urn:uuid:".toList then ofHyphenated? (text.drop 9)
  else none

end Uuid

end SqlWeave
