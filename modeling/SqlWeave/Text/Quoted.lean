import SqlWeave.Text.Decimal
import SqlWeave.Text.Unprintable

/-!
# Quoted text in messages

Messages show a text that came from a caller between double quotes. Quotes and backslashes are
escaped, the common controls have letters, and a character that does not print is shown by its
number, so that the reader of a log sees where the text begins and ends.
-/
namespace SqlWeave.Text

/-- The spelling of one character inside a quoted text. -/
def quotedChar (c : Char) : List Char :=
  if c = '"' then ['\\', '"']
  else if c = '\\' then ['\\', '\\']
  else if c = '\n' then ['\\', 'n']
  else if c = '\r' then ['\\', 'r']
  else if c = '\t' then ['\\', 't']
  else if c = '\x00' then ['\\', '0']
  else if isUnprintable c then ['\\', 'u', '\x7b'] ++ Nat.toDigits 16 c.toNat ++ ['\x7d']
  else [c]

/-- A text between double quotes, as messages show it. -/
def quoted (text : String) : String :=
  String.ofList ('"' :: text.toList.flatMap quotedChar ++ ['"'])

end SqlWeave.Text
