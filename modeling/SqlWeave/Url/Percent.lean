import SqlWeave.Text.Decimal
import SqlWeave.Text.Utf8

/-!
# Percent-encoding

A byte can be written as a percent sign and two hexadecimal digits. Each part of a URL has its own
set of characters that stand for themselves; all others are written by the bytes of their UTF-8
form. Decoding works on bytes and leaves a percent sign that no two digits follow.
-/
namespace SqlWeave.Url

def upperHexDigit (n : Nat) : Char := (Text.hexDigit n).toUpper

/-- A byte as a percent sign and two digits. -/
def percentByte (b : UInt8) : List Char :=
  ['%', upperHexDigit (b.toNat / 16), upperHexDigit b.toNat]

/-- A character as itself if it is kept, else as its bytes. -/
def encodeChar (keep : Char → Bool) (c : Char) : List Char :=
  if keep c then [c] else (Text.utf8Bytes (String.singleton c)).flatMap percentByte

def encode (keep : Char → Bool) (text : List Char) : List Char := text.flatMap (encodeChar keep)

/-- Printable ASCII and the space. -/
def isVisible (c : Char) : Bool := 0x20 ≤ c.toNat && c.toNat < 0x7F

/-- The characters that stand for themselves in a host that is no domain. -/
def keptInHost (c : Char) : Bool := isVisible c

/-- Visible characters that a path cannot hold as they are. -/
def reservedInPath : List Char := [' ', '"', '<', '>', '\x60', '#', '?', '\x7b', '\x7d']

/-- The characters that stand for themselves in a path. -/
def keptInPath (c : Char) : Bool := isVisible c && !reservedInPath.contains c

/-- What a path can hold as it is, and a user name or a password cannot. -/
def reservedInUserinfo : List Char := ['/', ':', ';', '=', '@', '[', '\\', ']', '^', '|']

/-- The characters that stand for themselves in a user name or a password. -/
def keptInUserinfo (c : Char) : Bool :=
  keptInPath c && !reservedInUserinfo.contains c

/-- The value of a byte that is a hexadecimal digit. -/
def hexByte? (b : UInt8) : Option Nat := Text.hexValue? (Char.ofNat b.toNat)

/-- Turns percent signs with two digits back into bytes. -/
def decode : List UInt8 → List UInt8
  | [] => []
  | [a] => [a]
  | [a, b] => [a, b]
  | a :: b :: c :: bytes =>
    if a = 0x25 then
      match hexByte? b, hexByte? c with
      | some high, some low => UInt8.ofNat (16 * high + low) :: decode bytes
      | _, _ => a :: decode (b :: c :: bytes)
    else a :: decode (b :: c :: bytes)

/-- The bytes of a text in which percent signs are turned back. -/
def decodedBytes (text : List Char) : List UInt8 := decode (Text.utf8Bytes (String.ofList text))

/-- A part of a query: plus signs are spaces, and what is no UTF-8 is replaced. -/
def decodeForm (text : List Char) : String :=
  Text.ofUtf8Lossy (decodedBytes (text.map fun c => if c = '+' then ' ' else c))

end SqlWeave.Url
