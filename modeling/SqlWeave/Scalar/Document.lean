import SqlWeave.Json.Printer
import SqlWeave.Json.Reader
import SqlWeave.Scalar.Basic
import SqlWeave.Time.Reader

/-!
# Scalars as JSON

A scalar has one JSON form. It can be written directly, or turned into a document first and then
written. Reading goes the other way and has to guess: a string that spells a UUID or a timestamp
becomes one, and arrays and objects stay documents.
-/
namespace SqlWeave.Scalar

mutual

/-- The JSON text of a scalar, written directly. -/
def jsonText : Scalar → List Char
  | .null => "null".toList
  | .bool b => Json.boolText b
  | .int n => Text.decimalInt n.toInt
  | .float x => Json.doubleText x
  | .uuid u => '"' :: u.text.toList ++ ['"']
  | .timestamp t => '"' :: t.text ++ ['"']
  | .string s => Json.stringText s.toList
  | .json document => document.text
  | .list items => '[' :: jsonTexts items ++ [']']

/-- The texts of list items, a comma between each two. -/
def jsonTexts : List Scalar → List Char
  | [] => []
  | [item] => jsonText item
  | item :: next :: items => jsonText item ++ ',' :: jsonTexts (next :: items)

end

mutual

/-- The document of a scalar; a double that is not finite has none but null. -/
def toJson : Scalar → Json
  | .null => .null
  | .bool b => .bool b
  | .int n => .ofInt n.toInt
  | .float x => if x.isFinite then .number (.float x) else .null
  | .uuid u => .string u.text
  | .timestamp t => .string (String.ofList t.text)
  | .string s => .string s
  | .json document => document
  | .list items => .array (toJsonItems items)

def toJsonItems : List Scalar → List Json
  | [] => []
  | item :: items => toJson item :: toJsonItems items

end

/-- The scalar that a string of a document stands for. -/
def ofText (s : String) : Scalar :=
  match Uuid.read? s.toList with
  | some u => .uuid u
  | none =>
    match Time.readRelaxed? s.toList with
    | some t => .timestamp t
    | none => .string s

/-- The scalar of a number; a whole number that 64 signed bits do not hold becomes a double. -/
def ofNumeral : Numeral → Scalar
  | .int n =>
    if -0x8000000000000000 ≤ n ∧ n < 0x8000000000000000 then .int (Int64.ofInt n)
    else .float (Number.Double.ofInt n)
  | .float x => .float x

/-- The scalar that a document stands for. -/
def ofJson : Json → Scalar
  | .null => .null
  | .bool b => .bool b
  | .number n => ofNumeral n
  | .string s => ofText s
  | .array items => .json (.array items)
  | .object fields => .json (.object fields)

/-- The scalar of a JSON text, if it is one. -/
def readJson? (text : String) : Option Scalar := (Json.read? text).map ofJson

end SqlWeave.Scalar
