import SqlWeave.Number.Binary

/-!
# JSON documents

Numbers are whole numbers of at most 64 bits, signed or not, or finite doubles. The fields of an
object are kept in the order of their names; of two fields of one name the later one stays.
-/
namespace SqlWeave

inductive Numeral where
  | int (n : Int)
  | float (x : Number.Double)
deriving DecidableEq, Repr

inductive Json where
  | null
  | bool (b : Bool)
  | number (n : Numeral)
  | string (s : String)
  | array (items : List Json)
  | object (fields : List (String × Json))
deriving Repr, Inhabited

namespace Json

/-- Puts a field at its place in the order of names; it replaces one of the same name. -/
def insertField (name : String) (value : Json) : List (String × Json) → List (String × Json)
  | [] => [(name, value)]
  | (other, old) :: fields =>
    if name = other then (name, value) :: fields
    else if name < other then (name, value) :: (other, old) :: fields
    else (other, old) :: insertField name value fields

/-- The object that results when the fields are set one after another. -/
def ofFields (fields : List (String × Json)) : Json :=
  .object (fields.foldl (fun known field => insertField field.1 field.2 known) [])

def field? (name : String) : Json → Option Json
  | .object fields => fields.lookup name
  | _ => none

def ofInt (n : Int) : Json := .number (.int n)

/-- Whole numbers are equal as numbers and doubles as doubles; the two kinds never are. -/
def Numeral.sameAs : Numeral → Numeral → Bool
  | .int a, .int b => a = b
  | .float a, .float b => a.numericEq b
  | _, _ => false

mutual

/-- Equality of documents up to the comparison of doubles. -/
def sameAs : Json → Json → Bool
  | .null, .null => true
  | .bool a, .bool b => a = b
  | .number a, .number b => Numeral.sameAs a b
  | .string a, .string b => a = b
  | .array a, .array b => sameItems a b
  | .object a, .object b => sameFields a b
  | _, _ => false

def sameItems : List Json → List Json → Bool
  | [], [] => true
  | a :: as, b :: bs => sameAs a b && sameItems as bs
  | _, _ => false

def sameFields : List (String × Json) → List (String × Json) → Bool
  | [], [] => true
  | (name, a) :: as, (other, b) :: bs => name = other && sameAs a b && sameFields as bs
  | _, _ => false

end

end Json

end SqlWeave
