import SqlWeave.Json.Basic
import SqlWeave.Time.Timestamp
import SqlWeave.Uuid

/-!
# Scalars

A scalar ends up in the parameter list of a statement. It is data: nothing in it ever becomes SQL
text, except that a string in a table slot is a table name.
-/
namespace SqlWeave

inductive Scalar where
  | null
  | bool (b : Bool)
  | int (n : Int64)
  | float (x : Number.Double)
  | uuid (u : Uuid)
  | timestamp (t : Time.Timestamp)
  | string (s : String)
  | json (document : Json)
  | list (items : List Scalar)
deriving Inhabited

namespace Scalar

inductive Kind where
  | null | bool | int | float | uuid | timestamp | string | json | list
deriving DecidableEq, Repr

/-- The name of a kind, as error messages give it. -/
def Kind.name : Kind → String
  | .null => "null"
  | .bool => "bool"
  | .int => "int"
  | .float => "float"
  | .uuid => "uuid"
  | .timestamp => "timestamp"
  | .string => "string"
  | .json => "json"
  | .list => "list"

def kind : Scalar → Kind
  | .null => .null
  | .bool _ => .bool
  | .int _ => .int
  | .float _ => .float
  | .uuid _ => .uuid
  | .timestamp _ => .timestamp
  | .string _ => .string
  | .json _ => .json
  | .list _ => .list

def isNull : Scalar → Bool
  | .null => true
  | _ => false

def text? : Scalar → Option String
  | .string s => some s
  | _ => none

mutual

/-- Equality up to the comparison of doubles: zeros are equal, a NaN differs from itself. -/
def sameAs : Scalar → Scalar → Bool
  | .null, .null => true
  | .bool a, .bool b => a = b
  | .int a, .int b => a = b
  | .float a, .float b => a.numericEq b
  | .uuid a, .uuid b => a = b
  | .timestamp a, .timestamp b => a = b
  | .string a, .string b => a = b
  | .json a, .json b => a.sameAs b
  | .list a, .list b => sameItems a b
  | _, _ => false

def sameItems : List Scalar → List Scalar → Bool
  | [], [] => true
  | a :: as, b :: bs => sameAs a b && sameItems as bs
  | _, _ => false

end

end Scalar

end SqlWeave
