import SqlWeave.Json.Basic

/-!
# Looking into documents

A document seen as what it is, if it is that.
-/
namespace SqlWeave.Json

def text? : Json → Option String
  | .string s => some s
  | _ => none

def bool? : Json → Option Bool
  | .bool b => some b
  | _ => none

def int? : Json → Option Int
  | .number (.int n) => some n
  | _ => none

/-- A whole number that is not negative. -/
def nat? (j : Json) : Option Nat := j.int?.bind Int.toNat?

def items? : Json → Option (List Json)
  | .array items => some items
  | _ => none

def texts? (j : Json) : Option (List String) := j.items?.bind fun items => items.mapM text?

def fields? : Json → Option (List (String × Json))
  | .object fields => some fields
  | _ => none

/-- A field that is there and not null. -/
def present? (name : String) (j : Json) : Option Json :=
  match j.field? name with
  | some .null => none
  | other => other

def textField? (name : String) (j : Json) : Option String := (j.field? name).bind text?

/-- A field that is a whole number and not negative. -/
def natField? (name : String) (j : Json) : Option Nat := (j.field? name).bind nat?

end SqlWeave.Json
