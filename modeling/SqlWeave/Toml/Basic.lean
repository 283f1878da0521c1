import SqlWeave.Number.Binary

/-!
# TOML documents

A document is a table of values and further tables. A table remembers how it came about, because
that decides who may add to it: a header defines its table once, dotted keys add only to tables
that dotted keys or longer headers have brought about, and inline tables are closed.
-/
namespace SqlWeave

namespace Toml

/-- How a table came about. -/
inductive Origin where
  /-- It has a header of its own, or is the document. -/
  | header
  /-- A header of a table inside it named it on its way. -/
  | passed
  /-- A dotted key named it on its way. -/
  | dotted
  /-- It stands between braces. -/
  | inline
  /-- A dotted key between braces named it on its way. -/
  | inlineDotted
deriving DecidableEq, Repr

/-- Tables on the way of a dotted key. -/
def Origin.isDotted (origin : Origin) : Bool := origin = .dotted || origin = .inlineDotted

/-- Tables that are values. -/
def Origin.isInline (origin : Origin) : Bool := origin = .inline || origin = .inlineDotted

/-- A key: the tables on its way, and the last name. -/
structure Key where
  path : List String
  name : String
deriving DecidableEq, Repr

end Toml

inductive Toml where
  | string (s : String)
  | integer (n : Int)
  | float (x : Number.Double)
  | bool (b : Bool)
  /-- A date, a time, or both. -/
  | date
  | array (items : List Toml)
  /-- The tables of repeated headers. -/
  | tables (items : List Toml)
  | table (origin : Toml.Origin) (fields : List (String × Toml))
deriving Inhabited

namespace Toml

abbrev Fields := List (String × Toml)

def setField (fields : Fields) (name : String) (value : Toml) : Fields :=
  fields.map fun field => if field.1 = name then (name, value) else field

/-- A change of a table's fields that may be refused, seeing how the table came about. -/
abbrev Change := Origin → Fields → Option Fields

/--
Changes the table at the end of a path. Tables that are missing on the way are brought about with
the origin `created`; of repeated tables the last one is meant. A dotted key does not pass a table
that has its own header, and nothing passes a value.
-/
def changeAt (created : Origin) (change : Change) : List String → Change
  | [], origin, fields => change origin fields
  | name :: path, _, fields =>
    match fields.lookup name with
    | none => do
      let inner ← changeAt created change path created []
      some (fields ++ [(name, .table created inner)])
    | some (.table origin inner) =>
      if origin = .inline ∨ (created.isDotted ∧ origin = .header) then none
      else do
        let inner ← changeAt created change path origin inner
        some (setField fields name (.table origin inner))
    | some (.tables items) =>
      match items.getLast? with
      | some (.table origin inner) => do
        let inner ← changeAt created change path origin inner
        some (setField fields name (.tables (items.dropLast ++ [.table origin inner])))
      | _ => none
    | some _ => none

/-- Adds a field to the table of a key; a dotted key ends in a table of dotted keys only. -/
def addField (created : Origin) (fields : Fields) (key : Key) (value : Toml) : Option Fields :=
  let add : Change := fun origin fields =>
    if origin.isDotted = key.path.isEmpty then none
    else if (fields.lookup key.name).isSome then none
    else some (fields ++ [(key.name, value)])
  changeAt created add key.path .header fields

def addFields (created : Origin) (fields : Fields) (pairs : List (Key × Toml)) : Option Fields :=
  pairs.foldlM (fun fields pair => addField created fields pair.1 pair.2) fields

/-- The inline table of keys and values. -/
def ofPairs? (pairs : List (Key × Toml)) : Option Toml :=
  (addFields .inlineDotted [] pairs).map (.table .inline)

/-- A header with the fields under it. -/
structure Section where
  /-- Does the header stand for one more table of an array? -/
  repeated : Bool
  key : Key
  pairs : List (Key × Toml)

/--
Adds the table of a header. A plain header may define a table that others have passed, and then
the table moves to the end; a repeated one adds to the tables under its name.
-/
def addSection (document : Fields) (part : Section) : Option Fields :=
  let add : Change := fun _ fields =>
    let name := part.key.name
    if part.repeated then do
      let inner ← addFields .dotted [] part.pairs
      match fields.lookup name with
      | none => some (fields ++ [(name, .tables [.table .header inner])])
      | some (.tables items) =>
        some (setField fields name (.tables (items ++ [.table .header inner])))
      | some _ => none
    else do
      let known ← match fields.lookup name with
        | none => some []
        | some (.table .passed known) => some known
        | some _ => none
      let inner ← addFields .dotted known part.pairs
      some ((fields.filter fun field => field.1 ≠ name) ++ [(name, .table .header inner)])
  changeAt .passed add part.key.path .header document

/-- The document of the fields before the first header and the parts after it. -/
def ofSections? (pairs : List (Key × Toml)) (parts : List Section) : Option Fields := do
  parts.foldlM addSection (← addFields .dotted [] pairs)

end Toml

end SqlWeave
