/-!
# Identifiers

A name becomes an SQL identifier between double quotes, with each quote inside it written twice.
Table names are qualified with a schema. `readIdentifier?` is the other direction.
-/
namespace SqlWeave.Identifier

/-- Each quote of a name twice and everything else once. -/
def doubleQuotes (name : List Char) : List Char :=
  name.flatMap fun c => if c = '"' then ['"', '"'] else [c]

def quote (name : String) : String := String.ofList ('"' :: doubleQuotes name.toList ++ ['"'])

/-- Appends one character of a quoted name to a text. -/
def pushQuotedChar (text : String) (c : Char) : String :=
  if c = '"' then (text.push '"').push c else text.push c

/-- Appends a quoted name to a text, character by character. -/
def pushQuoted (text name : String) : String :=
  (name.toList.foldl pushQuotedChar (text.push '"')).push '"'

/-- Appends a table name with its schema in front to a text. -/
def pushQualified (text schema table : String) : String :=
  pushQuoted ((pushQuoted text schema).push '.') table

/-- A table name with its schema in front. -/
def qualify (schema table : String) : String := pushQualified "" schema table

/-- ASCII letters, digits and underscores, no digit in front. -/
def isPlain (name : String) : Bool :=
  match name.toList with
  | [] => false
  | c :: rest => (c.isAlpha || c = '_') && rest.all fun c => c.isAlphanum || c = '_'

/-- The rest of a quoted identifier: a doubled quote stands for one, a single quote closes. -/
def readQuoted? : List Char → Option (List Char × List Char)
  | [] => none
  | '"' :: '"' :: text => (readQuoted? text).map fun (name, rest) => ('"' :: name, rest)
  | c :: text =>
    if c = '"' then some ([], text)
    else (readQuoted? text).map fun (name, rest) => (c :: name, rest)

/-- Reads a quoted identifier and leaves the text after it. -/
def readIdentifier? : List Char → Option (String × List Char)
  | '"' :: text => (readQuoted? text).map fun (name, rest) => (String.ofList name, rest)
  | _ => none

end SqlWeave.Identifier
