/-!
# Types of the server

The types that the server reports for parameters and columns. Types that are not told apart here
are known by their name alone. The name of an array type is the name of its members after an
underscore.
-/
namespace SqlWeave.Postgres

inductive BaseType where
  | bool | int2 | int4 | int8 | float4 | float8 | uuid | timestamptz | timestamp | json | jsonb
  | text | varchar | bpchar | identifier | unknown | numeric
  | other (name : String)
deriving DecidableEq, Repr

inductive ServerType where
  | base (type : BaseType)
  | array (member : BaseType)
deriving DecidableEq, Repr

namespace BaseType

/-- The types that have a constructor of their own. -/
def known : List BaseType :=
  [bool, int2, int4, int8, float4, float8, uuid, timestamptz, timestamp, json, jsonb, text, varchar,
    bpchar, identifier, unknown, numeric]

def typeName : BaseType → String
  | bool => "bool"
  | int2 => "int2"
  | int4 => "int4"
  | int8 => "int8"
  | float4 => "float4"
  | float8 => "float8"
  | uuid => "uuid"
  | timestamptz => "timestamptz"
  | timestamp => "timestamp"
  | json => "json"
  | jsonb => "jsonb"
  | text => "text"
  | varchar => "varchar"
  | bpchar => "bpchar"
  | identifier => "name"
  | unknown => "unknown"
  | numeric => "numeric"
  | other name => name

def ofName (name : String) : BaseType :=
  (known.find? fun type => type.typeName = name).getD (other name)

/-- The number by which an array names the type of its members. -/
def oid : BaseType → Nat
  | bool => 16
  | identifier => 19
  | int8 => 20
  | int2 => 21
  | int4 => 23
  | text => 25
  | json => 114
  | float4 => 700
  | float8 => 701
  | unknown => 705
  | bpchar => 1042
  | varchar => 1043
  | timestamp => 1114
  | timestamptz => 1184
  | numeric => 1700
  | uuid => 2950
  | jsonb => 3802
  | other _ => 0

/-- Documents take any scalar, lists included. -/
def isDocument (type : BaseType) : Bool := type = json || type = jsonb

end BaseType

namespace ServerType

def typeName : ServerType → String
  | base type => type.typeName
  | array member => "_" ++ member.typeName

def ofName (name : String) : ServerType :=
  match name.toList with
  | '_' :: member => array (.ofName (String.ofList member))
  | _ => base (.ofName name)

end ServerType

end SqlWeave.Postgres
