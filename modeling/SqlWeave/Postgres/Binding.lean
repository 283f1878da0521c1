import SqlWeave.Postgres.Type
import SqlWeave.Scalar.Document
import SqlWeave.Text.Quoted

/-!
# Binding parameters

Scalars are bound to the parameter types that the server has reported for a statement. Each type
has a carrier, the form in which its values are held until they are sent. Lists are bound to array
parameters when all their items other than null are of one kind.
-/
namespace SqlWeave.Postgres

/-- The forms in which the values of parameters are held. -/
inductive Carrier where
  | bool | int16 | int32 | int64 | single | double | uuid
  /-- Instants. -/
  | instant
  /-- Instants as the clock in UTC shows them, without a zone. -/
  | clock
  | document | text
deriving DecidableEq, Repr

namespace Carrier

/-- What a carrier holds. -/
abbrev Datum : Carrier → Type
  | bool => Bool
  | int16 => Int16
  | int32 => Int32
  | int64 => Int64
  | single => UInt32
  | double => Number.Double
  | uuid => Uuid
  | instant => Time.Timestamp
  | clock => Time.Timestamp
  | document => Json
  | text => String

end Carrier

/-- The carrier of a type; types without one of their own are held as text. -/
def BaseType.carrier : BaseType → Carrier
  | bool => .bool
  | int2 => .int16
  | int4 => .int32
  | int8 => .int64
  | float4 => .single
  | float8 => .double
  | uuid => .uuid
  | timestamptz => .instant
  | timestamp => .clock
  | json => .document
  | jsonb => .document
  | text | varchar | bpchar | identifier | unknown | numeric | other _ => .text

inductive Mismatch where
  /-- Another number of values than parameters. -/
  | count (parameters values : Nat)
  | kind (found : Scalar.Kind) (target : String)
  | range (n : Int64) (target : String)
  | uuidText (text : String)
  | timestampText (text : String)
  | listForSingle (type : String)
  | listInList
  | mixedList (first other : Scalar.Kind)
deriving DecidableEq

/--
The message of a mismatch. Behind `invalid uuid: ` and `invalid timestamp: ` belongs what the reader
of such texts says of the fault. That is not modelled: the refused text is quoted instead.
-/
def Mismatch.message : Mismatch → String
  | .count parameters values =>
    "statement expects " ++ toString parameters ++ " parameters, got " ++ toString values
  | .kind found target => "cannot bind " ++ found.name ++ " as " ++ target
  | .range n target =>
    String.ofList (Text.decimalInt n.toInt) ++ " out of range for " ++ target
  | .uuidText text => "invalid uuid: " ++ Text.quoted text
  | .timestampText text => "invalid timestamp: " ++ Text.quoted text
  | .listForSingle type => "list bound to non-array parameter of type " ++ type
  | .listInList => "nested lists cannot be bound as an array"
  | .mixedList first other => "mixed list of " ++ first.name ++ " and " ++ other.name

/-- A mismatch, and the number of the parameter if it is about a single one. -/
structure BindFailure where
  parameter : Option Nat
  mismatch : Mismatch
deriving DecidableEq

def BindFailure.message (failure : BindFailure) : String :=
  match failure.parameter with
  | some number => "parameter $" ++ toString number ++ ": " ++ failure.mismatch.message
  | none => failure.mismatch.message

namespace Carrier

/-- The scalar has to be a whole number. -/
def wholeNumber : Scalar → Except Mismatch Int64
  | .int n => .ok n
  | scalar => .error (.kind scalar.kind "bigint")

/-- A double, or a whole number rounded to one. -/
def realNumber : Scalar → Except Mismatch Number.Double
  | .float x => .ok x
  | .int n => .ok (.ofInt n.toInt)
  | scalar => .error (.kind scalar.kind "double precision")

/-- A timestamp, or a text of RFC 3339. -/
def instantOf : Scalar → Except Mismatch Time.Timestamp
  | .timestamp t => .ok t
  | .string s =>
    match Time.readStrict? s.toList with
    | some t => .ok t
    | none => .error (.timestampText s)
  | scalar => .error (.kind scalar.kind "timestamptz")

/-- A UUID, or a text that spells one. -/
def uuidOf : Scalar → Except Mismatch Uuid
  | .uuid u => .ok u
  | .string s =>
    match Uuid.read? s.toList with
    | some u => .ok u
    | none => .error (.uuidText s)
  | scalar => .error (.kind scalar.kind "uuid")

/-- A text, or the text of a UUID. -/
def textOf : Scalar → Except Mismatch String
  | .string s => .ok s
  | .uuid u => .ok u.text
  | scalar => .error (.kind scalar.kind "text")

def boolOf : Scalar → Except Mismatch Bool
  | .bool b => .ok b
  | scalar => .error (.kind scalar.kind "boolean")

/-- A whole number between `least` and `greatest`. -/
def boundedNumber (least greatest : Int) (target : String) (scalar : Scalar) :
    Except Mismatch Int := do
  let n ← wholeNumber scalar
  if least ≤ n.toInt ∧ n.toInt ≤ greatest then .ok n.toInt else .error (.range n target)

/-- What a carrier holds of a scalar that is not null. -/
def hold : (carrier : Carrier) → Scalar → Except Mismatch carrier.Datum
  | bool, scalar => boolOf scalar
  | int16, scalar =>
    (boundedNumber (-0x8000) 0x7FFF "smallint" scalar).map Int16.ofInt
  | int32, scalar =>
    (boundedNumber (-0x80000000) 0x7FFFFFFF "integer" scalar).map Int32.ofInt
  | int64, scalar => wholeNumber scalar
  | single, scalar => (realNumber scalar).map Number.Double.toSingleBits
  | double, scalar => realNumber scalar
  | uuid, scalar => uuidOf scalar
  | instant, scalar => instantOf scalar
  | clock, scalar => instantOf scalar
  | document, scalar => .ok scalar.toJson
  | text, scalar => textOf scalar

/-- Null is held as nothing. -/
def holdOptional (carrier : Carrier) (scalar : Scalar) :
    Except Mismatch (Option carrier.Datum) :=
  if scalar.isNull then .ok none else (carrier.hold scalar).map some

end Carrier

/-- One value or many; none of either is null. -/
inductive Payload (α : Type) where
  | single (value : Option α)
  | array (items : Option (List (Option α)))

structure Param where
  carrier : Carrier
  payload : Payload carrier.Datum

/-- The first item that no array holds next to an item of kind `first`. -/
def mismatchAfter (first : Scalar.Kind) (items : List Scalar) : Option Mismatch :=
  items.findSome? fun item =>
    if item.kind = .list then some .listInList
    else if item.kind = .null ∨ item.kind = first then none
    else some (.mixedList first item.kind)

/-- Items other than null have to be of one kind, and none of them a list. -/
def listMismatch? (items : List Scalar) : Option Mismatch :=
  match items.find? fun item => !item.isNull with
  | none => none
  | some first => mismatchAfter first.kind items

/-- Binds a scalar to a parameter of a type. -/
def bind (type : ServerType) (scalar : Scalar) : Except Mismatch Param :=
  match type, scalar with
  | .array member, .list items =>
    match listMismatch? items with
    | some mismatch => .error mismatch
    | none => do
      let held ← items.mapM member.carrier.holdOptional
      .ok ⟨member.carrier, .array (some held)⟩
  | .array member, .null => .ok ⟨member.carrier, .array none⟩
  | .array _, scalar => .error (.kind scalar.kind type.typeName)
  | .base base, scalar =>
    if scalar.kind = .list ∧ !base.isDocument then .error (.listForSingle type.typeName)
    else do
      let held ← base.carrier.holdOptional scalar
      .ok ⟨base.carrier, .single held⟩

/-- Binds scalars to parameters of the number `i` and up. -/
def bindFrom (i : Nat) : List (ServerType × Scalar) → Except BindFailure (List Param)
  | [] => .ok []
  | (type, scalar) :: others => do
    let param ← (bind type scalar).mapError fun mismatch => ⟨some i, mismatch⟩
    let params ← bindFrom (i + 1) others
    .ok (param :: params)

/-- Binds the values of a statement to the types of its parameters. -/
def bindAll (types : List ServerType) (values : List Scalar) : Except BindFailure (List Param) :=
  if values.length = types.length then bindFrom 1 (types.zip values)
  else .error ⟨none, .count types.length values.length⟩

end SqlWeave.Postgres
