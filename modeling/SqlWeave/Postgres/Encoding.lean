import SqlWeave.Bytes
import SqlWeave.Json.Printer
import SqlWeave.Postgres.Binding
import SqlWeave.Text.Utf8

/-!
# Parameters on the wire

A bound parameter is sent in the binary form of its type, or as null. A carrier is sent only as the
types that it accepts, whether there is a value or not.
-/
namespace SqlWeave.Postgres

inductive EncodeFailure where
  /-- The carrier does not accept the type. -/
  | wrongType
  /-- The value takes more room than the form has. -/
  | tooLarge
deriving DecidableEq, Repr

/-- Can values of the carrier be sent as the type? -/
def Carrier.accepts : Carrier → BaseType → Bool
  | bool, type => type = .bool
  | int16, type => type = .int2
  | int32, type => type = .int4
  | int64, type => type = .int8
  | single, type => type = .float4
  | double, type => type = .float8
  | uuid, type => type = .uuid
  | instant, type => type = .timestamptz
  | clock, type => type = .timestamp
  | document, type => type.isDocument
  | text, type => [.text, .varchar, .bpchar, .identifier, .unknown].contains type

/-- Seconds from 1970-01-01 to 2000-01-01, where timestamps are counted from. -/
def epochSeconds : Int := 946684800

/-- Microseconds since 2000-01-01, rest nanoseconds cut off toward zero. -/
def microseconds (t : Time.Timestamp) : Int :=
  Int.tdiv ((t.seconds - epochSeconds) * 1000000000 + t.nanos) 1000

def encodeTimestamp (t : Time.Timestamp) : Except EncodeFailure (List UInt8) :=
  let count := microseconds t
  if -0x8000000000000000 ≤ count ∧ count < 0x8000000000000000 then
    .ok (Bytes.bigEndian 8 (Int64.ofInt count).toUInt64.toNat)
  else .error .tooLarge

/-- The binary form of a value; documents of the type jsonb have a version in front. -/
def encodeDatum (type : BaseType) : (carrier : Carrier) → carrier.Datum →
    Except EncodeFailure (List UInt8)
  | .bool, b => .ok [if b then 1 else 0]
  | .int16, n => .ok (Bytes.bigEndian 2 (Int16.toUInt16 n).toNat)
  | .int32, n => .ok (Bytes.bigEndian 4 (Int32.toUInt32 n).toNat)
  | .int64, n => .ok (Bytes.bigEndian 8 (Int64.toUInt64 n).toNat)
  | .single, bits => .ok (Bytes.bigEndian 4 (UInt32.toNat bits))
  | .double, x => .ok (Bytes.bigEndian 8 (Number.Double.bits x).toNat)
  | .uuid, u => .ok (Bytes.bigEndian 16 (Uuid.value u).toNat)
  | .instant, t => encodeTimestamp t
  | .clock, t => encodeTimestamp t
  | .document, document =>
    let text := Text.utf8Bytes (String.ofList (Json.text document))
    .ok (if type = .jsonb then 1 :: text else text)
  | .text, s => .ok (Text.utf8Bytes s)

/-- An item of an array: its length and its bytes, or the length -1 for null. -/
def encodeItem (type : BaseType) (carrier : Carrier) (item : Option carrier.Datum) :
    Except EncodeFailure (List UInt8) :=
  match item with
  | none => .ok (Bytes.bigEndian 4 0xFFFFFFFF)
  | some datum => do
    let bytes ← encodeDatum type carrier datum
    if bytes.length < 0x80000000 then .ok (Bytes.bigEndian 4 bytes.length ++ bytes)
    else .error .tooLarge

/--
An array of one dimension: the number of dimensions, whether there are nulls, the type of the
items, their number, the lower bound, and the items.
-/
def encodeArray (type : BaseType) (carrier : Carrier) (items : List (Option carrier.Datum)) :
    Except EncodeFailure (List UInt8) := do
  let encoded ← items.mapM (encodeItem type carrier)
  if items.length < 0x80000000 then
    .ok (Bytes.bigEndian 4 1 ++ Bytes.bigEndian 4 (if items.any Option.isNone then 1 else 0) ++
      Bytes.bigEndian 4 type.oid ++ Bytes.bigEndian 4 items.length ++ Bytes.bigEndian 4 1 ++
      encoded.flatten)
  else .error .tooLarge

/-- A parameter as bytes, or as nothing if it is null. -/
def Param.encode (param : Param) (type : ServerType) :
    Except EncodeFailure (Option (List UInt8)) :=
  match type, param.payload with
  | .base type, .single value =>
    if param.carrier.accepts type then
      match value with
      | none => .ok none
      | some datum => (encodeDatum type param.carrier datum).map some
    else .error .wrongType
  | .array member, .array items =>
    if param.carrier.accepts member then
      match items with
      | none => .ok none
      | some items => (encodeArray member param.carrier items).map some
    else .error .wrongType
  | _, _ => .error .wrongType

/-- Encodes parameters of the number `i` and up; a failure names the first one that is not sent. -/
def encodeFrom (i : Nat) : List (ServerType × Param) → Except Nat (List (Option (List UInt8)))
  | [] => .ok []
  | (type, param) :: others => do
    let bytes ← (param.encode type).mapError fun _ => i
    let others ← encodeFrom (i + 1) others
    .ok (bytes :: others)

end SqlWeave.Postgres
