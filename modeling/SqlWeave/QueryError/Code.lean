/-!
# Error codes

A code is the letter T and four digits; the first digit is the category: composition, connection,
execution, data, configuration, internal.
-/
namespace SqlWeave

inductive ErrorCode where
  | templateArity
  | raggedBatch
  | emptyBatch
  | misplacedTable
  | unsafeBatchCell
  | nestedBatch
  | untrustedIdentifier
  | connectionFailed
  | poolExhausted
  | connectionTimeout
  | queryTimeout
  | databaseError
  | uniqueConstraint
  | foreignKeyConstraint
  | notNullConstraint
  | parameterConversion
  | serializationError
  | invalidConfiguration
  | internal
deriving DecidableEq, Repr

namespace ErrorCode

def number : ErrorCode → Nat
  | .templateArity => 1001
  | .raggedBatch => 1002
  | .emptyBatch => 1003
  | .misplacedTable => 1004
  | .unsafeBatchCell => 1005
  | .nestedBatch => 1006
  | .untrustedIdentifier => 1007
  | .connectionFailed => 3001
  | .poolExhausted => 3002
  | .connectionTimeout => 3003
  | .queryTimeout => 5001
  | .databaseError => 5002
  | .uniqueConstraint => 5003
  | .foreignKeyConstraint => 5004
  | .notNullConstraint => 5005
  | .parameterConversion => 6001
  | .serializationError => 6002
  | .invalidConfiguration => 7001
  | .internal => 9001

def text (code : ErrorCode) : String := "T" ++ toString code.number

def description : ErrorCode → String
  | .templateArity => "Segment and value counts do not line up"
  | .raggedBatch => "Batch rows have inconsistent lengths"
  | .emptyBatch => "Batch is empty"
  | .misplacedTable => "Table reference outside a table slot"
  | .unsafeBatchCell => "Raw batch cell is not the default keyword"
  | .nestedBatch => "Batch nested inside a batch"
  | .untrustedIdentifier => "Identifier is not a known column or table"
  | .connectionFailed => "Database connection failed"
  | .poolExhausted => "Connection pool exhausted"
  | .connectionTimeout => "Connection timeout"
  | .queryTimeout => "Query timeout"
  | .databaseError => "Database error"
  | .uniqueConstraint => "Unique constraint violation"
  | .foreignKeyConstraint => "Foreign key constraint violation"
  | .notNullConstraint => "Not null constraint violation"
  | .parameterConversion => "Parameter conversion failed"
  | .serializationError => "Serialization error"
  | .invalidConfiguration => "Invalid configuration"
  | .internal => "Internal error"

/-- The name of a code in reports. -/
def name : ErrorCode → String
  | .templateArity => "TemplateArity"
  | .raggedBatch => "RaggedBatch"
  | .emptyBatch => "EmptyBatch"
  | .misplacedTable => "MisplacedTable"
  | .unsafeBatchCell => "UnsafeBatchCell"
  | .nestedBatch => "NestedBatch"
  | .untrustedIdentifier => "UntrustedIdentifier"
  | .connectionFailed => "ConnectionFailed"
  | .poolExhausted => "PoolExhausted"
  | .connectionTimeout => "ConnectionTimeout"
  | .queryTimeout => "QueryTimeout"
  | .databaseError => "DatabaseError"
  | .uniqueConstraint => "UniqueConstraint"
  | .foreignKeyConstraint => "ForeignKeyConstraint"
  | .notNullConstraint => "NotNullConstraint"
  | .parameterConversion => "ParameterConversion"
  | .serializationError => "SerializationError"
  | .invalidConfiguration => "InvalidConfiguration"
  | .internal => "Internal"

def all : List ErrorCode :=
  [templateArity, raggedBatch, emptyBatch, misplacedTable, unsafeBatchCell, nestedBatch,
    untrustedIdentifier, connectionFailed, poolExhausted, connectionTimeout, queryTimeout,
    databaseError, uniqueConstraint, foreignKeyConstraint, notNullConstraint,
    parameterConversion, serializationError, invalidConfiguration, internal]

def ofName? (name : String) : Option ErrorCode := all.find? fun code => code.name = name

/-- Raised while a statement was composed. -/
def isComposition (code : ErrorCode) : Bool := 1000 ≤ code.number && code.number < 2000

/-- The server refused a write because of a constraint. -/
def isConstraintViolation : ErrorCode → Bool
  | .uniqueConstraint | .foreignKeyConstraint | .notNullConstraint => true
  | _ => false

def isTimeout : ErrorCode → Bool
  | .queryTimeout | .connectionTimeout => true
  | _ => false

def isConnection : ErrorCode → Bool
  | .connectionFailed | .poolExhausted | .connectionTimeout => true
  | _ => false

/-- The same call may succeed later. -/
def isRetryable : ErrorCode → Bool
  | .connectionTimeout | .poolExhausted | .queryTimeout => true
  | _ => false

end ErrorCode

end SqlWeave
