/-!
# Storage faults

Why a statement on the store fails. Each fault has the five-character code and
the message by which relational databases report it.
-/

namespace ExamHall

/-- Why a statement fails. -/
inductive StorageFault where
  /-- A text is longer than its column. -/
  | textTooLong
  /-- A number does not fit into its column. -/
  | numberOutOfRange
  /-- A time does not fit into its column. -/
  | timeOutOfRange
  /-- A text has a character with the code zero. -/
  | nulInText
  /-- A word is none of a closed set. -/
  | unknownWord
  /-- A text inside a document has a character with the code zero. -/
  | nulInDocument
  /-- A column that needs a value has none. -/
  | missingValue
  /-- A row refers to a row that is not there. -/
  | missingReference
  /-- Another row has the same key. -/
  | duplicateKey
  /-- A row breaks a check of its table. -/
  | brokenCheck
  /-- A table cannot be reached. -/
  | unavailable
  /-- A row that has to be there is not. -/
  | rowNotFound
  /-- A stored document does not read as what it should be. -/
  | unreadableDocument
deriving DecidableEq, Repr

namespace StorageFault

/-- The code of a fault. -/
def code : StorageFault → String
  | .textTooLong => "22001"
  | .numberOutOfRange => "22003"
  | .timeOutOfRange => "22008"
  | .nulInText => "22021"
  | .unknownWord => "22P02"
  | .nulInDocument => "22P05"
  | .missingValue => "23502"
  | .missingReference => "23503"
  | .duplicateKey => "23505"
  | .brokenCheck => "23514"
  | .unavailable => "XX000"
  | .rowNotFound => "02000"
  | .unreadableDocument => "22000"

/-- The message of a fault. -/
def message : StorageFault → String
  | .textTooLong =>
      "error returned from database: value too long for type character varying"
  | .numberOutOfRange => "error returned from database: numeric field overflow"
  | .timeOutOfRange => "error returned from database: timestamp out of range"
  | .nulInText =>
      "error returned from database: " ++
        "invalid byte sequence for encoding \"UTF8\": 0x00"
  | .unknownWord => "error returned from database: invalid input value for enum"
  | .nulInDocument =>
      "error returned from database: unsupported Unicode escape sequence"
  | .missingValue =>
      "error returned from database: null value violates not-null constraint"
  | .missingReference =>
      "error returned from database: insert violates foreign key constraint"
  | .duplicateKey =>
      "error returned from database: " ++
        "duplicate key value violates unique constraint"
  | .brokenCheck =>
      "error returned from database: new row violates check constraint"
  | .unavailable => "error returned from database: relation is not available"
  | .rowNotFound =>
      "no rows returned by a query that expected to return at least one row"
  | .unreadableDocument => "error occurred while decoding a column"

end StorageFault

end ExamHall
