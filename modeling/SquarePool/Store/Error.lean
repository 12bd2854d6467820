import SquarePool.Invalid

/-!
# Failures of a store

Why a request to the store was not carried out, and what is said about it.
-/

namespace SquarePool

/-- The place of a value in a row: by the name of its column, or the only one of the row. -/
inductive ColumnRef where
  | named (name : String)
  | only
  deriving DecidableEq, Repr

/-- The place of a value, as it is written. -/
def ColumnRef.toText : ColumnRef → String
  | named name => "\"" ++ name ++ "\""
  | only => "0"

/-- What went wrong in a database or on the way to it. -/
inductive DatabaseFault where
  /-- The conversation with the database broke down. -/
  | invalidData (detail : String)
  /-- The database cannot be reached. -/
  | unreachable (reason : String)
  /-- The database refused a statement. -/
  | refused (message : String)
  /-- A row was promised and none came. -/
  | noRow
  /-- A value is missing where there must be one. -/
  | unexpectedNull (column : ColumnRef)
  /-- A column holds a word outside its vocabulary. -/
  | unknownWord (column : String)
  /-- A row holds an invalid input. -/
  | invalid (cause : Invalid)
  deriving DecidableEq, Repr

/-- What is said about a fault. -/
def DatabaseFault.message : DatabaseFault → String
  | invalidData detail => "encountered unexpected or invalid data: " ++ detail
  | unreachable reason => "error communicating with database: " ++ reason
  | refused message => "error returned from database: " ++ message
  | noRow => "no rows returned by a query that expected to return at least one row"
  | unexpectedNull column =>
    "error occurred while decoding column " ++ column.toText
      ++ ": unexpected null; try decoding as an `Option`"
  | unknownWord column =>
    "error occurred while decoding column " ++ column
      ++ ": unprintable error: (unprintable type)"
  | invalid cause => "error occurred while decoding: " ++ cause.message

/-- Why a request to the store failed. -/
inductive StoreError where
  | database (fault : DatabaseFault)
  /-- The run was stopped. -/
  | cancelled
  deriving DecidableEq, Repr

/-- What is said about a failed request. -/
def StoreError.message : StoreError → String
  | database fault => "database error: " ++ fault.message
  | cancelled => "store operation cancelled"

end SquarePool
