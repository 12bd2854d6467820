import Mathlib.Data.List.Basic
import SquarePool.Proofs.Sql.Tokens

/-!
# Upserts and selections

What the text of a statement says that writes or reads rows, read from the text alone, and what it
does to rows: which row is to be inserted, what becomes of a stored row with the same key, and which
columns come back. Main statement: the text after the table of a selection has no part in which of
the table's own columns are selected.
-/

namespace SquarePool.Sql

/-- What a statement puts in a column. -/
inductive Expression where
  /-- The value of a parameter, counted from one. -/
  | param (place : Nat)
  /-- The time of the statement. -/
  | now
  /-- What was to be inserted in a column. -/
  | proposed (column : String)
  /-- What a column holds. -/
  | stored (column : String)
  /-- The first value, or the second one where the first is null. -/
  | firstKnown (first second : Expression)
  deriving DecidableEq, Repr

/-- A statement that inserts a row, or changes the stored row with the same key. -/
structure Upsert where
  table : String
  columns : List String
  values : List Expression
  key : List String
  assignments : List (String × Expression)
  returned : List String
  deriving DecidableEq, Repr

/-- The columns that a statement reads, under their own names, of a table. -/
structure Selection where
  table : String
  columns : List String
  deriving DecidableEq, Repr

/-! ## Reading -/

namespace Token

/-- Puts a token in front of the first of some items. -/
def pushItem (token : Token) : List (List Token) → List (List Token)
  | [] => [[token]]
  | item :: rest => (token :: item) :: rest

/-- The items between commas. Commas within brackets, of which some are open, do not count. -/
def items (depth : Nat) : List Token → List (List Token)
  | [] => []
  | mark ',' :: rest =>
    if depth = 0 then [] :: items depth rest else pushItem (mark ',') (items depth rest)
  | mark '(' :: rest => pushItem (mark '(') (items (depth + 1) rest)
  | mark ')' :: rest => pushItem (mark ')') (items (depth - 1) rest)
  | token :: rest => pushItem token (items depth rest)

/-- Splits where the bracket ends that was opened before, with some more open within it. -/
def splitBracket : Nat → List Token → Option (List Token × List Token)
  | _, [] => none
  | 0, mark ')' :: rest => some ([], rest)
  | depth + 1, mark ')' :: rest => (splitBracket depth rest).map fun (inner, after) =>
    (mark ')' :: inner, after)
  | depth, mark '(' :: rest => (splitBracket (depth + 1) rest).map fun (inner, after) =>
    (mark '(' :: inner, after)
  | depth, token :: rest => (splitBracket depth rest).map fun (inner, after) =>
    (token :: inner, after)

/-- Reads the name of a column. -/
def column? : List Token → Option String
  | [word name] => some name
  | _ => none

/-- Reads names of columns with commas between them. -/
def columns? (tokens : List Token) : Option (List String) := (items 0 tokens).mapM column?

end Token

namespace Expression

/-- A column of the row that was to be inserted, or of the row that is stored in the table. -/
def ofColumn? (table source column : String) : Option Expression :=
  if source = "EXCLUDED" then some (proposed column)
  else if source = table then some (stored column)
  else none

/-- Reads an expression in a statement on a table. -/
def ofTokens? (table : String) : List Token → Option Expression
  | [.mark '$', .word digits] => (Text.readNatural? digits.toList).map param
  | [.word "NOW", .mark '(', .mark ')'] => some now
  | [.word source, .mark '.', .word column] => ofColumn? table source column
  | [.word "COALESCE", .mark '(', .word source, .mark '.', .word column, .mark ',',
      .word source', .mark '.', .word column', .mark ')'] => do
    some (firstKnown (← ofColumn? table source column) (← ofColumn? table source' column'))
  | _ => none

/-- Reads what is assigned to a column. -/
def assignment? (table : String) : List Token → Option (String × Expression)
  | .word column :: .mark '=' :: rest => (ofTokens? table rest).map fun e => (column, e)
  | _ => none

end Expression

namespace Upsert

/-- Reads an upsert. -/
def ofTokens? (tokens : List Token) : Option Upsert := do
  let .word "INSERT" :: .word "INTO" :: .word table :: .mark '(' :: rest := tokens | none
  let (columns, rest) ← Token.splitBracket 0 rest
  let .word "VALUES" :: .mark '(' :: rest := rest | none
  let (values, rest) ← Token.splitBracket 0 rest
  let .word "ON" :: .word "CONFLICT" :: .mark '(' :: rest := rest | none
  let (key, rest) ← Token.splitBracket 0 rest
  let .word "DO" :: .word "UPDATE" :: .word "SET" :: rest := rest | none
  let assignments := rest.takeWhile (· ≠ .word "RETURNING")
  some {
    table
    columns := ← Token.columns? columns
    values := ← (Token.items 0 values).mapM (Expression.ofTokens? table)
    key := ← Token.columns? key
    assignments := ← (Token.items 0 assignments).mapM (Expression.assignment? table)
    returned := ← Token.columns? (rest.drop (assignments.length + 1)) }

/-- Reads an upsert from the text of a statement. -/
def ofText? (text : String) : Option Upsert := ofTokens? (Token.ofText text)

end Upsert

namespace Selection

/-- Reads a selected column. It may follow the other name that a table goes by. -/
def column? (alias? : Option Token) : List Token → Option String
  | [.word name] => some name
  | [.word source, .mark '.', .word name] =>
    if alias? = some (.word source) then some name else none
  | _ => none

/-- Reads a selection. The other name of a table is right behind the table. -/
def ofTokens? (tokens : List Token) : Option Selection := do
  let .word "SELECT" :: rest := tokens | none
  let chosen := rest.takeWhile (· ≠ .word "FROM")
  let .word "FROM" :: .word table :: rest := rest.drop chosen.length | none
  some { table, columns := ← (Token.items 0 chosen).mapM (column? rest.head?) }

/-- Reads a selection from the text of a statement. -/
def ofText? (text : String) : Option Selection := ofTokens? (Token.ofText text)

theorem ofTokens?_from {chosen : List Token} (h : .word "FROM" ∉ chosen) (table : String)
    (rest : List Token) :
    ofTokens? (.word "SELECT" :: (chosen ++ .word "FROM" :: .word table :: rest)) =
      ((Token.items 0 chosen).mapM (column? rest.head?)).map (Selection.mk table) := by
  have hchosen : (chosen ++ Token.word "FROM" :: .word table :: rest).takeWhile
      (· ≠ Token.word "FROM") = chosen := by
    rw [List.takeWhile_append_of_pos fun token htoken => by
      simpa using fun heq : token = .word "FROM" => h (heq ▸ htoken)]
    simp
  simp only [ofTokens?, hchosen, List.drop_left]
  cases (Token.items 0 chosen).mapM (column? rest.head?) <;> rfl

end Selection

/-- The columns of the rows that a statement answers with. -/
def Statement.answered? (statement : Statement) : Option (List String) :=
  (Upsert.ofText? statement.text).map (·.returned) <|>
    (Selection.ofText? statement.text).map (·.columns)

/-! ## Writing -/

/-- The tokens of a list with commas between its items. -/
def Token.commas (items : List (List Token)) : List Token := [mark ','].intercalate items

open Token in
/-- The tokens of an expression in a statement on a table. -/
def Expression.tokens (table : String) : Expression → List Token
  | .param place => [mark '$', word (toString place)]
  | .now => [word "NOW", mark '(', mark ')']
  | .proposed column => [word "EXCLUDED", mark '.', word column]
  | .stored column => [word table, mark '.', word column]
  | .firstKnown first second =>
    word "COALESCE" :: mark '(' ::
      (first.tokens table ++ mark ',' :: second.tokens table ++ [mark ')'])

/-- The tokens of what is assigned to a column. -/
def Expression.assignmentTokens (table : String) : String × Expression → List Token
  | (column, e) => .word column :: .mark '=' :: e.tokens table

open Token in
/-- The tokens of an upsert. -/
def Upsert.tokens (upsert : Upsert) : List Token :=
  let named (names : List String) := commas (names.map fun name => [word name])
  List.flatten
    [[word "INSERT", word "INTO", word upsert.table, mark '('], named upsert.columns,
      [mark ')', word "VALUES", mark '('], commas (upsert.values.map (·.tokens upsert.table)),
      [mark ')', word "ON", word "CONFLICT", mark '('], named upsert.key,
      [mark ')', word "DO", word "UPDATE", word "SET"],
      commas (upsert.assignments.map (Expression.assignmentTokens upsert.table)),
      if upsert.returned = [] then [] else word "RETURNING" :: named upsert.returned]

/-! ## Meaning -/

/-- The value of a parameter; the first has the place one. -/
def param? (params : List Value) : Nat → Option Value
  | 0 => none
  | place + 1 => params[place]?

/-- The value of an expression at a time, given the row that was to be inserted and the row that is
stored. -/
def Expression.value? (params : List Value) (time : Instant) (proposed stored : Row) :
    Expression → Option Value
  | .param place => param? params place
  | .now => some (toValue time)
  | .proposed column => some (proposed.value column)
  | .stored column => some (stored.value column)
  | .firstKnown first second => do
    let value ← first.value? params time proposed stored
    if value = .null then second.value? params time proposed stored else some value

/-- The columns of a row that are asked for. -/
def Row.select (columns : List String) (row : Row) : Row := columns.map fun c => (c, row.value c)

namespace Row

variable {columns : List String} {column : String} {row rest : Row}

theorem value_map_append (value : String → Value) (h : column ∈ columns) :
    Row.value (columns.map (fun c => (c, value c)) ++ rest) column = value column := by
  rw [Row.value, List.lookup_append, List.lookup_graph value h, Option.some_or, Option.getD_some]

theorem value_select (h : column ∈ columns) :
    (row.select columns).value column = row.value column := by
  rw [Row.value, select, List.lookup_graph _ h, Option.getD_some]

theorem value_append_of_notMem (h : column ∉ row.map (·.1)) :
    Row.value (row ++ rest) column = rest.value column := by
  have hnone : row.lookup column = none := List.lookup_eq_none_iff.2 fun cell hcell => by
    have hne : column ≠ cell.1 := fun heq => h (heq ▸ List.mem_map_of_mem hcell)
    simpa using hne
  rw [Row.value, List.lookup_append, hnone, Option.none_or, Row.value]

end Row

namespace Upsert

/-- The row that is to be inserted. -/
def proposal (upsert : Upsert) (params : List Value) (time : Instant) : Row :=
  (upsert.columns.zip upsert.values).filterMap fun (column, e) =>
    (e.value? params time [] []).map (column, ·)

/-- The row is stored under the key of the row that is to be inserted. -/
def Conflicts (upsert : Upsert) (params : List Value) (time : Instant) (stored : Row) : Prop :=
  ∀ column ∈ upsert.key, stored.value column = (upsert.proposal params time).value column

/-- What becomes of a stored row with the same key. -/
def merge (upsert : Upsert) (params : List Value) (time : Instant) (stored : Row) : Row :=
  (upsert.assignments.filterMap fun (column, e) =>
    (e.value? params time (upsert.proposal params time) stored).map (column, ·)) ++ stored

end Upsert

end SquarePool.Sql
