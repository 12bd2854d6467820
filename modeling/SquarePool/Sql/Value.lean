import SquarePool.Instant.Basic
import SquarePool.Store.Error

/-!
# Values, rows and statements

What is sent to a database and what comes back. A row gives its values by the names of their
columns. Each type that a column can hold says how it is written as a value and read from one. Main
statement: a value that was written reads back.
-/

namespace SquarePool.Sql

/-- A value of a column. -/
inductive Value where
  | null
  | text (s : String)
  | int (n : Int)
  | bool (b : Bool)
  | time (t : Instant)
  | ints (ns : List Int)
  deriving DecidableEq, Repr, Inhabited

/-- The start of 2000, from which a database counts. -/
def countStart : Instant := Instant.epoch.addSeconds 946684800

/-- A moment as far as a database keeps it: whole millionths of a second, cut toward the start of
2000. -/
def keptTime (t : Instant) : Instant :=
  let nanos := (t.seconds - countStart.seconds) * 1000000000 + t.nano
  let micros := nanos.tdiv 1000
  Instant.ofSeconds (countStart.seconds + micros / 1000000) ((micros % 1000000).toNat * 1000)

/-- A value as far as a database keeps it. -/
def Value.kept : Value → Value
  | time t => time (keptTime t)
  | v => v

/-- A statement with the values of its parameters, the first of which is `$1`. -/
structure Statement where
  text : String
  params : List Value := []
  deriving DecidableEq, Repr

/-- A statement as it reaches a database. -/
def Statement.carried (statement : Statement) : Statement :=
  { statement with params := statement.params.map Value.kept }

/-- A row: values by the names of their columns. -/
abbrev Row : Type := List (String × Value)

/-- The value in a column; null when there is none. -/
def Row.value (row : Row) (column : String) : Value := (row.lookup column).getD .null

/-- What a database answers to a statement: rows, and how many rows it changed. -/
structure Answer where
  rows : List Row := []
  affected : Nat := 0
  deriving DecidableEq, Repr

/-- A type of values that a column can hold. -/
class Datum (α : Type) where
  toValue : α → Value
  ofValue? : Value → Option α

export Datum (toValue)

instance : Datum String where
  toValue := .text
  ofValue?
    | .text s => some s
    | _ => none

instance : Datum Int where
  toValue := .int
  ofValue?
    | .int n => some n
    | _ => none

instance : Datum Bool where
  toValue := .bool
  ofValue?
    | .bool b => some b
    | _ => none

instance : Datum Instant where
  toValue := .time
  ofValue?
    | .time t => some t
    | _ => none

instance : Datum (List Int) where
  toValue := .ints
  ofValue?
    | .ints ns => some ns
    | _ => none

/-- A value that may be null. -/
instance {α : Type} [Datum α] : Datum (Option α) where
  toValue
    | some a => Datum.toValue a
    | none => .null
  ofValue?
    | .null => some none
    | v => (Datum.ofValue? v).map some

/-- Reads a value of a row. -/
def Value.read {α : Type} [Datum α] (v : Value) (place : ColumnRef) : Except DatabaseFault α :=
  match Datum.ofValue? v with
  | some a => .ok a
  | none =>
    .error (if v = .null then .unexpectedNull place else .invalidData "a value of another type")

/-- Reads a column of a row. -/
def Row.read {α : Type} [Datum α] (row : Row) (column : String) : Except DatabaseFault α :=
  (row.value column).read (.named column)

/-- Reads the column of a row that has no other. -/
def Row.readOnly {α : Type} [Datum α] (row : Row) (column : String) : Except DatabaseFault α :=
  (row.value column).read .only

/-- Reads a column that holds a word of a vocabulary. -/
def Row.readWord {α : Type} (row : Row) (column : String) (ofText : String → Except Invalid α) :
    Except DatabaseFault α := do
  match ofText (← row.read column) with
  | .ok a => .ok a
  | .error _ => .error (.unknownWord column)

/-- A value that was written reads back. -/
class LawfulDatum (α : Type) [Datum α] : Prop where
  ofValue?_toValue : ∀ a : α, Datum.ofValue? (toValue a) = some a

/-- No value of the type is written as null. -/
class NeverNull (α : Type) [Datum α] : Prop where
  toValue_ne_null : ∀ a : α, toValue a ≠ .null

instance : LawfulDatum String := ⟨fun _ => rfl⟩
instance : LawfulDatum Int := ⟨fun _ => rfl⟩
instance : LawfulDatum Bool := ⟨fun _ => rfl⟩
instance : LawfulDatum Instant := ⟨fun _ => rfl⟩
instance : LawfulDatum (List Int) := ⟨fun _ => rfl⟩

instance : NeverNull String := ⟨fun _ => Value.noConfusion⟩
instance : NeverNull Int := ⟨fun _ => Value.noConfusion⟩
instance : NeverNull Bool := ⟨fun _ => Value.noConfusion⟩
instance : NeverNull Instant := ⟨fun _ => Value.noConfusion⟩
instance : NeverNull (List Int) := ⟨fun _ => Value.noConfusion⟩

instance {α : Type} [Datum α] [LawfulDatum α] [NeverNull α] : LawfulDatum (Option α) where
  ofValue?_toValue
    | none => rfl
    | some a => by
      have h := NeverNull.toValue_ne_null a
      have hr := LawfulDatum.ofValue?_toValue a
      show (match toValue a with
        | .null => some none
        | v => (Datum.ofValue? v).map some) = some (some a)
      split
      · exact absurd (by assumption) h
      · rw [hr]; rfl

theorem read_toValue {α : Type} [Datum α] [LawfulDatum α] (a : α) (place : ColumnRef) :
    (toValue a).read place = .ok a := by
  rw [Value.read, LawfulDatum.ofValue?_toValue]

end SquarePool.Sql
