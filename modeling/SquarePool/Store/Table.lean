/-!
# Tables

A table is a list of rows in the order in which their keys first appeared. Main statements: after a
row is put into a table its key finds that row, and every other key finds what it found before.
-/

namespace SquarePool.Table

variable {α κ : Type} [DecidableEq κ]

/-- The row with a key. -/
def find? (key : α → κ) (k : κ) (rows : List α) : Option α := rows.find? fun row => key row = k

/-- Puts a row in the place of the one with its key, or at the end. -/
def put (key : α → κ) (row : α) : List α → List α
  | [] => [row]
  | old :: rest => if key old = key row then row :: rest else old :: put key row rest

/-- Puts a row in the place of the one with its key, if there is one. -/
def replace (key : α → κ) (row : α) : List α → List α
  | [] => []
  | old :: rest => if key old = key row then row :: rest else old :: replace key row rest

/-- Rewrites the rows that are chosen. -/
def updateWhere (chosen : α → Bool) (f : α → α) (rows : List α) : List α :=
  rows.map fun row => if chosen row then f row else row

theorem find?_put_self (key : α → κ) (row : α) (rows : List α) :
    find? key (key row) (put key row rows) = some row := by
  induction rows with
  | nil => simp [find?, put]
  | cons old rest ih =>
    by_cases h : key old = key row
    · simp [find?, put, h]
    · simp only [find?, put, h, if_false] at ih ⊢
      simp [h, ih]

theorem find?_put_of_ne (key : α → κ) {row : α} {k : κ} (h : key row ≠ k) (rows : List α) :
    find? key k (put key row rows) = find? key k rows := by
  induction rows with
  | nil => simp [find?, put, h]
  | cons old rest ih =>
    by_cases ho : key old = key row
    · have : key old ≠ k := ho ▸ h
      simp [find?, put, ho, h]
    · simp only [find?, put, ho, if_false, List.find?_cons] at ih ⊢
      rw [ih]

theorem key_of_find? {key : α → κ} {k : κ} {rows : List α} {row : α}
    (h : find? key k rows = some row) : key row = k := by
  simpa using List.find?_some h

theorem mem_of_find? {key : α → κ} {k : κ} {rows : List α} {row : α}
    (h : find? key k rows = some row) : row ∈ rows :=
  List.mem_of_find?_eq_some h

end SquarePool.Table
