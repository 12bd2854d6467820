import SquarePool.Invalid

/-!
# Boards

The four layouts of a board of squares, and where a pair of digits lands on each. Squares are
numbered from one, row by row; away digits run down the side, home digits across the top.
-/

namespace SquarePool

/-- The layout of a board. -/
inductive Board where
  /-- Ten by ten, one square for each pair of digits. -/
  | std100
  /-- Five rows of ten: each row holds two away digits. -/
  | std50
  /-- Five by five: each square holds two home and two away digits. -/
  | std25
  /-- Ten by ten, with prizes that roll over. -/
  | roll100
  deriving DecidableEq, Repr, Inhabited

namespace Board

/-- Every layout. -/
def all : List Board := [std100, std50, std25, roll100]

/-- The key a layout is stored under. -/
protected def key : Board → String
  | std100 => "std100"
  | std50 => "std50"
  | std25 => "std25"
  | roll100 => "roll100"

instance : Keyed Board := ⟨all, Board.key⟩

instance : LawfulKeyed Board where
  mem_members a := by cases a <;> decide
  key_injective a b := by cases a <;> cases b <;> decide

/-- The layout, in words. -/
def description : Board → String
  | std100 => "Standard, 100 squares"
  | std50 => "Standard, 50 squares"
  | std25 => "Standard, 25 squares"
  | roll100 => "Rollover, 100 squares"

/-- How many squares can be claimed. -/
def squares : Board → Nat
  | std25 => 25
  | std50 => 50
  | std100 | roll100 => 100

/-- Reads the key of a layout. -/
def ofText (text : String) : Except Invalid Board :=
  match ofKey? text with
  | some board => .ok board
  | none => .error (.board text)

/-- The square at which column `home` meets row `away`, both counted from zero. -/
def squareAt (board : Board) (home away : Nat) : Nat :=
  match board with
  | std100 | roll100 => away * 10 + home + 1
  | std50 => away / 2 * 10 + home + 1
  | std25 => away / 2 * 5 + home / 2 + 1

/-- The last digit of a score. A negative score has a negative last digit, which is on no board. -/
def lastDigit (score : Int) : Int := score.tmod 10

/-- The square that a score wins: its last digits are looked up in the drawn numbers, each at its
first place. A draw that is not ten long, or that misses a digit, has no winner. -/
def winner? (board : Board) (homeScore awayScore : Int) (homeNumbers awayNumbers : List Int) :
    Option Nat :=
  if homeNumbers.length = 10 ∧ awayNumbers.length = 10 then do
    let home ← homeNumbers.idxOf? (lastDigit homeScore)
    let away ← awayNumbers.idxOf? (lastDigit awayScore)
    some (board.squareAt home away)
  else
    none

end Board

end SquarePool
