import SquarePool.Game
import SquarePool.Payout
import SquarePool.Text.Decimal

/-!
# Progress of a game

The state of a game that a score display shows: its status, period and clock, and the points of
both sides. From it follow which periods can no longer change, and the score at the end of each. Scores
are numbers of 32 bits, and so are their sums.
-/

namespace SquarePool

/-- The sum of two scores, which has 32 bits like the scores themselves: it wraps around where the
true sum does not fit. A program that is built to check its sums stops there instead. -/
def Score.add (a b : Int) : Int := (a + b).bmod (Nat.pow 2 32)

theorem Score.add_of_isInt32 {a b : Int} (fits : Text.isInt32 (a + b)) : Score.add a b = a + b := by
  have bounds : Text.int32Min ≤ a + b ∧ a + b ≤ Text.int32Max := by
    simpa [Text.isInt32] using fits
  rw [Text.int32Min, Text.int32Max] at bounds
  have hmodulus : ((Nat.pow 2 32 : Nat) : Int) = 4294967296 := rfl
  exact Int.bmod_eq_of_le_mul_two (by omega) (by omega)

/-- Everything about a game that its score display shows. -/
structure Progress where
  status : GameStatus := .scheduled
  /-- The status in words. -/
  detail : Option String := none
  period : Option Int := none
  clock : Option String := none
  home : Points := {}
  away : Points := {}
  deriving DecidableEq, Repr, Inhabited

namespace Points

/-- The points through the second period. -/
def throughSecond (p : Points) : Option Int := do
  let first ← p.lines.q1
  let second ← p.lines.q2
  some (Score.add first second)

/-- The points through the third period. -/
def throughThird (p : Points) : Option Int := do
  let half ← p.throughSecond
  let third ← p.lines.q3
  some (Score.add half third)

/-- The points at the end of a period. In a league of halves the first line score is the half. -/
def through (p : Points) (league : League) : Period → Option Int
  | .q1 => p.lines.q1
  | .half => if league.playsHalves then p.lines.q1 else p.throughSecond
  | .q2 => p.throughSecond
  | .q3 => p.throughThird
  | .q4 | .final | .all => p.total

end Points

namespace Progress

/-- The status text says that a period has ended. -/
def saysEndOf (p : Progress) : Bool := Text.contains (Text.lower (p.detail.getD "")) "end of"

/-- The status text says that it is halftime. -/
def saysHalftime (p : Progress) : Bool := Text.contains (Text.lower (p.detail.getD "")) "halftime"

/-- The period that is being played; zero when it is not known. -/
def current (p : Progress) : Int := p.period.getD 0

/-- Whether the score at the end of a period can no longer change. -/
def isComplete (p : Progress) (league : League) : Period → Bool
  | .q1 => p.status.isFinal || 2 ≤ p.current || (p.current == 1 && p.saysEndOf)
  | .q2 | .half =>
    let last : Int := if league.playsHalves then 1 else 2
    p.status.isFinal || last + 1 ≤ p.current || p.saysHalftime
      || (p.current == last && p.saysEndOf)
  | .q3 => p.status.isFinal || 4 ≤ p.current || (p.current == 3 && p.saysEndOf)
  | .q4 | .final | .all => p.status.isFinal

/-- The score at the end of a period, home first. -/
def scoreThrough (p : Progress) (league : League) (period : Period) : Option Int × Option Int :=
  (p.home.through league period, p.away.through league period)

end Progress

end SquarePool
