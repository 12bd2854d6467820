import SquarePool.Record

/-!
# Winners

The winning square of each period that is complete, and the periods that one square has won.
-/

namespace SquarePool

/-- The winning squares of a game, at most one for a period. -/
abbrev Winners := List (Period × Nat)

namespace Winners

/-- The set drawn for a period: the last one given. -/
def setFor? (sets : List NumberSet) (period : Period) : Option NumberSet :=
  sets.reverse.find? (·.period = period)

/-- The numbers that count for a period. A standard pool has one pair of lists. Any other pool
uses the pair drawn for the period, and the pair of the grid as long as there is none. -/
def numbersFor (payout : Payout) (home away : List Int) (sets : List NumberSet) (period : Period) :
    List Int × List Int :=
  if payout = .standard then (home, away)
  else ((setFor? sets period).bind NumberSet.drawn?).getD (home, away)

/-- The square that wins a period, once the period is complete and its score is known. -/
def winnerOf? (progress : Progress) (league : League) (payout : Payout) (board : Board)
    (home away : List Int) (sets : List NumberSet) (period : Period) : Option Nat :=
  if progress.isComplete league period then do
    let homeScore ← progress.home.through league period
    let awayScore ← progress.away.through league period
    let numbers := numbersFor payout home away sets period
    board.winner? homeScore awayScore numbers.1 numbers.2
  else
    none

/-- The winning square of each period that the payout pays on and that has one. -/
def ofProgress (progress : Progress) (league : League) (payout : Payout) (board : Board)
    (home away : List Int) (sets : List NumberSet) : Winners :=
  payout.periods.filterMap fun period =>
    (winnerOf? progress league payout board home away sets period).map fun square =>
      (period, square)

end Winners

/-- The winning squares of a grid; none as long as no game is linked to it. -/
def ScoreSheet.winners (sheet : ScoreSheet) : Winners :=
  match sheet.game with
  | none => []
  | some game =>
    Winners.ofProgress game.progress game.league sheet.payout sheet.board
      (sheet.homeNumbers.getD []) (sheet.awayNumbers.getD []) sheet.numberSets

/-- A period that a square has won, with its name on display and its score. -/
structure Win where
  period : Period
  label : String
  homeScore : Int
  awayScore : Int
  homeName : String
  awayName : String
  deriving DecidableEq, Repr

/-- The win of a period whose two scores are known. -/
def Progress.win? (progress : Progress) (league : League) (homeName awayName : String)
    (period : Period) : Option Win := do
  let homeScore ← progress.home.through league period
  let awayScore ← progress.away.through league period
  some { period, label := period.longLabel, homeScore, awayScore, homeName, awayName }

/-- The periods that a square has won, in display order. -/
def Winners.winsOf (winners : Winners) (square : Nat) (progress : Progress) (league : League)
    (homeName awayName : String) : List Win :=
  let won := winners.filter (·.2 = square)
  (won.filterMap fun w => progress.win? league homeName awayName w.1).mergeSort fun a b =>
    a.period.displayRank ≤ b.period.displayRank

end SquarePool
