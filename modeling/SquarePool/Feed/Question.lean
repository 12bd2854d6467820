import SquarePool.Feed.Error

/-!
# Questions to a feed

Everything a sync run asks a feed, with the type of each answer.
-/

namespace SquarePool

/-- A question to the feed. -/
inductive Question where
  /-- The teams of a league. -/
  | teams (league : League)
  /-- The games on a scoreboard. -/
  | scoreboard (league : League) (query : ScoreboardQuery)
  /-- The games of a span of days, both ends included. -/
  | dateRange (league : League) (first last : Date)
  /-- The games of a team. -/
  | schedule (league : League) (teamId : String)
  /-- One game. -/
  | summary (league : League) (gameId : String)
  /-- The current or coming season. -/
  | season (league : League)
  deriving DecidableEq, Repr

/-- What a question is answered with. -/
abbrev Question.Answer : Question → Type
  | .teams _ => List Team
  | .scoreboard .. | .dateRange .. | .schedule .. => List Game
  | .summary .. => Game
  | .season _ => SeasonWindow

end SquarePool
