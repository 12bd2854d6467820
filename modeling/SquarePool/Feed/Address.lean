import SquarePool.Game
import SquarePool.Text.Decimal
import SquarePool.Text.Percent

/-!
# Addresses of pages

Where each page of a feed is found. Values from outside are escaped, so they can neither add a
parameter nor leave their place. Only parts of a query that say something are sent, in a fixed
order.
-/

namespace SquarePool.Feed

/-- How many teams a page of teams may list. -/
def teamsPageLimit : Nat := 1000

/-- A base address without the slashes at its end. -/
def trimBase (base : String) : String :=
  String.ofList (base.toList.reverse.dropWhile (· == '/')).reverse

/-- A page of a league. -/
def leaguePage (base : String) (league : League) (page : String) : String :=
  base ++ "/" ++ league.feedPath ++ "/" ++ page

/-- The parameters that a scoreboard query sends. Weeks are sent only where seasons have them;
numbers must be above zero. -/
def scoreboardParameters (league : League) (query : ScoreboardQuery) : List (String × String) :=
  let positive (n : Option Int) : List String := ((n.filter (0 < ·)).map Text.showInt).toList
  ((query.date.filter (· ≠ "")).toList.map fun d => ("dates", d))
    ++ (if league.isFootball then (positive query.week).map fun n => ("week", n) else [])
    ++ ((positive query.season).map fun n => ("seasonYear", n))
    ++ query.seasonType.toList.map fun part => ("seasontype", Text.showInt part.code)

/-- Parameters as they are written after a page. -/
def writeParameters : List (String × String) → String
  | [] => ""
  | parameters =>
    "?" ++ "&".intercalate (parameters.map fun (name, value) =>
      name ++ "=" ++ Text.Percent.encode value)

/-- The page of teams. -/
def teamsAddress (base : String) (league : League) : String :=
  leaguePage base league s!"teams?limit={teamsPageLimit}"

/-- The scoreboard. -/
def scoreboardAddress (base : String) (league : League) (query : ScoreboardQuery) : String :=
  leaguePage base league "scoreboard" ++ writeParameters (scoreboardParameters league query)

/-- The schedule of a team. -/
def scheduleAddress (base : String) (league : League) (teamId : String) : String :=
  leaguePage base league ("teams/" ++ Text.Percent.encode teamId ++ "/schedule")

/-- The summary of a game. -/
def summaryAddress (base : String) (league : League) (gameId : String) : String :=
  leaguePage base league ("summary?event=" ++ Text.Percent.encode gameId)

end SquarePool.Feed
