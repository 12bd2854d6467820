import SquarePool.Game

/-!
# Failures of a feed

Why a question to the feed got no answer. Only being asked to slow down is worth another attempt.
-/

namespace SquarePool

/-- The four kinds of page a feed serves. -/
inductive Page where
  | teams
  | scoreboard
  | schedule
  | summary
  deriving DecidableEq, Repr

/-- The name of a page. -/
def Page.name : Page → String
  | teams => "teams"
  | scoreboard => "scoreboard"
  | schedule => "schedule"
  | summary => "summary"

/-- A part without which a page says nothing. -/
inductive MissingPart where
  | competitions
  | summaryCompetitions
  | sides
  | leagueInfo
  deriving DecidableEq, Repr

/-- The missing part, in words. -/
def MissingPart.name : MissingPart → String
  | competitions => "competitions"
  | summaryCompetitions => "competitions in summary"
  | sides => "home and away competitors"
  | leagueInfo => "league info"

/-- Why a question to the feed failed. -/
inductive FeedError where
  /-- The feed asked to slow down at every attempt. -/
  | rateLimited (attempts : Nat) (url : String)
  /-- The feed answered with a status other than success. -/
  | status (code : Nat) (url : String)
  /-- No answer came, and what is said of that. -/
  | network (cause : String := "")
  /-- The answer is no page of the expected kind, and what is said of that. -/
  | decode (page : Page) (cause : String := "")
  | gameNotFound (league : League) (gameId : String)
  | unreadableDate (text : String)
  | missing (part : MissingPart)
  /-- The run was stopped. -/
  | cancelled
  deriving DecidableEq, Repr

namespace FeedError

/-- Whether another attempt may succeed. -/
def isRetryable : FeedError → Bool
  | rateLimited .. => true
  | _ => false

/-- The failure, in words. -/
def message : FeedError → String
  | rateLimited attempts url => s!"rate limited by ESPN after {attempts} attempts: {url}"
  | status code url => s!"ESPN returned {code} for {url}"
  | network cause => "ESPN request failed: " ++ cause
  | decode page cause => "failed to decode ESPN " ++ page.name ++ " response: " ++ cause
  | gameNotFound league gameId => s!"event {gameId} not found in {key league}"
  | unreadableDate text => "could not parse date with any known format: " ++ text
  | missing part => "ESPN response has no " ++ part.name
  | cancelled => "ESPN request cancelled"

end FeedError

end SquarePool
