import SquarePool.Keyed
import SquarePool.Text.Blank
import SquarePool.Text.Lower

/-!
# Leagues

The five leagues whose games a pool can be played on, and what sets them apart: the path of their
feed, whether they play halves, and whether their schedule goes by weeks.
-/

namespace SquarePool

/-- A league, in the order in which leagues are synced. -/
inductive League where
  | nfl
  | nba
  | wnba
  | ncaab
  | ncaaf
  deriving DecidableEq, Repr, Inhabited

namespace League

/-- Every league, in sync order. -/
def all : List League := [nfl, nba, wnba, ncaab, ncaaf]

/-- The lower-case key used in storage and on the command line. -/
protected def key : League → String
  | nfl => "nfl"
  | nba => "nba"
  | wnba => "wnba"
  | ncaab => "ncaab"
  | ncaaf => "ncaaf"

instance : Keyed League := ⟨all, League.key⟩

instance : LawfulKeyed League where
  mem_members a := by cases a <;> decide
  key_injective a b := by cases a <;> cases b <;> decide

/-- The name shown to people. -/
def label : League → String
  | nfl => "NFL"
  | nba => "NBA"
  | wnba => "WNBA"
  | ncaab => "NCAAB"
  | ncaaf => "NCAAF"

/-- Where the feed keeps the league: the sport, then the league. -/
def feedPath : League → String
  | nfl => "football/nfl"
  | nba => "basketball/nba"
  | wnba => "basketball/wnba"
  | ncaab => "basketball/mens-college-basketball"
  | ncaaf => "football/college-football"

/-- Men's college basketball plays two halves; every other league plays four quarters. -/
def playsHalves : League → Bool
  | ncaab => true
  | _ => false

/-- How many periods a game has before overtime. -/
def regulationPeriods (league : League) : Nat :=
  if league.playsHalves then 2 else 4

/-- The football leagues, whose games are grouped by week. -/
def isFootball : League → Bool
  | nfl | ncaaf => true
  | _ => false

/-- The weeks of the regular season and of the postseason, for leagues scheduled by week. -/
def scheduleWeeks : League → Option (Nat × Nat)
  | nfl => some (18, 5)
  | ncaaf => some (15, 3)
  | _ => none

/-- The place of the league in `all`. -/
def ordinal (league : League) : Nat := all.idxOf league

/-- Reads a league name, whatever its case and the blanks around it. -/
def ofName? (name : String) : Option League := ofKey? (Text.lower (Text.trim name))

end League

end SquarePool
