import SquarePool.Invalid
import SquarePool.Instant.Basic

/-!
# Games

What a feed reports once its payloads are understood: teams, games with the points of both sides,
and the window of a season. The line scores of a side keep the first four periods apart and add the
later ones up.
-/

namespace SquarePool

/-- The part of a season a game belongs to. -/
inductive SeasonType where
  | preseason
  | regular
  | postseason
  deriving DecidableEq, Repr, Inhabited

namespace SeasonType

/-- The three parts of a season, in order. -/
def all : List SeasonType := [preseason, regular, postseason]

/-- The name used in documents. -/
protected def key : SeasonType → String
  | preseason => "Preseason"
  | regular => "Regular"
  | postseason => "Postseason"

instance : Keyed SeasonType := ⟨all, SeasonType.key⟩

instance : LawfulKeyed SeasonType where
  mem_members a := by cases a <;> decide
  key_injective a b := by cases a <;> cases b <;> decide

/-- The number that feeds use. -/
def code : SeasonType → Int
  | preseason => 1
  | regular => 2
  | postseason => 3

/-- The part of a season with a number. -/
def ofCode? (n : Int) : Option SeasonType := all.find? (·.code = n)

end SeasonType

/-- How far a game has come. -/
inductive GameStatus where
  | scheduled
  | inProgress
  | final
  deriving DecidableEq, Repr, Inhabited

namespace GameStatus

/-- Every status, in the order in which a game passes through them. -/
def all : List GameStatus := [scheduled, inProgress, final]

/-- The key a status is stored under. -/
protected def key : GameStatus → String
  | scheduled => "scheduled"
  | inProgress => "in_progress"
  | final => "final"

instance : Keyed GameStatus := ⟨all, GameStatus.key⟩

instance : LawfulKeyed GameStatus where
  mem_members a := by cases a <;> decide
  key_injective a b := by cases a <;> cases b <;> decide

/-- Whether the game is over. -/
def isFinal (status : GameStatus) : Bool := status == final

/-- Reads the key of a status. -/
def ofText (text : String) : Except Invalid GameStatus :=
  match ofKey? text with
  | some status => .ok status
  | none => .error (.status text)

end GameStatus

/-- A team as a feed reports it. Colours are hexadecimal, without a number sign. -/
structure Team where
  id : String := ""
  /-- The nickname. -/
  name : String := ""
  /-- Place and nickname. -/
  fullName : String := ""
  abbreviation : String := ""
  location : Option String := none
  color : Option String := none
  alternateColor : Option String := none
  deriving DecidableEq, Repr, Inhabited

/-- The points of one side by period. Everything after the fourth period is overtime. -/
structure LineScores where
  q1 : Option Int := none
  q2 : Option Int := none
  q3 : Option Int := none
  q4 : Option Int := none
  ot : Option Int := none
  deriving DecidableEq, Repr, Inhabited

namespace LineScores

/-- The sum of the values that are known, if any is. It is the true sum: the points of overtime are
taken to add up within 32 bits. -/
def sumKnown (values : List (Option Int)) : Option Int :=
  match values.filterMap id with
  | [] => none
  | known => some (known.foldr (· + ·) 0)

/-- Line scores from a list with one entry per period. An entry that is not known leaves its
quarter unknown and adds nothing to overtime. -/
def ofEntries (entries : List (Option Int)) : LineScores where
  q1 := entries[0]?.join
  q2 := entries[1]?.join
  q3 := entries[2]?.join
  q4 := entries[3]?.join
  ot := sumKnown (entries.drop 4)

/-- Line scores from the points of each period. -/
def ofPeriods (points : List Int) : LineScores := ofEntries (points.map some)

end LineScores

/-- The points of one side: in all, and by period. -/
structure Points where
  total : Option Int := none
  lines : LineScores := {}
  deriving DecidableEq, Repr, Inhabited

/-- One side of a game. -/
structure Side where
  team : Team := {}
  points : Points := {}
  deriving DecidableEq, Repr, Inhabited

/-- A game as a feed reports it. -/
structure Game where
  id : String := ""
  /-- The title of the few games that have one. -/
  name : Option String := none
  start : Instant
  status : GameStatus := .scheduled
  /-- The status in words; empty when there are none. -/
  statusDetail : String := ""
  /-- Zero before the start, then the period, counting overtime from the fifth on. -/
  period : Int := 0
  /-- The clock as shown; empty when there is none. -/
  clock : String := ""
  season : Int := 0
  /-- The number of the part of the season, as given. -/
  seasonType : Int := 0
  week : Option Int := none
  venue : Option String := none
  home : Side := {}
  away : Side := {}
  deriving DecidableEq, Repr

/-- Whether the game is part of the postseason. -/
def Game.isPostseason (game : Game) : Bool := game.seasonType == SeasonType.postseason.code

/-- The games whose identifier is neither among those `seen` nor that of an earlier game. -/
def Game.unseen (seen : List String) : List Game → List Game
  | [] => []
  | game :: rest =>
    if game.id ∈ seen then unseen seen rest else game :: unseen (game.id :: seen) rest

/-- The games with only the first of each identifier kept. -/
def Game.firstOfEachId (games : List Game) : List Game := Game.unseen [] games

/-- The current or coming season of a league. -/
structure SeasonWindow where
  year : Int
  start : Instant
  finish : Instant
  /-- The part of the season, in words. -/
  typeName : String
  inSeason : Bool
  deriving DecidableEq, Repr

/-- What a scoreboard is asked for. Parts that are absent are not asked. -/
structure ScoreboardQuery where
  /-- Year, month and day without separators. -/
  date : Option String := none
  week : Option Int := none
  season : Option Int := none
  seasonType : Option SeasonType := none
  deriving DecidableEq, Repr, Inhabited

/-- Asks for the games of a day. -/
def ScoreboardQuery.forDate (date : Date) : ScoreboardQuery := { date := some date.compact }

/-- Asks for the games of a week. -/
def ScoreboardQuery.forWeek (season week : Int) (part : SeasonType) : ScoreboardQuery :=
  { week := some week, season := some season, seasonType := some part }

end SquarePool
