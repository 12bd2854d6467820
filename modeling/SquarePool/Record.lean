import SquarePool.Board
import SquarePool.Progress

/-!
# Stored records

The rows that a pool keeps about teams, games and sync runs, and the part of its grids that scoring
reads. A record is what is written; a row adds what the store decides: the number of a game and the
times at which it was touched.
-/

namespace SquarePool

/-- Absent rather than empty. -/
def nonEmpty (text : Option String) : Option String := text.filter (· ≠ "")

/-- What is written about a team. Its key is its identifier together with its league. -/
structure TeamRecord where
  id : String
  league : League
  name : String
  fullName : String
  abbreviation : String
  location : Option String := none
  color : Option String := none
  alternateColor : Option String := none
  conference : Option String := none
  division : Option String := none
  deriving DecidableEq, Repr

/-- A stored team. -/
structure TeamRow extends TeamRecord where
  created : Instant
  modified : Instant
  deriving DecidableEq, Repr

/-- The record of a team from a feed. Empty texts count as absent, so that they replace nothing. -/
def TeamRecord.ofFeed (league : League) (team : Team) : TeamRecord where
  id := team.id
  league := league
  name := team.name
  fullName := team.fullName
  abbreviation := team.abbreviation
  location := nonEmpty team.location
  color := nonEmpty team.color
  alternateColor := nonEmpty team.alternateColor

/-- A record as a row that was never stored before. -/
def TeamRecord.row (record : TeamRecord) (now : Instant) : TeamRow :=
  { record with created := now, modified := now }

/-- What is written about a game. Its key is the identifier that the feed gives it. -/
structure GameRecord where
  externalId : String
  league : League
  name : Option String := none
  homeTeamId : String
  awayTeamId : String
  start : Instant
  season : Int
  week : Option Int := none
  postseason : Bool
  venue : Option String := none
  progress : Progress := {}
  deriving DecidableEq, Repr

/-- A stored game. -/
structure GameRow extends GameRecord where
  id : Int
  created : Instant
  modified : Instant
  synced : Instant
  deriving DecidableEq, Repr

/-- What a game from a feed shows on its score display. -/
def Game.progress (game : Game) : Progress where
  status := game.status
  detail := nonEmpty (some game.statusDetail)
  period := some game.period
  clock := nonEmpty (some game.clock)
  home := game.home.points
  away := game.away.points

/-- The record of a game from a feed. -/
def GameRecord.ofFeed (league : League) (game : Game) : GameRecord where
  externalId := game.id
  league := league
  name := nonEmpty game.name
  homeTeamId := game.home.team.id
  awayTeamId := game.away.team.id
  start := game.start
  season := game.season
  week := game.week
  postseason := game.isPostseason
  venue := nonEmpty game.venue
  progress := game.progress

/-- A record as a row that has not been numbered. -/
def GameRecord.row (record : GameRecord) (now : Instant) : GameRow :=
  { record with id := 0, created := now, modified := now, synced := now }

/-- Whether two records of a game differ in anything a score display shows. Names, venue and start
do not count; an unknown score differs from zero. -/
def GameRecord.scoreDiffers (old new : GameRecord) : Bool := old.progress ≠ new.progress

/-- Whether two records of a game differ in a team. -/
def GameRecord.teamsDiffer (old new : GameRecord) : Bool :=
  old.homeTeamId ≠ new.homeTeamId || old.awayTeamId ≠ new.awayTeamId

/-- What a sync run does. -/
inductive SyncMode where
  | teams
  | schedule
  | scores
  deriving DecidableEq, Repr, Inhabited

namespace SyncMode

/-- Every mode, in the order in which modes run. -/
def all : List SyncMode := [teams, schedule, scores]

/-- The key a mode is stored under. -/
protected def key : SyncMode → String
  | teams => "teams"
  | schedule => "schedule"
  | scores => "scores"

instance : Keyed SyncMode := ⟨all, SyncMode.key⟩

instance : LawfulKeyed SyncMode where
  mem_members a := by cases a <;> decide
  key_injective a b := by cases a <;> cases b <;> decide

/-- Reads the key of a mode. -/
def ofText (text : String) : Except Invalid SyncMode :=
  match ofKey? text with
  | some mode => .ok mode
  | none => .error (.mode text)

end SyncMode

/-- The log of one sync run. It is open until it is given an end. -/
structure SyncLog where
  id : Int
  mode : SyncMode
  /-- The league, when the run covers one. -/
  league : Option League := none
  started : Instant
  completed : Option Instant := none
  processed : Int := 0
  success : Option Bool := none
  error : Option String := none
  deriving DecidableEq, Repr

/-- Whether the run has ended. -/
def SyncLog.isComplete (log : SyncLog) : Bool := log.completed.isSome

/-- The log with the end of its run. An empty message is no message. -/
def SyncLog.close (log : SyncLog) (now : Instant) (processed : Int) (success : Bool)
    (message : Option String) : SyncLog :=
  { log with
    completed := some now
    processed := processed
    success := some success
    error := nonEmpty message }

/-- The log that is held after an attempt to close it. A log that could not be closed is held as it
was. -/
def SyncLog.held {ε : Type} (log : SyncLog) (result : Except ε SyncLog) : SyncLog :=
  result.toOption.getD log

/-- Everything that decides who wins on a grid. -/
structure ScoreSheet where
  gridId : Int
  board : Board
  /-- The grid's own payout, or else that of its pool. -/
  payout : Payout
  homeTeamName : Option String := none
  awayTeamName : Option String := none
  homeNumbers : Option (List Int) := none
  awayNumbers : Option (List Int) := none
  game : Option GameRow := none
  numberSets : List NumberSet := []
  deriving DecidableEq, Repr

end SquarePool
