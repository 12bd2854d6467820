import SquarePool.Record

/-!
# Requests to a store

Everything that is asked of a store of teams, games and sync logs, with the type of each answer.
A store in memory and one behind a database carry out the same requests.
-/

namespace SquarePool

/-- A part of a list, with the length of the whole list. -/
structure Excerpt (α : Type) where
  items : List α
  total : Int
  deriving DecidableEq, Repr

/-- A request to the store. Where a league is optional, its absence means every league. -/
inductive Request where
  /-- Writes a team. What the record leaves open keeps its stored value. -/
  | putTeam (record : TeamRecord)
  | team (id : String) (league : League)
  /-- The teams of a league, by name. -/
  | teams (league : League)
  | teamCount (league : Option League)
  /-- Writes a game in full. -/
  | putGame (record : GameRecord)
  | game (id : Int)
  | gameByExternalId (externalId : String)
  /-- The games of a league from the earliest on, of one status if that is given. -/
  | games (league : League) (status : Option GameStatus) (limit : Option Int)
  /-- The scheduled games of a league that are still to start. -/
  | upcoming (league : League) (limit : Int)
  | inProgress (league : Option League)
  /-- The games of a league that a grid can be linked to. -/
  | linkable (league : League) (offset limit : Int)
  /-- Those of them with a team whose name, full name or abbreviation holds the text. -/
  | search (league : League) (text : String) (offset limit : Int)
  /-- The games whose score is worth asking for. -/
  | needingUpdate
  /-- Ends the games that should have ended long ago. -/
  | finalizeStale
  | gameCount (league : Option League)
  /-- Opens the log of a run. -/
  | openLog (mode : SyncMode) (league : Option League)
  /-- Closes the log of a run. -/
  | closeLog (log : SyncLog) (processed : Int) (success : Bool) (message : Option String)
  /-- The log of the latest run that succeeded. -/
  | lastSuccess (mode : SyncMode) (league : Option League)
  /-- Brings the names and colours of the grids of a game up to date. -/
  | refreshGrids (gameId : Int)
  /-- The tokens of the pools with an active grid on a game, each once. -/
  | poolTokens (gameId : Int)
  | scoreSheet (gridId : Int)
  deriving DecidableEq, Repr

/-- What a request is answered with. -/
abbrev Request.Answer : Request → Type
  | .putTeam _ => Unit
  | .team .. => Option TeamRow
  | .teams _ => List TeamRow
  | .teamCount _ | .gameCount _ => Int
  | .putGame _ => GameRow
  | .game _ | .gameByExternalId _ => Option GameRow
  | .games .. | .upcoming .. | .inProgress _ | .needingUpdate => List GameRow
  | .linkable .. | .search .. => Excerpt GameRow
  /- How many games were ended. -/
  | .finalizeStale => Nat
  | .openLog .. | .closeLog .. => SyncLog
  | .lastSuccess .. => Option SyncLog
  /- How many grids and settings changed. -/
  | .refreshGrids _ => Nat
  | .poolTokens _ => List String
  | .scoreSheet _ => Option ScoreSheet

end SquarePool
