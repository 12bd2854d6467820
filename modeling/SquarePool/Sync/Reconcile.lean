import SquarePool.Sync.Step

/-!
# Reconciling a game

The one way in which a game from the feed reaches the store. Both teams are written first, then the
game. A game that is stored as final keeps its score when the feed takes that back; only its teams
can still change. A change that a score display shows is announced, and grids are brought up to
date when the game is new or its teams changed.
-/

namespace SquarePool

/-- What was done with a game from the feed. -/
inductive Outcome where
  /-- Nothing, on a dry run. -/
  | skipped
  /-- The stored game is final and the reported one is not. -/
  | keptFinal (gameId : Int) (gridsChanged : Nat)
  | applied (gameId : Int) (created notified : Bool) (gridsChanged : Nat)
  deriving DecidableEq, Repr

/-- The record with the teams of another one. -/
def GameRecord.withTeamsOf (record other : GameRecord) : GameRecord :=
  { record with homeTeamId := other.homeTeamId, awayTeamId := other.awayTeamId }

/-- The stored game is over, and the record says that it is not. -/
def GameRow.outranks (stored : GameRow) (record : GameRecord) : Bool :=
  stored.progress.status.isFinal && !record.progress.status.isFinal

namespace Sync

variable {σ : Type}

/-- Keeps a game that is over as it is, except that its teams may change. -/
def keepFinal (services : Services σ) (old : GameRow) (record : GameRecord) : Step σ Outcome := do
  if old.teamsDiffer record then
    let stored ← store services (.putGame (old.toGameRecord.withTeamsOf record))
    let grids ← store services (.refreshGrids stored.id)
    pure (.keptFinal old.id grids)
  else
    pure (.keptFinal old.id 0)

/-- Announces that a stored game changed, if it did, and says whether that was done. -/
def announce (services : Services σ) (changed : Bool) (gameId : Int) : Step σ Bool :=
  if changed then do
    let sent ← recover ((services.notify gameId).mapError .store)
    pure sent.isOk
  else
    pure false

/-- Brings the grids of a game up to date, if they are not, and counts what changed. -/
def refreshGrids (services : Services σ) (outdated : Bool) (gameId : Int) : Step σ Nat :=
  if outdated then store services (.refreshGrids gameId) else pure 0

/-- Writes a game, announces a change of its score, and brings its grids up to date. -/
def applyGame (services : Services σ) (old : Option GameRow) (record : GameRecord) :
    Step σ Outcome := do
  let stored ← store services (.putGame record)
  let notified ← announce services (old.any fun o => o.scoreDiffers record) stored.id
  let grids ← refreshGrids services (old.all fun o => o.teamsDiffer stored.toGameRecord) stored.id
  pure (.applied stored.id old.isNone notified grids)

/-- Brings the store up to date with a game from the feed. -/
def processGame (services : Services σ) (scope : SyncScope) (league : League) (game : Game) :
    Step σ Outcome := do
  if scope.dryRun then
    pure .skipped
  else
    store services (.putTeam (TeamRecord.ofFeed league game.home.team))
    store services (.putTeam (TeamRecord.ofFeed league game.away.team))
    let old ← store services (.gameByExternalId game.id)
    let record := GameRecord.ofFeed league game
    match old with
    | some o =>
      if o.outranks record then keepFinal services o record
      else applyGame services (some o) record
    | none => applyGame services none record

/-- Brings the store up to date with games from the feed, and counts those that succeed. -/
def processGames (services : Services σ) (scope : SyncScope) (league : League)
    (games : List Game) : Step σ Nat :=
  countSucceeding services (processGame services scope league) games

end Sync

end SquarePool
