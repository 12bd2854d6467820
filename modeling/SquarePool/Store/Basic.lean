import SquarePool.Store.Grid
import SquarePool.Store.Request
import SquarePool.Store.Table

/-!
# The store

The tables of a pool in memory, and how each write changes them. Teams are kept by identifier and
league, games by the identifier that the feed gives them; a game is numbered when it first appears
and keeps its number. Nothing is ever removed but the numbers of a grid that are drawn again.
-/

namespace SquarePool

/-- The tables of a pool. -/
structure Store where
  teams : List TeamRow := []
  games : List GameRow := []
  /-- The number of the game that came last. -/
  lastGameId : Int := 0
  logs : List SyncLog := []
  pools : List Pool := []
  grids : List Grid := []
  colours : List GridColours := []
  numberSets : List NumberSet := []
  /-- The numbers of the games whose change was announced, in order. -/
  notices : List Int := []
  deriving DecidableEq, Repr, Inhabited

/-- The key of a team. -/
def TeamRow.key (team : TeamRow) : String × League := (team.id, team.league)

/-- A stored team after a record is written over it. Optional parts that the record leaves open keep
their value. -/
def TeamRow.overwrite (old : TeamRow) (record : TeamRecord) (now : Instant) : TeamRow :=
  { old with
    name := record.name
    fullName := record.fullName
    abbreviation := record.abbreviation
    location := record.location.or old.location
    color := record.color.or old.color
    alternateColor := record.alternateColor.or old.alternateColor
    conference := record.conference.or old.conference
    division := record.division.or old.division
    modified := now }

/-- The game is not over and started more than a day ago. -/
def GameRow.isStale (game : GameRow) (now : Instant) : Bool :=
  !game.progress.status.isFinal && game.start < now.addSeconds (-Instant.daySeconds)

/-- The game as over, with nothing known about its score. -/
def GameRow.ended (game : GameRow) (now : Instant) : GameRow :=
  { game with progress := { status := .final }, modified := now }

/-- The game may have a new score: it is being played and started within a day, it starts within
two hours, or it should have started within the last day and is not over. -/
def GameRow.needsUpdate (game : GameRow) (now : Instant) : Bool :=
  let dayAgo := now.addSeconds (-Instant.daySeconds)
  let soon := now.addSeconds 7200
  (game.progress.status == .inProgress && dayAgo ≤ game.start)
    || (game.progress.status == .scheduled && now ≤ game.start && game.start ≤ soon)
    || (!game.progress.status.isFinal && dayAgo ≤ game.start && game.start < now)

namespace Store

/-- The team with an identifier in a league. -/
def team? (store : Store) (id : String) (league : League) : Option TeamRow :=
  Table.find? TeamRow.key (id, league) store.teams

/-- Writes a team. -/
def putTeam (store : Store) (now : Instant) (record : TeamRecord) : Store :=
  let row := match store.team? record.id record.league with
    | some old => old.overwrite record now
    | none => record.row now
  { store with teams := Table.put TeamRow.key row store.teams }

/-- The game with a number. -/
def game? (store : Store) (id : Int) : Option GameRow :=
  Table.find? GameRow.id id store.games

/-- The game that the feed knows by an identifier. -/
def gameByExternalId? (store : Store) (externalId : String) : Option GameRow :=
  Table.find? (·.externalId) externalId store.games

/-- Writes a game in full. -/
def putGame (store : Store) (now : Instant) (record : GameRecord) : GameRow × Store :=
  match store.gameByExternalId? record.externalId with
  | some old =>
    let row := { record.row now with id := old.id, created := old.created }
    (row, { store with games := Table.put GameRow.id row store.games })
  | none =>
    let row := { record.row now with id := store.lastGameId + 1 }
    (row, { store with games := Table.put GameRow.id row store.games, lastGameId := row.id })

/-- Ends the games that should have ended long ago, and counts them. -/
def finalizeStale (store : Store) (now : Instant) : Nat × Store :=
  ((store.games.filter (·.isStale now)).length,
    { store with games := Table.updateWhere (·.isStale now) (·.ended now) store.games })

/-- Opens the log of a run. -/
def openLog (store : Store) (now : Instant) (mode : SyncMode) (league : Option League) :
    SyncLog × Store :=
  let log : SyncLog := { id := store.logs.length + 1, mode, league, started := now }
  (log, { store with logs := store.logs ++ [log] })

/-- Closes the log of a run. -/
def closeLog (store : Store) (now : Instant) (log : SyncLog) (processed : Int) (success : Bool)
    (message : Option String) : SyncLog × Store :=
  let closed := log.close now processed success message
  (closed, { store with logs := Table.replace SyncLog.id closed store.logs })

/-- The two teams of a game, home first. -/
def teamsOf? (store : Store) (game : GameRow) : Option (TeamRow × TeamRow) := do
  let home ← store.team? game.homeTeamId game.league
  let away ← store.team? game.awayTeamId game.league
  some (home, away)

/-- The settings belong to a grid that follows the game. -/
def coloursFollow (store : Store) (gameId : Int) (colours : GridColours) : Bool :=
  store.grids.any fun grid => grid.id == colours.gridId && grid.follows gameId

/-- Brings the names and colours of the grids of a game up to date, and counts the grids and the
settings that change. Nothing changes as long as a team of the game is not stored. -/
def refreshGrids (store : Store) (gameId : Int) : Nat × Store :=
  match (store.game? gameId).bind store.teamsOf? with
  | none => (0, store)
  | some (home, away) =>
    let named := store.grids.filter fun grid =>
      grid.follows gameId && grid.withNames home away != grid
    let filled := store.colours.filter fun colours =>
      store.coloursFollow gameId colours && colours.fill home away != colours
    (named.length + filled.length,
      { store with
        grids := Table.updateWhere (·.follows gameId) (·.withNames home away) store.grids
        colours :=
          Table.updateWhere (store.coloursFollow gameId) (·.fill home away) store.colours })

/-- Announces a change of a game. -/
def notify (store : Store) (gameId : Int) : Store :=
  { store with notices := store.notices ++ [gameId] }

/-- Writes a pool. -/
def putPool (store : Store) (pool : Pool) : Store :=
  { store with pools := Table.put Pool.id pool store.pools }

/-- Writes a grid. -/
def putGrid (store : Store) (grid : Grid) : Store :=
  { store with grids := Table.put Grid.id grid store.grids }

/-- Writes the colours of a grid. -/
def putColours (store : Store) (colours : GridColours) : Store :=
  { store with colours := Table.put GridColours.gridId colours store.colours }

/-- Writes the numbers drawn for a period, in place of those drawn before. -/
def putNumberSet (store : Store) (set : NumberSet) : Store :=
  { store with
    numberSets := (store.numberSets.filter fun s =>
      !(s.gridId == set.gridId && s.period == set.period)) ++ [set] }

end Store

end SquarePool
