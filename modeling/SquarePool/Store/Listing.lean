import SquarePool.Store.Basic

/-!
# Listings

What can be read from a store: games from the earliest on, teams by name, logs, and everything that
scoring a grid needs. Every listing of games is in one order, by start and number, so that two
listings agree on the games that they share.
-/

namespace SquarePool

/-- Games are listed by start, and by number where they start together. -/
def GameRow.comesBefore (a b : GameRow) : Bool :=
  a.start < b.start || (a.start == b.start && a.id ≤ b.id)

/-- Teams are listed by name. A store promises no more than that: which of two teams of one name
comes first is the choice of this library, by identifier, and nothing is proved from it. -/
def TeamRow.comesBefore (a b : TeamRow) : Bool :=
  a.name < b.name || (a.name == b.name && !(b.id < a.id))

/-- A grid can be linked to the game as long as it is not over. -/
def GameRow.isLinkable (game : GameRow) : Bool :=
  game.progress.status == .scheduled || game.progress.status == .inProgress

/-- One of the names of the team holds a text, which is in lower case. -/
def TeamRecord.namesHold (team : TeamRecord) (text : String) : Bool :=
  [team.name, team.fullName, team.abbreviation].any fun name =>
    Text.contains (Text.lower name) text

/-- The rows from `offset` on, `limit` of them. Numbers below zero count as zero. -/
def Excerpt.ofList {α : Type} (rows : List α) (offset limit : Int) : Excerpt α where
  items := (rows.drop offset.toNat).take limit.toNat
  total := rows.length

/-- The later of two logs: the one that ended later, or else the one with the greater number. -/
def SyncLog.later (a b : SyncLog) : SyncLog :=
  let earlier : Bool := match a.completed, b.completed with
    | none, none => a.id ≤ b.id
    | none, some _ => true
    | some _, none => false
    | some s, some t => s < t || (s == t && a.id ≤ b.id)
  if earlier then b else a

/-- The latest of some logs. -/
def SyncLog.latest? : List SyncLog → Option SyncLog
  | [] => none
  | log :: rest => some (rest.foldl SyncLog.later log)

namespace Store

/-- The games that fit, in listing order. -/
def gamesWhere (store : Store) (fits : GameRow → Bool) : List GameRow :=
  (store.games.filter fits).mergeSort GameRow.comesBefore

/-- The teams of a league, in listing order. -/
def teamsOf (store : Store) (league : League) : List TeamRow :=
  (store.teams.filter (·.league == league)).mergeSort TeamRow.comesBefore

/-- A league is the one that is asked for, or all are. -/
def inScope (scope : Option League) (league : League) : Bool :=
  match scope with
  | none => true
  | some only => league == only

/-- The game can be linked, and a team of it has a name that holds the text. -/
def isFound (store : Store) (league : League) (text : String) (game : GameRow) : Bool :=
  game.league == league && game.isLinkable
    && match store.teamsOf? game with
      | some (home, away) => home.namesHold text || away.namesHold text
      | none => false

/-- The log of the latest run of a mode that succeeded. -/
def lastSuccess? (store : Store) (mode : SyncMode) (league : Option League) : Option SyncLog :=
  SyncLog.latest? (store.logs.filter fun log =>
    log.mode == mode && log.success == some true
      && match league with
        | none => true
        | some only => log.league == some only)

/-- The tokens of the pools with an active grid on a game, in order and each once. -/
def poolTokens (store : Store) (gameId : Int) : List String :=
  let tokens := (store.grids.filter (·.follows gameId)).filterMap fun grid =>
    (Table.find? Pool.id grid.poolId store.pools).map (·.token)
  (tokens.mergeSort fun a b => !(b < a)).eraseDups

/-- Everything that decides who wins on a grid of a known pool. -/
def scoreSheet? (store : Store) (gridId : Int) : Option ScoreSheet := do
  let grid ← Table.find? Grid.id gridId store.grids
  let pool ← Table.find? Pool.id grid.poolId store.pools
  some {
    gridId := gridId
    board := pool.board
    payout := grid.payout.getD pool.payout
    homeTeamName := grid.homeTeamName
    awayTeamName := grid.awayTeamName
    homeNumbers := grid.homeNumbers
    awayNumbers := grid.awayNumbers
    game := grid.gameId.bind store.game?
    numberSets := store.numberSets.filter (·.gridId == gridId) }

/-- Carries out a request at a given time. -/
def perform (store : Store) (now : Instant) : (r : Request) → r.Answer × Store
  | .putTeam record => ((), store.putTeam now record)
  | .team id league => (store.team? id league, store)
  | .teams league => (store.teamsOf league, store)
  | .teamCount scope => ((store.teams.filter fun t => inScope scope t.league).length, store)
  | .putGame record => store.putGame now record
  | .game id => (store.game? id, store)
  | .gameByExternalId externalId => (store.gameByExternalId? externalId, store)
  | .games league status limit =>
    let rows := store.gamesWhere fun g =>
      g.league == league && match status with
        | none => true
        | some s => g.progress.status == s
    (match limit with
      | none => rows
      | some n => rows.take n.toNat, store)
  | .upcoming league limit =>
    ((store.gamesWhere fun g =>
      g.league == league && g.progress.status == .scheduled && now ≤ g.start).take limit.toNat,
      store)
  | .inProgress scope =>
    (store.gamesWhere fun g => g.progress.status == .inProgress && inScope scope g.league, store)
  | .linkable league offset limit =>
    (Excerpt.ofList (store.gamesWhere fun g => g.league == league && g.isLinkable) offset limit,
      store)
  | .search league text offset limit =>
    (Excerpt.ofList (store.gamesWhere (store.isFound league (Text.lower text))) offset limit,
      store)
  | .needingUpdate => (store.gamesWhere (·.needsUpdate now), store)
  | .finalizeStale => store.finalizeStale now
  | .gameCount scope => ((store.games.filter fun g => inScope scope g.league).length, store)
  | .openLog mode league => store.openLog now mode league
  | .closeLog log processed success message => store.closeLog now log processed success message
  | .lastSuccess mode league => (store.lastSuccess? mode league, store)
  | .refreshGrids gameId => store.refreshGrids gameId
  | .poolTokens gameId => (store.poolTokens gameId, store)
  | .scoreSheet gridId => (store.scoreSheet? gridId, store)

end Store

end SquarePool
