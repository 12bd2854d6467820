import SquarePool.Sync.Reconcile

/-!
# Modes

The three things a run can do. Teams are fetched league by league. A schedule is fetched week by
week for football, team by team for men's college basketball, whose scoreboard lists only some of
the games, and by a span of days for the other leagues. Scores are fetched for the games that may
have a new one: from the scoreboards of today and yesterday, and one by one where those do not list
them.
-/

namespace SquarePool

namespace Sync

variable {σ α : Type}

/-- Fetches a list for a league and processes it, under a log of its own. `recorded` says what the
log counts, from the number of items fetched and the number processed. -/
def syncLeague (services : Services σ) (scope : SyncScope) (mode : SyncMode)
    (fetch : League → Step σ (List α)) (process : League → List α → Step σ Nat)
    (recorded : Nat → Nat → Nat) (league : League) : Step σ LeagueReport := do
  checkRunning services
  let log ← openLog services scope mode (some league)
  match ← recover (fetch league) with
  | .error failure =>
    closeLog services log 0 (some failure)
    pure { league, failure := some failure }
  | .ok items =>
    let processed ← process league items
    closeLog services log (recorded items.length processed) none
    pure { league, fetched := items.length, processed }

/-- Writes teams, and counts those that succeed. -/
def processTeams (services : Services σ) (scope : SyncScope) (league : League)
    (teams : List Team) : Step σ Nat :=
  countSucceeding services (fun team =>
    if scope.dryRun then pure () else store services (.putTeam (TeamRecord.ofFeed league team)))
    teams

/-- Refreshes the teams of each league. The log counts the teams that were fetched. -/
def syncTeams (services : Services σ) (scope : SyncScope) : Step σ SyncReport := do
  let leagues ← scope.leagues.mapM
    (syncLeague services scope .teams (fun league => ask services (.teams league))
      (processTeams services scope) fun fetched _ => fetched)
  pure { mode := .teams, leagues }

/-- The weeks of a season: those of the regular season, then those of the postseason. -/
def weeksOf (regular post : Nat) : List (SeasonType × Int) :=
  ((List.range regular).map fun i : Nat => (SeasonType.regular, (i : Int) + 1))
    ++ (List.range post).map fun i : Nat => (SeasonType.postseason, (i : Int) + 1)

/-- Fetches the games of a season week by week. -/
def gamesByWeek (services : Services σ) (league : League) (season : Int) (regular post : Nat) :
    Step σ (List Game) :=
  gather services (fun (part, week) =>
    ask services (.scoreboard league (.forWeek season week part))) (weeksOf regular post)

/-- Fetches the games of each stored team of a league, each game once. -/
def gamesByTeam (services : Services σ) (league : League) : Step σ (List Game) := do
  let teams ← store services (.teams league)
  match teams with
  | [] => Action.fail (.noTeams league)
  | teams =>
    let games ← gather services (fun team : TeamRow => ask services (.schedule league team.id))
      teams
    pure (Game.firstOfEachId games)

/-- Fetches the games from today, or from the start of a season that has not begun or is over, to
the end of the season. -/
def gamesByDay (services : Services σ) (league : League) (season : SeasonWindow) :
    Step σ (List Game) := do
  let today ← Action.look fun s => (services.now s).date
  let first := if season.inSeason then today else season.start.date
  ask services (.dateRange league first season.finish.date)

/-- Fetches the games of the current season of a league. -/
def scheduleOf (services : Services σ) (league : League) : Step σ (List Game) := do
  let season ← ask services (.season league)
  match league.scheduleWeeks with
  | some (regular, post) => gamesByWeek services league season.year regular post
  | none =>
    if league = .ncaab then gamesByTeam services league else gamesByDay services league season

/-- Loads the schedule of each league. The log counts the games that were processed. -/
def syncSchedule (services : Services σ) (scope : SyncScope) : Step σ SyncReport := do
  let leagues ← scope.leagues.mapM
    (syncLeague services scope .schedule (scheduleOf services) (processGames services scope)
      fun _ processed => processed)
  pure { mode := .schedule, leagues }

/-- The games on the scoreboards of yesterday and today, in this order. Both are asked for, today's
first, before either answer is looked at. -/
def recentGames (services : Services σ) (league : League) : Step σ (List Game) := do
  let today ← Action.look fun s => (services.now s).date
  let new ← (ask services (.scoreboard league (.forDate today))).attempt
  let old ← (ask services (.scoreboard league (.forDate (today.addDays (-1))))).attempt
  let old ← recover (Action.ofExcept old)
  let new ← recover (Action.ofExcept new)
  pure (old.toOption.getD [] ++ new.toOption.getD [])

/-- Brings a stored game up to date: from the last copy of it on the scoreboards, or else from its
own summary. -/
def updateGame (services : Services σ) (scope : SyncScope) (league : League)
    (live : List Game) (tracked : GameRow) : Step σ Outcome := do
  match live.reverse.find? (·.id == tracked.externalId) with
  | some game => processGame services scope league game
  | none =>
    let game ← ask services (.summary league tracked.externalId)
    processGame services scope league game

/-- Brings the games of a league up to date. -/
def updateGames (services : Services σ) (scope : SyncScope) (league : League)
    (tracked : List GameRow) : Step σ LeagueReport := do
  checkRunning services
  let live ← recentGames services league
  let processed ← countSucceeding services (updateGame services scope league live) tracked
  pure { league, fetched := tracked.length, processed }

/-- The games of each league in scope that has any, leagues in their usual order. -/
def byLeague (scope : SyncScope) (games : List GameRow) : List (League × List GameRow) :=
  (League.all.filter (scope.leagues.contains ·)).filterMap fun league =>
    match games.filter (·.league == league) with
    | [] => none
    | own => some (league, own)

/-- Brings every game that may have a new score up to date, and closes the log of the run. -/
def updateTracked (services : Services σ) (scope : SyncScope) (log : Option SyncLog) :
    Step σ SyncReport := do
  match ← recover (store services .needingUpdate) with
  | .error failure =>
    closeLog services log 0 (some failure)
    Action.fail failure
  | .ok tracked =>
    let leagues ← (byLeague scope tracked).mapM fun (league, games) =>
      updateGames services scope league games
    closeLog services log (LeagueReport.total leagues) none
    pure { mode := .scores, leagues }

/-- Refreshes the scores of the games that may have a new one, once the games that should have ended
long ago are ended. -/
def syncScores (services : Services σ) (scope : SyncScope) : Step σ SyncReport := do
  let only := match scope.leagues with
    | [league] => some league
    | _ => none
  let log ← openLog services scope .scores only
  unless scope.dryRun do
    let _ ← recover (store services .finalizeStale)
  updateTracked services scope log

/-- Runs one mode. -/
def syncMode (services : Services σ) (scope : SyncScope) : SyncMode → Step σ SyncReport
  | .teams => syncTeams services scope
  | .schedule => syncSchedule services scope
  | .scores => syncScores services scope

/-- Runs the modes that are asked for, each once and in their usual order. -/
def run (services : Services σ) (scope : SyncScope) (modes : List SyncMode) :
    Step σ (List SyncReport) :=
  (SyncMode.all.filter (modes.contains ·)).mapM fun mode => do
    checkRunning services
    syncMode services scope mode

end Sync

end SquarePool
