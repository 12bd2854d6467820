import SquarePool.CommandLine
import SquarePool.Feed.Client
import SquarePool.Logging
import SquarePool.Settings.EnvironmentFile
import SquarePool.Sql.Store
import SquarePool.Sync.Mode

/-!
# Launching a run

From a command line, an environment and the files of a directory to a run and what is left of it:
an exit code, lines of output and complaint, and a log. A run that was stopped ends with a code of
its own. Main statement: a command line that starts no run leaves the surroundings alone.
-/

namespace SquarePool

/-- A line of a log. -/
structure LogLine where
  target : String := programTarget
  level : LogLevel
  message : String
  fields : List (String × Json) := []

/-- What a launch leaves behind. -/
structure LaunchResult where
  exitCode : Nat
  output : List String := []
  /-- What is written to the error output. -/
  complaint : List String := []
  log : List LogLine := []
  /-- The log is written as documents rather than lines. -/
  logJson : Bool := false

/-- What lies outside of the program, seen through a state. -/
structure Outside (σ : Type) where
  /-- A connection to the database, if there can be one. -/
  connect : DatabaseSettings → Option (Sql.Database σ)
  link : Link σ

namespace Launch

variable {σ : Type}

/-- The services of a run that asks a feed through a client and stores in a database. -/
def services (client : Feed.Client) (link : Link σ) (db : Sql.Database σ) : Services σ where
  ask := client.ask link
  store := db.perform
  notify := db.notify
  now := link.now
  isStopped := link.isStopped

/-- A launch that fails before a run begins. -/
def failed (log : List LogLine) (message : String) : LaunchResult where
  exitCode := 1
  complaint := ["Error: " ++ message]
  log := log

/-- What a command line that starts no run leaves behind. -/
def withoutRun : NoRun → LaunchResult
  | .help => { exitCode := 0, output := CommandLine.helpLines }
  | .version => { exitCode := 0, output := [CommandLine.versionLine] }
  | .wrong .noMode =>
    { exitCode := 2
      output := CommandLine.helpLines
      complaint := [UsageError.noMode.message] }
  | .wrong e => { exitCode := 2, complaint := [e.message] }

/-- The lines about the leagues of a report that failed. -/
def failureLines (report : SyncReport) : List LogLine :=
  (report.leagues.filter (·.failure.isSome)).map fun _ =>
    { level := .warn
      message := "Sync completed with failures"
      fields := [("mode", Json.text (key report.mode))] }

/-- How a run ends. -/
def ending : Except SyncError (List SyncReport) → Nat × List LogLine
  | .ok reports =>
    (0, reports.flatMap failureLines ++ [{
      level := .info
      message := "Sync complete"
      fields := [("processed", Json.nat (SyncReport.total reports))] }])
  | .error e =>
    if e.isStop then (130, [{ level := .warn, message := "Sync cancelled" }])
    else
      (1, [{ level := .error
             message := "Sync failed"
             fields := [("error", Json.text e.message)] }])

/-- The line about being asked to stop. -/
def stopLine : LogLine := { level := .warn, message := "Shutdown signal received, cancelling sync" }

/-- Runs as chosen, with given settings. -/
def runWith (outside : Outside σ) (choices : Choices) (settings : Settings) (s : σ) :
    LaunchResult × σ :=
  let scope := SyncScope.ofLeague choices.league choices.dryRun
  let log : List LogLine := [{
    level := .info
    message := "Starting sports sync"
    fields := [("dry_run", .bool scope.dryRun)] }]
  match outside.connect settings.database with
  | none => (failed log "Failed to connect to database", s)
  | some db =>
    let log := log ++ [
      { level := .info
        message := "Connected to database"
        fields := [("max_connections", Json.nat settings.database.maxConnections)] },
      { level := .info
        message := "ESPN client ready"
        fields := [("requests_per_second", Json.nat settings.feed.requestsPerSecond)] }]
    match Feed.Client.ofSettings settings.feed.client with
    | .error _ => (failed log "Failed to build ESPN client", s)
    | .ok client =>
      let (result, t) := Sync.run (services client outside.link db) scope choices.modes s
      let (exitCode, closing) := ending result
      let stops := if outside.link.isStopped t then [stopLine] else []
      ({ exitCode, log := log ++ stops ++ closing }, t)

/-- The line about a name that was wrongly given for a level. -/
def levelLines (setup : LogSetup) : List LogLine :=
  setup.rejected.toList.map fun name =>
    { target := "sqmgr_sports::logging"
      level := .warn
      message := "Unrecognised LOG_LEVEL, falling back to info"
      fields := [("level", Json.text name)] }

/-- The lines of a log that are kept. -/
def kept (setup : LogSetup) (log : List LogLine) : List LogLine :=
  log.filter fun line => setup.filter.keeps line.target line.level

/-- Starts a run as the command line asks. -/
def run (outside : Outside σ) (arguments : List String) (env : Environment) (files : Files)
    (s : σ) : LaunchResult × σ :=
  match CommandLine.read arguments with
  | .error noRun => (withoutRun noRun, s)
  | .ok choices =>
    let env := env.withFile files
    match Settings.load files env choices.config with
    | .error e => (failed [] e.message, s)
    | .ok settings =>
      let setup := LogSetup.ofEnvironment env settings.logJson
      let (result, t) := runWith outside choices settings s
      ({ result with log := kept setup (levelLines setup ++ result.log), logJson := setup.json }, t)

/-- The files that a run may read, given those of them that are known already. -/
def paths (arguments : List String) (env : Environment) (files : Files) : List String :=
  let config := match CommandLine.read arguments with
    | .ok choices => choices.config
    | .error _ => none
  [EnvironmentFile.fileName, Settings.defaultPath] ++ config.toList
    ++ (env.withFile files Settings.pathVariable).toList

theorem run_of_noRun {outside : Outside σ} {arguments : List String} {noRun : NoRun}
    (h : CommandLine.read arguments = .error noRun) (env : Environment) (files : Files) (s : σ) :
    run outside arguments env files s = (withoutRun noRun, s) := by
  simp [run, h]

end Launch

end SquarePool
