import SquarePool.Sql.Value
import SquarePool.Store.Request

/-!
# Columns

Which columns the tables of teams and games have, what is written to each, and how a row is read.
One list of written columns decides the names in a statement, the order of its parameters and their
values, so these cannot fall out of step. Columns are read in the order of the table, so the first
that is wrong is the one that is reported.
-/

namespace SquarePool.Sql

/-- A column that is written: its name, and its value for a record. -/
structure Column (ρ : Type) where
  name : String
  value : ρ → Value

/-- The columns of a team that are written. -/
def teamColumns : List (Column TeamRecord) :=
  [⟨"id", fun t => toValue t.id⟩,
    ⟨"league", fun t => toValue (key t.league)⟩,
    ⟨"name", fun t => toValue t.name⟩,
    ⟨"full_name", fun t => toValue t.fullName⟩,
    ⟨"abbreviation", fun t => toValue t.abbreviation⟩,
    ⟨"location", fun t => toValue t.location⟩,
    ⟨"color", fun t => toValue t.color⟩,
    ⟨"alternate_color", fun t => toValue t.alternateColor⟩,
    ⟨"conference", fun t => toValue t.conference⟩,
    ⟨"division", fun t => toValue t.division⟩]

/-- The columns of a game that are written. -/
def gameColumns : List (Column GameRecord) :=
  [⟨"espn_id", fun g => toValue g.externalId⟩,
    ⟨"league", fun g => toValue (key g.league)⟩,
    ⟨"name", fun g => toValue g.name⟩,
    ⟨"home_team_id", fun g => toValue g.homeTeamId⟩,
    ⟨"away_team_id", fun g => toValue g.awayTeamId⟩,
    ⟨"event_date", fun g => toValue g.start⟩,
    ⟨"season", fun g => toValue g.season⟩,
    ⟨"week", fun g => toValue g.week⟩,
    ⟨"postseason", fun g => toValue g.postseason⟩,
    ⟨"venue", fun g => toValue g.venue⟩,
    ⟨"status", fun g => toValue (key g.progress.status)⟩,
    ⟨"status_detail", fun g => toValue g.progress.detail⟩,
    ⟨"period", fun g => toValue g.progress.period⟩,
    ⟨"clock", fun g => toValue g.progress.clock⟩,
    ⟨"home_score", fun g => toValue g.progress.home.total⟩,
    ⟨"away_score", fun g => toValue g.progress.away.total⟩,
    ⟨"home_q1", fun g => toValue g.progress.home.lines.q1⟩,
    ⟨"home_q2", fun g => toValue g.progress.home.lines.q2⟩,
    ⟨"home_q3", fun g => toValue g.progress.home.lines.q3⟩,
    ⟨"home_q4", fun g => toValue g.progress.home.lines.q4⟩,
    ⟨"home_ot", fun g => toValue g.progress.home.lines.ot⟩,
    ⟨"away_q1", fun g => toValue g.progress.away.lines.q1⟩,
    ⟨"away_q2", fun g => toValue g.progress.away.lines.q2⟩,
    ⟨"away_q3", fun g => toValue g.progress.away.lines.q3⟩,
    ⟨"away_q4", fun g => toValue g.progress.away.lines.q4⟩,
    ⟨"away_ot", fun g => toValue g.progress.away.lines.ot⟩]

/-- The columns that are read of a team. -/
def teamSelection : List String := teamColumns.map (·.name) ++ ["created", "modified"]

/-- The columns that are read of a game. -/
def gameSelection : List String :=
  "id" :: gameColumns.map (·.name) ++ ["created", "modified", "last_synced"]

/-- The columns that are read of a log. -/
def logSelection : List String :=
  ["id", "sync_type", "league", "started_at", "completed_at", "records_processed", "success",
    "error_message"]

/-- The columns that are read of the numbers of a grid. -/
def numberSelection : List String :=
  ["grid_id", "set_type", "home_numbers", "away_numbers", "manual_draw"]

/-- Reads a row of teams. -/
def readTeam (row : Row) : Except DatabaseFault TeamRow := do
  let id ← row.read "id"
  let league ← row.readWord "league" League.ofName
  let name ← row.read "name"
  let fullName ← row.read "full_name"
  let abbreviation ← row.read "abbreviation"
  let location ← row.read "location"
  let color ← row.read "color"
  let alternateColor ← row.read "alternate_color"
  let conference ← row.read "conference"
  let division ← row.read "division"
  let created ← row.read "created"
  let modified ← row.read "modified"
  .ok { id, league, name, fullName, abbreviation, location, color, alternateColor, conference,
        division, created, modified }

/-- Reads the line scores of a side; their columns start with the name of the side. -/
def readLines (row : Row) (side : String) : Except DatabaseFault LineScores := do
  let q1 ← row.read (side ++ "_q1")
  let q2 ← row.read (side ++ "_q2")
  let q3 ← row.read (side ++ "_q3")
  let q4 ← row.read (side ++ "_q4")
  let ot ← row.read (side ++ "_ot")
  .ok { q1, q2, q3, q4, ot }

/-- Reads what a row says about the progress of a game. -/
def readProgress (row : Row) : Except DatabaseFault Progress := do
  let status ← row.readWord "status" GameStatus.ofText
  let detail ← row.read "status_detail"
  let period ← row.read "period"
  let clock ← row.read "clock"
  let homeTotal ← row.read "home_score"
  let awayTotal ← row.read "away_score"
  let homeLines ← readLines row "home"
  let awayLines ← readLines row "away"
  .ok { status, detail, period, clock,
        home := { total := homeTotal, lines := homeLines },
        away := { total := awayTotal, lines := awayLines } }

/-- Reads a row of games. -/
def readGame (row : Row) : Except DatabaseFault GameRow := do
  let id ← row.read "id"
  let externalId ← row.read "espn_id"
  let league ← row.readWord "league" League.ofName
  let name ← row.read "name"
  let homeTeamId ← row.read "home_team_id"
  let awayTeamId ← row.read "away_team_id"
  let start ← row.read "event_date"
  let season ← row.read "season"
  let week ← row.read "week"
  let postseason ← row.read "postseason"
  let venue ← row.read "venue"
  let progress ← readProgress row
  let created ← row.read "created"
  let modified ← row.read "modified"
  let synced ← row.read "last_synced"
  .ok { id, externalId, league, name, homeTeamId, awayTeamId, start, season, week, postseason,
        venue, progress, created, modified, synced }

/-- An invalid input found in a row. -/
def orInvalid {α : Type} (r : Except Invalid α) : Except DatabaseFault α :=
  r.mapError .invalid

/-- Reads a row of logs. The mode and the league are taken from the row before either is looked
at. -/
def readLog (row : Row) : Except DatabaseFault SyncLog := do
  let modeName : String ← row.read "sync_type"
  let leagueName : Option String ← row.read "league"
  let id ← row.read "id"
  let mode ← orInvalid (SyncMode.ofText modeName)
  let league ← orInvalid (leagueName.mapM League.ofName)
  let started ← row.read "started_at"
  let completed ← row.read "completed_at"
  let processed ← row.read "records_processed"
  let success ← row.read "success"
  let error ← row.read "error_message"
  .ok { id, mode, league, started, completed, processed, success, error }

/-- Reads a row of drawn numbers. -/
def readNumberSet (row : Row) : Except DatabaseFault NumberSet := do
  let gridId ← row.read "grid_id"
  let period ← row.readWord "set_type" Period.ofText
  let homeNumbers ← row.read "home_numbers"
  let awayNumbers ← row.read "away_numbers"
  let manualDraw ← row.read "manual_draw"
  .ok { gridId, period, homeNumbers, awayNumbers, manualDraw }

/-- Reads the score sheet of a grid as far as one row has it, with the number of its game. -/
def readSheet (row : Row) : Except DatabaseFault (ScoreSheet × Option Int) := do
  let gridId ← row.read "grid_id"
  let board ← row.readWord "grid_type" Board.ofText
  let payout ← row.readWord "config" Payout.ofText
  let homeTeamName ← row.read "home_team_name"
  let awayTeamName ← row.read "away_team_name"
  let homeNumbers ← row.read "home_numbers"
  let awayNumbers ← row.read "away_numbers"
  let gameId ← row.read "sports_event_id"
  .ok ({ gridId, board, payout, homeTeamName, awayTeamName, homeNumbers, awayNumbers }, gameId)

end SquarePool.Sql
