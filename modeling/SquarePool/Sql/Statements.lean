import SquarePool.Sql.Columns
import SquarePool.Sql.Like

/-!
# Statements

The statement for each request to a database. Values from outside are always parameters; a search
text is made into a pattern that stands for itself.
-/

namespace SquarePool.Sql

namespace Statement

/-- Names or values with commas between them. -/
def commaList (items : List String) : String := ", ".intercalate items

/-- The places of the first `n` parameters. -/
def places (n : Nat) : List String := (List.range n).map fun i => s!"${i + 1}"

/-- A league as a parameter, null for every league. -/
def scopeValue (scope : Option League) : Value := toValue (scope.map key)

/-- The beginning of a statement that reads teams. -/
def teamSource : String := "SELECT " ++ commaList teamSelection ++ " FROM sports_teams "

/-- The beginning of a statement that reads games. -/
def gameSource : String := "SELECT " ++ commaList gameSelection ++ " FROM sports_events "

/-- The order in which games are listed. -/
def byDate : String := "ORDER BY event_date ASC"

/-- Assigns a column the value that was to be inserted. -/
def takeNew (column : String) : String := column ++ " = EXCLUDED." ++ column

/-- Assigns a column of a team the value that was to be inserted, unless that is null. -/
def takeNewIfAny (column : String) : String :=
  column ++ " = COALESCE(EXCLUDED." ++ column ++ ", sports_teams." ++ column ++ ")"

/-- The columns of a team that keep their value when a record has none. -/
def lastingColumns : List String :=
  ["location", "color", "alternate_color", "conference", "division"]

/-- How a column of a team is assigned when the team is already stored. -/
def assignTeam (column : String) : String :=
  if column ∈ lastingColumns then takeNewIfAny column else takeNew column

/-- Writes a team. -/
def putTeam (record : TeamRecord) : Statement where
  text :=
    let names := teamColumns.map (·.name)
    let updated := names.filter fun n => n != "id" && n != "league"
    "INSERT INTO sports_teams ( " ++ commaList (names ++ ["created", "modified"]) ++ " ) VALUES ("
      ++ commaList (places names.length ++ ["NOW()", "NOW()"])
      ++ ") ON CONFLICT (id, league) DO UPDATE SET "
      ++ commaList (updated.map assignTeam ++ ["modified = NOW()"])
  params := teamColumns.map (·.value record)

/-- Reads the team with an identifier in a league. -/
def team (id : String) (league : League) : Statement where
  text := teamSource ++ "WHERE id = $1 AND league = $2"
  params := [toValue id, toValue (key league)]

/-- Reads the teams of a league. -/
def teams (league : League) : Statement where
  text := teamSource ++ "WHERE league = $1 ORDER BY name"
  params := [toValue (key league)]

/-- Counts teams. -/
def teamCount (scope : Option League) : Statement where
  text := "SELECT COUNT(*) FROM sports_teams WHERE ($1::text IS NULL OR league = $1)"
  params := [scopeValue scope]

/-- Writes a game and reads it back. -/
def putGame (record : GameRecord) : Statement where
  text :=
    let names := gameColumns.map (·.name)
    "INSERT INTO sports_events ( "
      ++ commaList (names ++ ["created", "modified", "last_synced"]) ++ " ) VALUES ( "
      ++ commaList (places names.length ++ ["NOW()", "NOW()", "NOW()"])
      ++ " ) ON CONFLICT (espn_id) DO UPDATE SET "
      ++ commaList ((names.filter (· != "espn_id")).map takeNew
        ++ ["modified = NOW()", "last_synced = NOW()"])
      ++ " RETURNING " ++ commaList gameSelection
  params := gameColumns.map (·.value record)

/-- Reads the game with a number. -/
def game (id : Int) : Statement where
  text := gameSource ++ "WHERE id = $1"
  params := [toValue id]

/-- Reads the game that the feed knows by an identifier. -/
def gameByExternalId (externalId : String) : Statement where
  text := gameSource ++ "WHERE espn_id = $1"
  params := [toValue externalId]

/-- Reads the games of a league. -/
def games (league : League) (status : Option GameStatus) (limit : Option Int) : Statement where
  text :=
    gameSource ++ "WHERE league = $1 AND ($2::text IS NULL OR status = $2) " ++ byDate
      ++ " LIMIT $3"
  params := [toValue (key league), toValue (status.map key), toValue limit]

/-- Reads the games of a league that are still to start. -/
def upcoming (league : League) (limit : Int) : Statement where
  text :=
    gameSource ++ "WHERE league = $1 AND status = 'scheduled' AND event_date >= NOW() " ++ byDate
      ++ " LIMIT $2"
  params := [toValue (key league), toValue limit]

/-- Reads the games that are being played. -/
def inProgress (scope : Option League) : Statement where
  text :=
    gameSource ++ "WHERE status = 'in_progress' AND ($1::text IS NULL OR league = $1) " ++ byDate
  params := [scopeValue scope]

/-- The condition on a game that a grid can be linked to. -/
def linkableFilter : String := "WHERE league = $1 AND status IN ('scheduled', 'in_progress')"

/-- Counts the games that a grid can be linked to. -/
def linkableCount (league : League) : Statement where
  text := "SELECT COUNT(*) FROM sports_events " ++ linkableFilter
  params := [toValue (key league)]

/-- Reads a part of the games that a grid can be linked to. -/
def linkable (league : League) (offset limit : Int) : Statement where
  text := gameSource ++ linkableFilter ++ " " ++ byDate ++ " OFFSET $2 LIMIT $3"
  params := [toValue (key league), toValue offset, toValue limit]

/-- The names of a team that a search looks at. -/
def searchedNames : List String := ["name", "full_name", "abbreviation"]

/-- One of the searched names of a team fits the pattern. -/
def nameFits (team : String) : String :=
  " OR ".intercalate (searchedNames.map fun column => team ++ "." ++ column ++ " ILIKE $2")

/-- Games with their teams, as far as a search finds them. -/
def searchSource : String :=
  "FROM sports_events e "
    ++ "JOIN sports_teams ht ON ht.id = e.home_team_id AND ht.league = e.league "
    ++ "JOIN sports_teams at ON at.id = e.away_team_id AND at.league = e.league "
    ++ "WHERE e.league = $1 AND e.status IN ('scheduled', 'in_progress') AND ("
    ++ nameFits "ht" ++ " OR " ++ nameFits "at" ++ ")"

/-- Counts the games that a search finds. -/
def searchCount (league : League) (text : String) : Statement where
  text := "SELECT COUNT(*) " ++ searchSource
  params := [toValue (key league), toValue (Like.holding text)]

/-- Reads a part of the games that a search finds. -/
def search (league : League) (text : String) (offset limit : Int) : Statement where
  text :=
    "SELECT " ++ commaList (gameSelection.map fun column => "e." ++ column) ++ " " ++ searchSource
      ++ " ORDER BY e.event_date ASC OFFSET $3 LIMIT $4"
  params := [toValue (key league), toValue (Like.holding text), toValue offset, toValue limit]

/-- Reads the games whose score is worth asking for. -/
def needingUpdate : Statement where
  text :=
    gameSource ++ "WHERE (status = 'in_progress' AND event_date >= NOW() - INTERVAL '1 day')"
      ++ " OR (status = 'scheduled' AND event_date BETWEEN NOW() AND NOW() + INTERVAL '2 hours')"
      ++ " OR (status != 'final' AND event_date >= NOW() - INTERVAL '1 day'"
      ++ " AND event_date < NOW()) " ++ byDate

/-- The columns of a game that tell its score, in the order in which they are cleared. -/
def clearedColumns : List String :=
  ["home_score", "away_score", "home_q1", "home_q2", "home_q3", "home_q4", "home_ot", "away_q1",
    "away_q2", "away_q3", "away_q4", "away_ot", "period", "clock", "status_detail"]

/-- Ends the games that should have ended long ago. -/
def finalizeStale : Statement where
  text :=
    "UPDATE sports_events SET status = 'final', modified = NOW(), "
      ++ commaList (clearedColumns.map (· ++ " = NULL"))
      ++ " WHERE status != 'final' AND event_date < NOW() - INTERVAL '1 day'"

/-- Counts games. -/
def gameCount (scope : Option League) : Statement where
  text := "SELECT COUNT(*) FROM sports_events WHERE ($1::text IS NULL OR league = $1)"
  params := [scopeValue scope]

/-- Opens the log of a run. -/
def openLog (mode : SyncMode) (league : Option League) : Statement where
  text :=
    "INSERT INTO sports_sync_log (sync_type, league, started_at) VALUES ($1, $2, NOW()) RETURNING "
      ++ commaList logSelection
  params := [toValue (key mode), scopeValue league]

/-- Closes the log of a run. -/
def closeLog (id processed : Int) (success : Bool) (message : Option String) : Statement where
  text :=
    "UPDATE sports_sync_log SET completed_at = NOW(), records_processed = $1, success = $2, "
      ++ "error_message = $3 WHERE id = $4 RETURNING completed_at"
  params := [toValue processed, toValue success, toValue message, toValue id]

/-- Reads the log of the latest run that succeeded. -/
def lastSuccess (mode : SyncMode) (league : Option League) : Statement where
  text :=
    "SELECT " ++ commaList logSelection ++ " FROM sports_sync_log WHERE sync_type = $1 "
      ++ "AND ($2::text IS NULL OR league = $2) AND success = true "
      ++ "ORDER BY completed_at DESC LIMIT 1"
  params := [toValue (key mode), scopeValue league]

/-- Games with their two teams. -/
def teamsOfGame : String :=
  "JOIN sports_teams st_home ON se.home_team_id = st_home.id AND se.league = st_home.league "
    ++ "JOIN sports_teams st_away ON se.away_team_id = st_away.id AND se.league = st_away.league "

/-- Brings the names on the grids of a game up to date. -/
def refreshNames (gameId : Int) : Statement where
  text :=
    "UPDATE grids g SET home_team_name = st_home.full_name, away_team_name = st_away.full_name, "
      ++ "modified = NOW() FROM sports_events se " ++ teamsOfGame
      ++ "WHERE g.sports_event_id = se.id AND se.id = $1 AND g.state = 'active' "
      ++ "AND (g.home_team_name IS DISTINCT FROM st_home.full_name "
      ++ "OR g.away_team_name IS DISTINCT FROM st_away.full_name)"
  params := [toValue gameId]

/-- The colours of a grid, each with the colour of a team that fills it. -/
def colourSources : List (String × String) :=
  [("home_team_color_1", "st_home.color"), ("home_team_color_2", "st_home.alternate_color"),
    ("away_team_color_1", "st_away.color"), ("away_team_color_2", "st_away.alternate_color")]

/-- Fills in the colours on the grids of a game. A colour that is set stays. -/
def fillColours (gameId : Int) : Statement where
  text :=
    "UPDATE grid_settings gs SET "
      ++ commaList (colourSources.map fun (slot, source) =>
        slot ++ " = COALESCE(gs." ++ slot ++ ", '#' || " ++ source ++ ")")
      ++ ", modified = NOW() FROM grids g JOIN sports_events se ON g.sports_event_id = se.id "
      ++ teamsOfGame ++ "WHERE gs.grid_id = g.id AND se.id = $1 AND g.state = 'active' AND ("
      ++ " OR ".intercalate (colourSources.map fun (slot, source) =>
        "(gs." ++ slot ++ " IS NULL AND " ++ source ++ " IS NOT NULL)")
      ++ ")"
  params := [toValue gameId]

/-- Reads the tokens of the pools with an active grid on a game. -/
def poolTokens (gameId : Int) : Statement where
  text :=
    "SELECT DISTINCT p.token FROM pools p JOIN grids g ON g.pool_id = p.id "
      ++ "WHERE g.sports_event_id = $1 AND g.state = 'active' ORDER BY p.token"
  params := [toValue gameId]

/-- Reads what scoring needs of a grid and its pool. -/
def sheet (gridId : Int) : Statement where
  text :=
    "SELECT g.id AS grid_id, p.grid_type, "
      ++ "COALESCE(g.payout_config, p.number_set_config) AS config, g.home_team_name, "
      ++ "g.away_team_name, g.home_numbers, g.away_numbers, g.sports_event_id "
      ++ "FROM grids g JOIN pools p ON p.id = g.pool_id WHERE g.id = $1"
  params := [toValue gridId]

/-- Reads the numbers drawn for a grid. -/
def numberSets (gridId : Int) : Statement where
  text := "SELECT " ++ commaList numberSelection ++ " FROM grid_number_sets WHERE grid_id = $1"
  params := [toValue gridId]

/-- The channel on which changes of games are announced. -/
def changeChannel : String := "sports_event_updated"

/-- Announces a change of a game. -/
def announce (gameId : Int) : Statement where
  text := "SELECT pg_notify($1, $2)"
  params := [toValue changeChannel, toValue (Text.showInt gameId)]

/-- Starts a transaction. -/
def start : Statement := ⟨"BEGIN", []⟩

/-- Keeps what a transaction did. -/
def commit : Statement := ⟨"COMMIT", []⟩

/-- Undoes what a transaction did. -/
def undo : Statement := ⟨"ROLLBACK", []⟩

end Statement

end SquarePool.Sql
