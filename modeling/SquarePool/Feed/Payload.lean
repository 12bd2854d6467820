import SquarePool.Json.Decode

/-!
# Feed payloads

The shapes of the four pages, one type for each record. Every field has a default, because college
games leave out much. Fields that nothing reads are declared all the same: a page that breaks their
type is refused. Fields stand in the order in which a record may list them without names.
-/

namespace SquarePool.Feed

open Json (text? bool? int32? whole? nullable? list? fields? field)

/-- A team on a page. -/
structure TeamInfo where
  id : String := ""
  name : String := ""
  displayName : String := ""
  abbreviation : String := ""
  location : Option String := none
  color : Option String := none
  alternateColor : Option String := none
  deriving DecidableEq, Repr, Inhabited

/-- Reads a team. -/
def TeamInfo.decode (json : Json) : Option TeamInfo := do
  let f ← fields? ["id", "name", "displayName", "abbreviation", "location", "color",
    "alternateColor"] json
  some {
    id := ← field f "id" text? ""
    name := ← field f "name" text? ""
    displayName := ← field f "displayName" text? ""
    abbreviation := ← field f "abbreviation" text? ""
    location := ← field f "location" (nullable? text?) none
    color := ← field f "color" (nullable? text?) none
    alternateColor := ← field f "alternateColor" (nullable? text?) none }

/-- The season of a game: its year and the number of its part. -/
structure SeasonRef where
  year : Int := 0
  type : Int := 0
  deriving DecidableEq, Repr, Inhabited

/-- Reads the season of a game. -/
def SeasonRef.decode (json : Json) : Option SeasonRef := do
  let f ← fields? ["year", "type"] json
  some { year := ← field f "year" int32? 0, type := ← field f "type" int32? 0 }

/-- The week of a game. -/
structure WeekRef where
  number : Int := 0
  deriving DecidableEq, Repr, Inhabited

/-- Reads the week of a game. -/
def WeekRef.decode (json : Json) : Option WeekRef := do
  let f ← fields? ["number"] json
  some { number := ← field f "number" int32? 0 }

/-- The place of a game. -/
structure VenueInfo where
  fullName : String := ""
  deriving DecidableEq, Repr, Inhabited

/-- Reads the place of a game. -/
def VenueInfo.decode (json : Json) : Option VenueInfo := do
  let f ← fields? ["fullName"] json
  some { fullName := ← field f "fullName" text? "" }

/-- A remark on a game; its headline is the title of the game. -/
structure Note where
  kind : String := ""
  headline : String := ""
  deriving DecidableEq, Repr, Inhabited

/-- Reads a remark. -/
def Note.decode (json : Json) : Option Note := do
  let f ← fields? ["type", "headline"] json
  some { kind := ← field f "type" text? "", headline := ← field f "headline" text? "" }

/-- The status of a game by its several names. -/
structure StatusKind where
  id : String := ""
  name : String := ""
  /-- Before, during or after the game. -/
  state : String := ""
  completed : Bool := false
  description : String := ""
  deriving DecidableEq, Repr, Inhabited

/-- Reads the names of a status. -/
def StatusKind.decode (json : Json) : Option StatusKind := do
  let f ← fields? ["id", "name", "state", "completed", "description"] json
  some {
    id := ← field f "id" text? ""
    name := ← field f "name" text? ""
    state := ← field f "state" text? ""
    completed := ← field f "completed" bool? false
    description := ← field f "description" text? "" }

/-- The status of a game with its clock. -/
structure StatusInfo where
  /-- The whole seconds on the clock. -/
  clock : Int := 0
  displayClock : String := ""
  period : Int := 0
  kind : StatusKind := {}
  deriving DecidableEq, Repr, Inhabited

/-- Reads a status. -/
def StatusInfo.decode (json : Json) : Option StatusInfo := do
  let f ← fields? ["clock", "displayClock", "period", "type"] json
  some {
    clock := ← field f "clock" whole? 0
    displayClock := ← field f "displayClock" text? ""
    period := ← field f "period" int32? 0
    kind := ← field f "type" StatusKind.decode {} }

/-! ## The page of teams -/

/-- An entry in the list of teams. -/
structure TeamEntry where
  team : TeamInfo := {}
  deriving DecidableEq, Repr, Inhabited

/-- Reads an entry. -/
def TeamEntry.decode (json : Json) : Option TeamEntry := do
  let f ← fields? ["team"] json
  some { team := ← field f "team" TeamInfo.decode {} }

/-- A league on the page of teams. -/
structure LeagueTeams where
  teams : List TeamEntry := []
  deriving DecidableEq, Repr, Inhabited

/-- Reads a league with its teams. -/
def LeagueTeams.decode (json : Json) : Option LeagueTeams := do
  let f ← fields? ["teams"] json
  some { teams := ← field f "teams" (list? TeamEntry.decode) [] }

/-- A sport on the page of teams. -/
structure SportTeams where
  leagues : List LeagueTeams := []
  deriving DecidableEq, Repr, Inhabited

/-- Reads a sport with its leagues. -/
def SportTeams.decode (json : Json) : Option SportTeams := do
  let f ← fields? ["leagues"] json
  some { leagues := ← field f "leagues" (list? LeagueTeams.decode) [] }

/-- The page of teams. -/
structure TeamsPage where
  sports : List SportTeams := []
  deriving DecidableEq, Repr, Inhabited

/-- Reads the page of teams. -/
def TeamsPage.decode (json : Json) : Option TeamsPage := do
  let f ← fields? ["sports"] json
  some { sports := ← field f "sports" (list? SportTeams.decode) [] }

/-! ## The scoreboard -/

/-- The points of a period as a quantity, of which the whole part counts. -/
structure LineValue where
  value : Int := 0
  deriving DecidableEq, Repr, Inhabited

/-- Reads the points of a period. -/
def LineValue.decode (json : Json) : Option LineValue := do
  let f ← fields? ["value"] json
  some { value := ← field f "value" whole? 0 }

/-- A side of a game on the scoreboard. -/
structure ScoreboardSide where
  id : String := ""
  homeAway : String := ""
  team : TeamInfo := {}
  score : Option String := none
  linescores : List LineValue := []
  deriving DecidableEq, Repr, Inhabited

/-- Reads a side on the scoreboard. -/
def ScoreboardSide.decode (json : Json) : Option ScoreboardSide := do
  let f ← fields? ["id", "homeAway", "team", "score", "linescores"] json
  some {
    id := ← field f "id" text? ""
    homeAway := ← field f "homeAway" text? ""
    team := ← field f "team" TeamInfo.decode {}
    score := ← field f "score" (nullable? text?) none
    linescores := ← field f "linescores" (list? LineValue.decode) [] }

/-- The contest of a game on the scoreboard. -/
structure ScoreboardContest where
  id : String := ""
  date : String := ""
  venue : Option VenueInfo := none
  competitors : List ScoreboardSide := []
  notes : List Note := []
  deriving DecidableEq, Repr, Inhabited

/-- Reads a contest on the scoreboard. -/
def ScoreboardContest.decode (json : Json) : Option ScoreboardContest := do
  let f ← fields? ["id", "date", "venue", "competitors", "notes"] json
  some {
    id := ← field f "id" text? ""
    date := ← field f "date" text? ""
    venue := ← field f "venue" (nullable? VenueInfo.decode) none
    competitors := ← field f "competitors" (list? ScoreboardSide.decode) []
    notes := ← field f "notes" (list? Note.decode) [] }

/-- A game on the scoreboard. Its status belongs to the game, not to the contest. -/
structure ScoreboardGame where
  id : String := ""
  date : String := ""
  name : String := ""
  shortName : String := ""
  season : SeasonRef := {}
  week : Option WeekRef := none
  competitions : List ScoreboardContest := []
  status : StatusInfo := {}
  deriving DecidableEq, Repr, Inhabited

/-- Reads a game on the scoreboard. -/
def ScoreboardGame.decode (json : Json) : Option ScoreboardGame := do
  let f ← fields? ["id", "date", "name", "shortName", "season", "week", "competitions", "status"]
    json
  some {
    id := ← field f "id" text? ""
    date := ← field f "date" text? ""
    name := ← field f "name" text? ""
    shortName := ← field f "shortName" text? ""
    season := ← field f "season" SeasonRef.decode {}
    week := ← field f "week" (nullable? WeekRef.decode) none
    competitions := ← field f "competitions" (list? ScoreboardContest.decode) []
    status := ← field f "status" StatusInfo.decode {} }

/-- The part of a season by its several names. -/
structure SeasonKind where
  id : String := ""
  code : Int := 0
  name : String := ""
  deriving DecidableEq, Repr, Inhabited

/-- Reads the part of a season. -/
def SeasonKind.decode (json : Json) : Option SeasonKind := do
  let f ← fields? ["id", "type", "name"] json
  some {
    id := ← field f "id" text? ""
    code := ← field f "type" int32? 0
    name := ← field f "name" text? "" }

/-- The season of a league with its first and last moment. -/
structure LeagueSeason where
  year : Int := 0
  startDate : String := ""
  endDate : String := ""
  kind : SeasonKind := {}
  deriving DecidableEq, Repr, Inhabited

/-- Reads the season of a league. -/
def LeagueSeason.decode (json : Json) : Option LeagueSeason := do
  let f ← fields? ["year", "startDate", "endDate", "type"] json
  some {
    year := ← field f "year" int32? 0
    startDate := ← field f "startDate" text? ""
    endDate := ← field f "endDate" text? ""
    kind := ← field f "type" SeasonKind.decode {} }

/-- A league on the scoreboard. -/
structure LeagueInfo where
  season : Option LeagueSeason := none
  deriving DecidableEq, Repr, Inhabited

/-- Reads a league on the scoreboard. -/
def LeagueInfo.decode (json : Json) : Option LeagueInfo := do
  let f ← fields? ["season"] json
  some { season := ← field f "season" (nullable? LeagueSeason.decode) none }

/-- The scoreboard. -/
structure ScoreboardPage where
  leagues : List LeagueInfo := []
  events : List ScoreboardGame := []
  deriving DecidableEq, Repr, Inhabited

/-- Reads the scoreboard. -/
def ScoreboardPage.decode (json : Json) : Option ScoreboardPage := do
  let f ← fields? ["leagues", "events"] json
  some {
    leagues := ← field f "leagues" (list? LeagueInfo.decode) []
    events := ← field f "events" (list? ScoreboardGame.decode) [] }

/-! ## The schedule of a team -/

/-- A score on a schedule: a quantity, a text, or both. -/
structure ScheduleScore where
  value : Option Int := none
  displayValue : String := ""
  deriving DecidableEq, Repr, Inhabited

/-- Reads a score on a schedule. -/
def ScheduleScore.decode (json : Json) : Option ScheduleScore := do
  let f ← fields? ["value", "displayValue"] json
  some {
    value := ← field f "value" (nullable? whole?) none
    displayValue := ← field f "displayValue" text? "" }

/-- A side of a game on a schedule. -/
structure ScheduleSide where
  id : String := ""
  homeAway : String := ""
  team : TeamInfo := {}
  score : Option ScheduleScore := none
  deriving DecidableEq, Repr, Inhabited

/-- Reads a side on a schedule. -/
def ScheduleSide.decode (json : Json) : Option ScheduleSide := do
  let f ← fields? ["id", "homeAway", "team", "score"] json
  some {
    id := ← field f "id" text? ""
    homeAway := ← field f "homeAway" text? ""
    team := ← field f "team" TeamInfo.decode {}
    score := ← field f "score" (nullable? ScheduleScore.decode) none }

/-- The contest of a game on a schedule. -/
structure ScheduleContest where
  id : String := ""
  date : String := ""
  venue : Option VenueInfo := none
  competitors : List ScheduleSide := []
  status : StatusInfo := {}
  notes : List Note := []
  deriving DecidableEq, Repr, Inhabited

/-- Reads a contest on a schedule. -/
def ScheduleContest.decode (json : Json) : Option ScheduleContest := do
  let f ← fields? ["id", "date", "venue", "competitors", "status", "notes"] json
  some {
    id := ← field f "id" text? ""
    date := ← field f "date" text? ""
    venue := ← field f "venue" (nullable? VenueInfo.decode) none
    competitors := ← field f "competitors" (list? ScheduleSide.decode) []
    status := ← field f "status" StatusInfo.decode {}
    notes := ← field f "notes" (list? Note.decode) [] }

/-- A game on a schedule. -/
structure ScheduleGame where
  id : String := ""
  date : String := ""
  name : String := ""
  season : SeasonRef := {}
  seasonKind : SeasonKind := {}
  week : Option WeekRef := none
  competitions : List ScheduleContest := []
  deriving DecidableEq, Repr, Inhabited

/-- Reads a game on a schedule. -/
def ScheduleGame.decode (json : Json) : Option ScheduleGame := do
  let f ← fields? ["id", "date", "name", "season", "seasonType", "week", "competitions"] json
  some {
    id := ← field f "id" text? ""
    date := ← field f "date" text? ""
    name := ← field f "name" text? ""
    season := ← field f "season" SeasonRef.decode {}
    seasonKind := ← field f "seasonType" SeasonKind.decode {}
    week := ← field f "week" (nullable? WeekRef.decode) none
    competitions := ← field f "competitions" (list? ScheduleContest.decode) [] }

/-- The schedule of a team. -/
structure SchedulePage where
  events : List ScheduleGame := []
  deriving DecidableEq, Repr, Inhabited

/-- Reads the schedule of a team. -/
def SchedulePage.decode (json : Json) : Option SchedulePage := do
  let f ← fields? ["events"] json
  some { events := ← field f "events" (list? ScheduleGame.decode) [] }

/-! ## The summary of a game -/

/-- The points of a period as a text. -/
structure LineText where
  displayValue : String := ""
  deriving DecidableEq, Repr, Inhabited

/-- Reads the points of a period. -/
def LineText.decode (json : Json) : Option LineText := do
  let f ← fields? ["displayValue"] json
  some { displayValue := ← field f "displayValue" text? "" }

/-- A side of a game in a summary. -/
structure SummarySide where
  id : String := ""
  homeAway : String := ""
  winner : Bool := false
  team : TeamInfo := {}
  score : Option String := none
  linescores : List LineText := []
  deriving DecidableEq, Repr, Inhabited

/-- Reads a side in a summary. -/
def SummarySide.decode (json : Json) : Option SummarySide := do
  let f ← fields? ["id", "homeAway", "winner", "team", "score", "linescores"] json
  some {
    id := ← field f "id" text? ""
    homeAway := ← field f "homeAway" text? ""
    winner := ← field f "winner" bool? false
    team := ← field f "team" TeamInfo.decode {}
    score := ← field f "score" (nullable? text?) none
    linescores := ← field f "linescores" (list? LineText.decode) [] }

/-- The contest of a game in a summary. -/
structure SummaryContest where
  id : String := ""
  date : String := ""
  venue : Option VenueInfo := none
  competitors : List SummarySide := []
  status : StatusInfo := {}
  notes : List Note := []
  deriving DecidableEq, Repr, Inhabited

/-- Reads a contest in a summary. -/
def SummaryContest.decode (json : Json) : Option SummaryContest := do
  let f ← fields? ["id", "date", "venue", "competitors", "status", "notes"] json
  some {
    id := ← field f "id" text? ""
    date := ← field f "date" text? ""
    venue := ← field f "venue" (nullable? VenueInfo.decode) none
    competitors := ← field f "competitors" (list? SummarySide.decode) []
    status := ← field f "status" StatusInfo.decode {}
    notes := ← field f "notes" (list? Note.decode) [] }

/-- The head of a summary. -/
structure SummaryHeader where
  id : String := ""
  season : SeasonRef := {}
  week : Option Int := none
  competitions : List SummaryContest := []
  deriving DecidableEq, Repr, Inhabited

/-- Reads the head of a summary. -/
def SummaryHeader.decode (json : Json) : Option SummaryHeader := do
  let f ← fields? ["id", "season", "week", "competitions"] json
  some {
    id := ← field f "id" text? ""
    season := ← field f "season" SeasonRef.decode {}
    week := ← field f "week" (nullable? int32?) none
    competitions := ← field f "competitions" (list? SummaryContest.decode) [] }

/-- The summary of a game. -/
structure SummaryPage where
  header : SummaryHeader := {}
  deriving DecidableEq, Repr, Inhabited

/-- Reads the summary of a game. -/
def SummaryPage.decode (json : Json) : Option SummaryPage := do
  let f ← fields? ["header"] json
  some { header := ← field f "header" SummaryHeader.decode {} }

end SquarePool.Feed
