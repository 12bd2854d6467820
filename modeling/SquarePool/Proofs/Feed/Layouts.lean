import SquarePool.Feed.Payload
import SquarePool.Proofs.Json.Layout

/-!
# Layouts of the feed

How each record of the four pages stands in documents: the names and shapes of its fields, and what
a field stands for when it is left out. A layout holds the proof that its record is decoded field by
field and is made of nothing else.
-/

namespace SquarePool.Feed

/-! ## Parts that the pages share -/

/-- A team. -/
def TeamInfo.layout : Layout TeamInfo :=
  .record {
    make := mk
    decode := decode
    columns :=
      .field "id" .text id <|
      .field "name" .text name <|
      .field "displayName" .text displayName <|
      .field "abbreviation" .text abbreviation <|
      .field "location" (.nullable .text nofun) location <|
      .field "color" (.nullable .text nofun) color <|
      .field "alternateColor" (.nullable .text nofun) alternateColor .done }

/-- The season of a game. -/
def SeasonRef.layout : Layout SeasonRef :=
  .record {
    make := mk
    decode := decode
    columns :=
      .field "year" .int32 year <|
      .field "type" .int32 type .done }

/-- The week of a game. -/
def WeekRef.layout : Layout WeekRef :=
  .record {
    make := mk
    decode := decode
    columns := .field "number" .int32 number .done }

/-- The place of a game. -/
def VenueInfo.layout : Layout VenueInfo :=
  .record {
    make := mk
    decode := decode
    columns := .field "fullName" .text fullName .done }

/-- A remark on a game. -/
def Note.layout : Layout Note :=
  .record {
    make := mk
    decode := decode
    columns :=
      .field "type" .text kind <|
      .field "headline" .text headline .done }

/-- The names of a status. -/
def StatusKind.layout : Layout StatusKind :=
  .record {
    make := mk
    decode := decode
    columns :=
      .field "id" .text id <|
      .field "name" .text name <|
      .field "state" .text state <|
      .field "completed" .truth completed <|
      .field "description" .text description .done }

/-- The status of a game. -/
def StatusInfo.layout : Layout StatusInfo :=
  .record {
    make := mk
    decode := decode
    columns :=
      .field "clock" .whole clock <|
      .field "displayClock" .text displayClock <|
      .field "period" .int32 period <|
      .field "type" StatusKind.layout kind .done }

/-! ## The page of teams -/

/-- An entry in the list of teams. -/
def TeamEntry.layout : Layout TeamEntry :=
  .record {
    make := mk
    decode := decode
    columns := .field "team" TeamInfo.layout team .done }

/-- A league on the page of teams. -/
def LeagueTeams.layout : Layout LeagueTeams :=
  .record {
    make := mk
    decode := decode
    columns := .field "teams" (.list TeamEntry.layout) teams .done }

/-- A sport on the page of teams. -/
def SportTeams.layout : Layout SportTeams :=
  .record {
    make := mk
    decode := decode
    columns := .field "leagues" (.list LeagueTeams.layout) leagues .done }

/-- The page of teams. -/
def TeamsPage.layout : Layout TeamsPage :=
  .record {
    make := mk
    decode := decode
    columns := .field "sports" (.list SportTeams.layout) sports .done }

/-! ## The scoreboard -/

/-- The points of a period as a quantity. -/
def LineValue.layout : Layout LineValue :=
  .record {
    make := mk
    decode := decode
    columns := .field "value" .whole value .done }

/-- A side on the scoreboard. -/
def ScoreboardSide.layout : Layout ScoreboardSide :=
  .record {
    make := mk
    decode := decode
    columns :=
      .field "id" .text id <|
      .field "homeAway" .text homeAway <|
      .field "team" TeamInfo.layout team <|
      .field "score" (.nullable .text nofun) score <|
      .field "linescores" (.list LineValue.layout) linescores .done }

/-- A contest on the scoreboard. -/
def ScoreboardContest.layout : Layout ScoreboardContest :=
  .record {
    make := mk
    decode := decode
    columns :=
      .field "id" .text id <|
      .field "date" .text date <|
      .field "venue" (.nullable VenueInfo.layout nofun) venue <|
      .field "competitors" (.list ScoreboardSide.layout) competitors <|
      .field "notes" (.list Note.layout) notes .done }

/-- A game on the scoreboard. -/
def ScoreboardGame.layout : Layout ScoreboardGame :=
  .record {
    make := mk
    decode := decode
    columns :=
      .field "id" .text id <|
      .field "date" .text date <|
      .field "name" .text name <|
      .field "shortName" .text shortName <|
      .field "season" SeasonRef.layout season <|
      .field "week" (.nullable WeekRef.layout nofun) week <|
      .field "competitions" (.list ScoreboardContest.layout) competitions <|
      .field "status" StatusInfo.layout status .done }

/-- The part of a season. -/
def SeasonKind.layout : Layout SeasonKind :=
  .record {
    make := mk
    decode := decode
    columns :=
      .field "id" .text id <|
      .field "type" .int32 code <|
      .field "name" .text name .done }

/-- The season of a league. -/
def LeagueSeason.layout : Layout LeagueSeason :=
  .record {
    make := mk
    decode := decode
    columns :=
      .field "year" .int32 year <|
      .field "startDate" .text startDate <|
      .field "endDate" .text endDate <|
      .field "type" SeasonKind.layout kind .done }

/-- A league on the scoreboard. -/
def LeagueInfo.layout : Layout LeagueInfo :=
  .record {
    make := mk
    decode := decode
    columns := .field "season" (.nullable LeagueSeason.layout nofun) season .done }

/-- The scoreboard. -/
def ScoreboardPage.layout : Layout ScoreboardPage :=
  .record {
    make := mk
    decode := decode
    columns :=
      .field "leagues" (.list LeagueInfo.layout) leagues <|
      .field "events" (.list ScoreboardGame.layout) events .done }

/-! ## The schedule of a team -/

/-- A score on a schedule. -/
def ScheduleScore.layout : Layout ScheduleScore :=
  .record {
    make := mk
    decode := decode
    columns :=
      .field "value" (.nullable .whole nofun) value <|
      .field "displayValue" .text displayValue .done }

/-- A side on a schedule. -/
def ScheduleSide.layout : Layout ScheduleSide :=
  .record {
    make := mk
    decode := decode
    columns :=
      .field "id" .text id <|
      .field "homeAway" .text homeAway <|
      .field "team" TeamInfo.layout team <|
      .field "score" (.nullable ScheduleScore.layout nofun) score .done }

/-- A contest on a schedule. -/
def ScheduleContest.layout : Layout ScheduleContest :=
  .record {
    make := mk
    decode := decode
    columns :=
      .field "id" .text id <|
      .field "date" .text date <|
      .field "venue" (.nullable VenueInfo.layout nofun) venue <|
      .field "competitors" (.list ScheduleSide.layout) competitors <|
      .field "status" StatusInfo.layout status <|
      .field "notes" (.list Note.layout) notes .done }

/-- A game on a schedule. -/
def ScheduleGame.layout : Layout ScheduleGame :=
  .record {
    make := mk
    decode := decode
    columns :=
      .field "id" .text id <|
      .field "date" .text date <|
      .field "name" .text name <|
      .field "season" SeasonRef.layout season <|
      .field "seasonType" SeasonKind.layout seasonKind <|
      .field "week" (.nullable WeekRef.layout nofun) week <|
      .field "competitions" (.list ScheduleContest.layout) competitions .done }

/-- The schedule of a team. -/
def SchedulePage.layout : Layout SchedulePage :=
  .record {
    make := mk
    decode := decode
    columns := .field "events" (.list ScheduleGame.layout) events .done }

/-! ## The summary of a game -/

/-- The points of a period as a text. -/
def LineText.layout : Layout LineText :=
  .record {
    make := mk
    decode := decode
    columns := .field "displayValue" .text displayValue .done }

/-- A side in a summary. -/
def SummarySide.layout : Layout SummarySide :=
  .record {
    make := mk
    decode := decode
    columns :=
      .field "id" .text id <|
      .field "homeAway" .text homeAway <|
      .field "winner" .truth winner <|
      .field "team" TeamInfo.layout team <|
      .field "score" (.nullable .text nofun) score <|
      .field "linescores" (.list LineText.layout) linescores .done }

/-- A contest in a summary. -/
def SummaryContest.layout : Layout SummaryContest :=
  .record {
    make := mk
    decode := decode
    columns :=
      .field "id" .text id <|
      .field "date" .text date <|
      .field "venue" (.nullable VenueInfo.layout nofun) venue <|
      .field "competitors" (.list SummarySide.layout) competitors <|
      .field "status" StatusInfo.layout status <|
      .field "notes" (.list Note.layout) notes .done }

/-- The head of a summary. -/
def SummaryHeader.layout : Layout SummaryHeader :=
  .record {
    make := mk
    decode := decode
    columns :=
      .field "id" .text id <|
      .field "season" SeasonRef.layout season <|
      .field "week" (.nullable .int32 nofun) week <|
      .field "competitions" (.list SummaryContest.layout) competitions .done }

/-- The summary of a game. -/
def SummaryPage.layout : Layout SummaryPage :=
  .record {
    make := mk
    decode := decode
    columns := .field "header" SummaryHeader.layout header .done }

end SquarePool.Feed
