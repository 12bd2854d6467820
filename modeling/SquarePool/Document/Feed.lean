import SquarePool.Document.Basic
import SquarePool.Feed.Error

/-!
# Documents about what a feed reports

Teams, games, seasons and failures of a feed as documents.
-/

namespace SquarePool

open Document

/-- A team of a feed. -/
def Team.ofJson? (json : Json) : Option Team := do
  some {
    id := ← orElse json "id" Json.text? ""
    name := ← orElse json "name" Json.text? ""
    fullName := ← orElse json "display_name" Json.text? ""
    abbreviation := ← orElse json "abbreviation" Json.text? ""
    location := ← optional json "location" Json.text?
    color := ← optional json "color" Json.text?
    alternateColor := ← optional json "alternate_color" Json.text? }

/-- One side of a game of a feed. -/
def Side.ofJson? (json : Json) : Option Side := do
  let lines := get json "line_scores"
  some {
    team := ← Team.ofJson? (get json "team")
    points := {
      total := ← optional json "score" int?
      lines := {
        q1 := ← optional lines "q1" int?
        q2 := ← optional lines "q2" int?
        q3 := ← optional lines "q3" int?
        q4 := ← optional lines "q4" int?
        ot := ← optional lines "ot" int? } } }

/-- A game of a feed. -/
def Game.ofJson? (json : Json) : Option Game := do
  some {
    id := ← orElse json "id" Json.text? ""
    name := ← optional json "name" Json.text?
    start := ← now? json "date"
    status := ← orElse json "status" word? .scheduled
    statusDetail := ← orElse json "status_detail" Json.text? ""
    period := ← orElse json "period" int? 0
    clock := ← orElse json "clock" Json.text? ""
    season := ← orElse json "season" int? 0
    seasonType := ← orElse json "season_type" int? 0
    week := ← optional json "week" int?
    venue := ← optional json "venue" Json.text?
    home := ← Side.ofJson? (get json "home")
    away := ← Side.ofJson? (get json "away") }

/-- A season of a feed. -/
def SeasonWindow.ofJson? (json : Json) : Option SeasonWindow := do
  some {
    year := ← orElse json "year" int? 0
    start := ← now? json "start_date"
    finish := ← now? json "end_date"
    typeName := ← orElse json "type_name" Json.text? ""
    inSeason := ← orElse json "in_season" Json.bool? false }

/-- A team of a feed. -/
def Team.toJson (t : Team) : Json :=
  obj [("id", Json.text t.id), ("name", Json.text t.name), ("display_name", Json.text t.fullName),
    ("abbreviation", Json.text t.abbreviation), ("location", optText t.location),
    ("color", optText t.color), ("alternate_color", optText t.alternateColor)]

/-- Line scores. -/
def LineScores.toJson (l : LineScores) : Json :=
  obj [("q1", optInt l.q1), ("q2", optInt l.q2), ("q3", optInt l.q3), ("q4", optInt l.q4),
    ("ot", optInt l.ot)]

/-- One side of a game of a feed. -/
def Side.toJson (s : Side) : Json :=
  obj [("team", Team.toJson s.team), ("score", optInt s.points.total),
    ("line_scores", LineScores.toJson s.points.lines)]

/-- A game of a feed. -/
def Game.toJson (g : Game) : Json :=
  obj [("id", Json.text g.id), ("name", optText g.name), ("date", instantJson g.start),
    ("status", wordJson g.status), ("status_detail", Json.text g.statusDetail),
    ("period", Json.int g.period), ("clock", Json.text g.clock), ("season", Json.int g.season),
    ("season_type", Json.int g.seasonType), ("week", optInt g.week), ("venue", optText g.venue),
    ("home", Side.toJson g.home), ("away", Side.toJson g.away)]

/-- A season. -/
def SeasonWindow.toJson (s : SeasonWindow) : Json :=
  obj [("year", Json.int s.year), ("start_date", instantJson s.start),
    ("end_date", instantJson s.finish), ("type_name", Json.text s.typeName),
    ("in_season", .bool s.inSeason)]

/-- A failure of the feed. -/
def FeedError.ofJson? (json : Json) : Option FeedError := do
  let url ← orElse json "url" Json.text? "u"
  match ← required json "kind" Json.text? with
  | "RateLimited" => some (.rateLimited (← orElse json "attempts" nat? 4) url)
  | "Status" => some (.status (← orElse json "status" nat? 500) url)
  | "EventNotFound" =>
    some (.gameNotFound (← orElse json "league" word? .nfl) (← orElse json "eventId" Json.text? ""))
  | "DateParse" => some (.unreadableDate (← orElse json "value" Json.text? ""))
  | "MissingData" =>
    match ← orElse json "what" Json.text? "" with
    | "competitions" => some (.missing .competitions)
    | "league info" => some (.missing .leagueInfo)
    | _ => none
  | "Cancelled" => some .cancelled
  | _ => none

end SquarePool
