import SquarePool.Document.Basic
import SquarePool.Store.Grid
import SquarePool.Winners

/-!
# Documents about what a store keeps

Rows of the tables of a pool, and what follows from them, as documents.
-/

namespace SquarePool

open Document

/-- A stored team. -/
def TeamRow.ofJson? (json : Json) : Option TeamRow := do
  some {
    id := ← orElse json "id" Json.text? ""
    league := ← orElse json "league" word? .nfl
    name := ← orElse json "name" Json.text? ""
    fullName := ← orElse json "fullName" Json.text? ""
    abbreviation := ← orElse json "abbreviation" Json.text? ""
    location := ← optional json "location" Json.text?
    color := ← optional json "color" Json.text?
    alternateColor := ← optional json "alternateColor" Json.text?
    conference := ← optional json "conference" Json.text?
    division := ← optional json "division" Json.text?
    created := ← orElse json "created" instant? .epoch
    modified := ← orElse json "modified" instant? .epoch }

/-- The points of one side of a stored game; its fields start with `side`. -/
def Points.ofJson? (json : Json) (side : String) : Option Points := do
  some {
    total := ← optional json (side ++ "Score") int?
    lines := {
      q1 := ← optional json (side ++ "Q1") int?
      q2 := ← optional json (side ++ "Q2") int?
      q3 := ← optional json (side ++ "Q3") int?
      q4 := ← optional json (side ++ "Q4") int?
      ot := ← optional json (side ++ "Ot") int? } }

/-- A stored game. -/
def GameRow.ofJson? (json : Json) : Option GameRow := do
  some {
    externalId := ← orElse json "espnId" Json.text? ""
    league := ← orElse json "league" word? .nfl
    name := ← optional json "name" Json.text?
    homeTeamId := ← orElse json "homeTeamId" Json.text? "1"
    awayTeamId := ← orElse json "awayTeamId" Json.text? "2"
    start := ← now? json "eventDate"
    season := ← orElse json "season" int? 2024
    week := ← optional json "week" int?
    postseason := ← orElse json "postseason" Json.bool? false
    venue := ← optional json "venue" Json.text?
    progress := {
      status := ← orElse json "status" word? .scheduled
      detail := ← optional json "statusDetail" Json.text?
      period := ← optional json "period" int?
      clock := ← optional json "clock" Json.text?
      home := ← Points.ofJson? json "home"
      away := ← Points.ofJson? json "away" }
    id := ← orElse json "id" int? 0
    created := ← orElse json "created" instant? .epoch
    modified := ← orElse json "modified" instant? .epoch
    synced := ← orElse json "lastSynced" instant? .epoch }

/-- The numbers drawn for a period. -/
def NumberSet.ofJson? (json : Json) : Option NumberSet := do
  some {
    gridId := ← orElse json "gridId" int? 0
    period := ← required json "setType" word?
    homeNumbers := ← optional json "homeNumbers" ints?
    awayNumbers := ← optional json "awayNumbers" ints?
    manualDraw := ← orElse json "manualDraw" Json.bool? false }

/-- A pool. -/
def Pool.ofJson? (json : Json) : Option Pool := do
  some {
    id := ← required json "id" int?
    token := ← orElse json "token" Json.text? ""
    board := ← orElse json "gridType" word? .std100
    payout := ← orElse json "config" word? .standard }

/-- A grid. -/
def Grid.ofJson? (json : Json) : Option Grid := do
  some {
    id := ← required json "id" int?
    poolId := ← required json "poolId" int?
    active := ← orElse json "active" Json.bool? true
    homeTeamName := ← optional json "homeTeamName" Json.text?
    awayTeamName := ← optional json "awayTeamName" Json.text?
    homeNumbers := ← optional json "homeNumbers" ints?
    awayNumbers := ← optional json "awayNumbers" ints?
    gameId := ← optional json "eventId" int?
    payout := ← optional json "payoutConfig" word? }

/-- The colours of a grid. -/
def GridColours.ofJson? (json : Json) : Option GridColours := do
  some {
    gridId := ← required json "gridId" int?
    home1 := ← optional json "home1" Json.text?
    home2 := ← optional json "home2" Json.text?
    away1 := ← optional json "away1" Json.text?
    away2 := ← optional json "away2" Json.text? }

/-- A stored team. -/
def TeamRow.toJson (t : TeamRow) : Json :=
  obj [("id", Json.text t.id), ("league", wordJson t.league), ("name", Json.text t.name),
    ("fullName", Json.text t.fullName), ("abbreviation", Json.text t.abbreviation),
    ("location", optText t.location), ("color", optText t.color),
    ("alternateColor", optText t.alternateColor), ("conference", optText t.conference),
    ("division", optText t.division), ("created", instantJson t.created),
    ("modified", instantJson t.modified)]

/-- A stored game. -/
def GameRow.toJson (g : GameRow) : Json :=
  let p := g.progress
  obj [("id", Json.int g.id), ("espnId", Json.text g.externalId), ("league", wordJson g.league),
    ("name", optText g.name), ("homeTeamId", Json.text g.homeTeamId),
    ("awayTeamId", Json.text g.awayTeamId), ("eventDate", instantJson g.start),
    ("season", Json.int g.season), ("week", optInt g.week), ("postseason", .bool g.postseason),
    ("venue", optText g.venue), ("status", wordJson p.status), ("statusDetail", optText p.detail),
    ("period", optInt p.period), ("clock", optText p.clock), ("homeScore", optInt p.home.total),
    ("awayScore", optInt p.away.total), ("homeQ1", optInt p.home.lines.q1),
    ("homeQ2", optInt p.home.lines.q2), ("homeQ3", optInt p.home.lines.q3),
    ("homeQ4", optInt p.home.lines.q4), ("homeOt", optInt p.home.lines.ot),
    ("awayQ1", optInt p.away.lines.q1), ("awayQ2", optInt p.away.lines.q2),
    ("awayQ3", optInt p.away.lines.q3), ("awayQ4", optInt p.away.lines.q4),
    ("awayOt", optInt p.away.lines.ot), ("created", instantJson g.created),
    ("modified", instantJson g.modified), ("lastSynced", instantJson g.synced)]

/-- The numbers drawn for a period. -/
def NumberSet.toJson (set : NumberSet) : Json :=
  obj [("gridId", Json.int set.gridId), ("setType", wordJson set.period),
    ("homeNumbers", optInts set.homeNumbers), ("awayNumbers", optInts set.awayNumbers),
    ("manualDraw", .bool set.manualDraw)]

/-- A grid. -/
def Grid.toJson (g : Grid) : Json :=
  obj [("id", Json.int g.id), ("poolId", Json.int g.poolId), ("active", .bool g.active),
    ("homeTeamName", optText g.homeTeamName), ("awayTeamName", optText g.awayTeamName),
    ("homeNumbers", optInts g.homeNumbers), ("awayNumbers", optInts g.awayNumbers),
    ("eventId", optInt g.gameId), ("payoutConfig", Json.orNull wordJson g.payout)]

/-- The colours of a grid. -/
def GridColours.toJson (c : GridColours) : Json :=
  obj [("gridId", Json.int c.gridId), ("home1", optText c.home1), ("home2", optText c.home2),
    ("away1", optText c.away1), ("away2", optText c.away2)]

/-- A sync log. -/
def SyncLog.toJson (log : SyncLog) : Json :=
  obj [("id", Json.int log.id), ("syncType", wordJson log.mode),
    ("league", Json.orNull wordJson log.league), ("startedAt", instantJson log.started),
    ("completedAt", Json.orNull instantJson log.completed),
    ("recordsProcessed", Json.int log.processed), ("success", Json.orNull Json.bool log.success),
    ("errorMessage", optText log.error), ("isComplete", .bool log.isComplete)]

def Winners.toJson (winners : Winners) : Json :=
  obj (winners.map fun (period, square) => (key period, Json.nat square))

/-- A score sheet with its winners. -/
def ScoreSheet.toJson (sheet : ScoreSheet) : Json :=
  obj [("gridId", Json.int sheet.gridId), ("gridType", wordJson sheet.board),
    ("config", wordJson sheet.payout), ("homeTeamName", optText sheet.homeTeamName),
    ("awayTeamName", optText sheet.awayTeamName), ("homeNumbers", optInts sheet.homeNumbers),
    ("awayNumbers", optInts sheet.awayNumbers),
    ("event", optText (sheet.game.map fun g => g.externalId)),
    ("numberSets", obj (sheet.numberSets.map fun set => (key set.period, NumberSet.toJson set))),
    ("winning", obj (sheet.winners.map fun (period, square) => (key period, Json.nat square)))]

def Win.toJson (w : Win) : Json :=
  obj [("period", wordJson w.period), ("label", Json.text w.label),
    ("homeScore", Json.int w.homeScore), ("awayScore", Json.int w.awayScore),
    ("homeTeamName", Json.text w.homeName), ("awayTeamName", Json.text w.awayName)]

end SquarePool
