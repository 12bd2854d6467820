import SquarePool.Feed.Reading
import SquarePool.Proofs.Json.Decode

/-!
# A game as it is told

What there is to tell about a game, and how each kind of page writes it: a scoreboard writes line
scores as quantities, a summary as texts, a schedule not at all; the status stands beside the contest
or within it, and a week in an object or bare. Main statements: each page is decoded to the record
that holds just what was written.
-/

namespace SquarePool.Feed

open Json (fields? field list? nullable? text? fields?_ofMembers list?_array_map nullable?_orNull)

/-- A score as it is told: not at all, as a text, or as a whole number. -/
inductive Tally where
  | unknown
  | text (shown : String)
  | whole (points : Int32)

/-- What is told of a side. -/
structure Contestant where
  team : TeamInfo
  tally : Tally
  /-- The points of each period, overtime included. -/
  periods : List Int32

/-- What is told of the status of a game. -/
structure StatusAccount where
  clock : Json.Number
  /-- The clock is not too large to exist as a quantity. -/
  finite : clock.whole?.isSome
  displayClock : String
  period : Int32
  kind : StatusKind

/-- What is told of a game. One side is marked as being at home, the other in any other way. -/
structure Account where
  id : String
  date : String
  year : Int32
  /-- The number of the part of the season. -/
  part : Int32
  week : Option Int32
  status : StatusAccount
  venue : Option String
  notes : List Note
  home : Contestant
  away : Contestant
  awayMark : String
  notHome : awayMark ≠ "home"

/-- Something about both sides, in the order in which they are listed. -/
def Account.inOrder {α : Type} (account : Account) (homeFirst : Bool)
    (f : String → Contestant → α) : List α :=
  if homeFirst then [f "home" account.home, f account.awayMark account.away]
  else [f account.awayMark account.away, f "home" account.home]

/-! ## Parts that all pages share -/

/-- A team as it is written. -/
def TeamInfo.json (team : TeamInfo) : Json :=
  .ofMembers [("id", .text team.id), ("name", .text team.name),
    ("displayName", .text team.displayName), ("abbreviation", .text team.abbreviation),
    ("location", .orNull .text team.location), ("color", .orNull .text team.color),
    ("alternateColor", .orNull .text team.alternateColor)]

/-- A remark as it is written. -/
def Note.json (note : Note) : Json :=
  .ofMembers [("type", .text note.kind), ("headline", .text note.headline)]

/-- The names of a status as they are written. -/
def StatusKind.json (kind : StatusKind) : Json :=
  .ofMembers [("id", .text kind.id), ("name", .text kind.name), ("state", .text kind.state),
    ("completed", .bool kind.completed), ("description", .text kind.description)]

/-- A status as it is written. -/
def StatusAccount.json (status : StatusAccount) : Json :=
  .ofMembers [("clock", .number status.clock), ("displayClock", .text status.displayClock),
    ("period", .int status.period.toInt), ("type", status.kind.json)]

/-- The status as it is read. -/
def StatusAccount.info (status : StatusAccount) : StatusInfo where
  clock := status.clock.whole?.get status.finite
  displayClock := status.displayClock
  period := status.period.toInt
  kind := status.kind

/-- The season of a game as it is written. -/
def seasonJson (year part : Int32) : Json :=
  .ofMembers [("year", .int year.toInt), ("type", .int part.toInt)]

/-- A week as it is written in an object. -/
def weekJson (number : Int32) : Json := .ofMembers [("number", .int number.toInt)]

/-- A venue as it is written. -/
def venueJson (name : String) : Json := .ofMembers [("fullName", .text name)]

/-- A contest with its status, and with its sides as the page writes them. -/
def Account.contestJson (account : Account) (homeFirst : Bool)
    (side : String → Contestant → Json) : Json :=
  .ofMembers [("date", .text account.date), ("venue", .orNull venueJson account.venue),
    ("competitors", .array (account.inOrder homeFirst side)), ("status", account.status.json),
    ("notes", .array (account.notes.map Note.json))]

@[simp]
theorem TeamInfo.decode_json (team : TeamInfo) : TeamInfo.decode team.json = some team := by
  rw [TeamInfo.decode, TeamInfo.json, fields?_ofMembers (by simp) (by simp)]
  simp

@[simp]
theorem Note.decode_json (note : Note) : Note.decode note.json = some note := by
  rw [Note.decode, Note.json, fields?_ofMembers (by simp) (by simp)]
  simp

@[simp]
theorem StatusKind.decode_json (kind : StatusKind) : StatusKind.decode kind.json = some kind := by
  rw [StatusKind.decode, StatusKind.json, fields?_ofMembers (by simp) (by simp)]
  simp

@[simp]
theorem StatusAccount.decode_json (status : StatusAccount) :
    StatusInfo.decode status.json = some status.info := by
  obtain ⟨seconds, hclock⟩ := Option.isSome_iff_exists.1 status.finite
  rw [StatusInfo.decode, StatusAccount.json, fields?_ofMembers (by simp) (by simp)]
  simp [hclock, info, Json.whole?]

@[simp]
theorem decode_seasonJson (year part : Int32) :
    SeasonRef.decode (seasonJson year part) = some { year := year.toInt, type := part.toInt } := by
  rw [SeasonRef.decode, seasonJson, fields?_ofMembers (by simp) (by simp)]
  simp

theorem decode_weekJson (number : Int32) :
    WeekRef.decode (weekJson number) = some { number := number.toInt } := by
  rw [WeekRef.decode, weekJson, fields?_ofMembers (by simp) (by simp)]
  simp

@[simp]
theorem decode_week? (week : Option Int32) :
    nullable? WeekRef.decode (.orNull weekJson week) =
      some (week.map fun number => { number := number.toInt }) :=
  nullable?_orNull decode_weekJson nofun week

theorem decode_venueJson (name : String) :
    VenueInfo.decode (venueJson name) = some { fullName := name } := by
  rw [VenueInfo.decode, venueJson, fields?_ofMembers (by simp) (by simp)]
  simp

@[simp]
theorem decode_venue? (venue : Option String) :
    nullable? VenueInfo.decode (.orNull venueJson venue) =
      some (venue.map fun name => { fullName := name }) :=
  nullable?_orNull decode_venueJson nofun venue

@[simp]
theorem decode_notes (notes : List Note) :
    list? Note.decode (.array (notes.map Note.json)) = some notes := by
  rw [list?_array_map Note.decode_json, List.map_id']

/-- Both sides are read in the order in which they are written. -/
theorem Account.decode_inOrder {α : Type} (account : Account) (homeFirst : Bool)
    {decode : Json → Option α} {json : String → Contestant → Json}
    {side : String → Contestant → α}
    (read : ∀ mark contestant, decode (json mark contestant) = some (side mark contestant)) :
    list? decode (.array (account.inOrder homeFirst json)) =
      some (account.inOrder homeFirst side) := by
  cases homeFirst <;> simp [inOrder, list?, read]

/-! ## The scoreboard -/

/-- The score as a text. -/
def Tally.text? : Tally → Option String
  | unknown => none
  | text shown => some shown
  | whole points => some (Text.showInt points.toInt)

/-- The points of a period as a quantity. -/
def lineValueJson (points : Int32) : Json := .ofMembers [("value", .int points.toInt)]

theorem decode_lineValueJson (points : Int32) :
    LineValue.decode (lineValueJson points) = some { value := points.toInt } := by
  rw [LineValue.decode, lineValueJson, fields?_ofMembers (by simp) (by simp)]
  simp

namespace Contestant

/-- A side as a scoreboard writes it. -/
def onScoreboard (mark : String) (contestant : Contestant) : Json :=
  .ofMembers [("homeAway", .text mark), ("team", contestant.team.json),
    ("score", .orNull .text contestant.tally.text?),
    ("linescores", .array (contestant.periods.map lineValueJson))]

/-- The side as it is read. -/
def scoreboardSide (mark : String) (contestant : Contestant) : ScoreboardSide where
  homeAway := mark
  team := contestant.team
  score := contestant.tally.text?
  linescores := contestant.periods.map fun points => { value := points.toInt }

theorem decode_onScoreboard (mark : String) (contestant : Contestant) :
    ScoreboardSide.decode (contestant.onScoreboard mark) =
      some (contestant.scoreboardSide mark) := by
  rw [ScoreboardSide.decode, onScoreboard, fields?_ofMembers (by simp) (by simp)]
  simp [list?_array_map decode_lineValueJson, scoreboardSide]

end Contestant

namespace Account

/-- The contest of a game as a scoreboard writes it, without its status. -/
def scoreboardContest (account : Account) (homeFirst : Bool) : Json :=
  .ofMembers [("date", .text account.date), ("venue", .orNull venueJson account.venue),
    ("competitors", .array (account.inOrder homeFirst Contestant.onScoreboard)),
    ("notes", .array (account.notes.map Note.json))]

/-- The game as a scoreboard writes it. -/
def onScoreboard (account : Account) (homeFirst : Bool) : Json :=
  .ofMembers [("id", .text account.id), ("date", .text account.date),
    ("season", seasonJson account.year account.part), ("week", .orNull weekJson account.week),
    ("competitions", .array [account.scoreboardContest homeFirst]),
    ("status", account.status.json)]

/-- The entry of the scoreboard as it is read. -/
def scoreboardGame (account : Account) (homeFirst : Bool) : ScoreboardGame where
  id := account.id
  date := account.date
  season := { year := account.year.toInt, type := account.part.toInt }
  week := account.week.map fun number => { number := number.toInt }
  competitions := [{
    date := account.date
    venue := account.venue.map fun name => { fullName := name }
    competitors := account.inOrder homeFirst Contestant.scoreboardSide
    notes := account.notes }]
  status := account.status.info

theorem decode_scoreboardContest (account : Account) (homeFirst : Bool) :
    ScoreboardContest.decode (account.scoreboardContest homeFirst) = some {
      date := account.date
      venue := account.venue.map fun name => { fullName := name }
      competitors := account.inOrder homeFirst Contestant.scoreboardSide
      notes := account.notes } := by
  have hsides := account.decode_inOrder homeFirst Contestant.decode_onScoreboard
  rw [ScoreboardContest.decode, scoreboardContest, fields?_ofMembers (by simp) (by simp)]
  simp [hsides]

/-- **The scoreboard** is read as it is written. -/
theorem decode_onScoreboard (account : Account) (homeFirst : Bool) :
    ScoreboardGame.decode (account.onScoreboard homeFirst) =
      some (account.scoreboardGame homeFirst) := by
  have hcontest := account.decode_scoreboardContest homeFirst
  rw [ScoreboardGame.decode, onScoreboard, fields?_ofMembers (by simp) (by simp)]
  simp [list?, hcontest, scoreboardGame]

end Account

/-! ## The summary -/

/-- The points of a period as a text. -/
def lineTextJson (points : Int32) : Json :=
  .ofMembers [("displayValue", .text (Text.showInt points.toInt))]

theorem decode_lineTextJson (points : Int32) :
    LineText.decode (lineTextJson points) = some { displayValue := Text.showInt points.toInt } := by
  rw [LineText.decode, lineTextJson, fields?_ofMembers (by simp) (by simp)]
  simp

namespace Contestant

/-- A side as a summary writes it. -/
def inSummary (mark : String) (contestant : Contestant) : Json :=
  .ofMembers [("homeAway", .text mark), ("team", contestant.team.json),
    ("score", .orNull .text contestant.tally.text?),
    ("linescores", .array (contestant.periods.map lineTextJson))]

/-- The side as it is read. -/
def summarySide (mark : String) (contestant : Contestant) : SummarySide where
  homeAway := mark
  team := contestant.team
  score := contestant.tally.text?
  linescores := contestant.periods.map fun points => { displayValue := Text.showInt points.toInt }

theorem decode_inSummary (mark : String) (contestant : Contestant) :
    SummarySide.decode (contestant.inSummary mark) = some (contestant.summarySide mark) := by
  rw [SummarySide.decode, inSummary, fields?_ofMembers (by simp) (by simp)]
  simp [list?_array_map decode_lineTextJson, summarySide]

end Contestant

namespace Account

/-- The head of a summary as it is written. -/
def summaryHeader (account : Account) (homeFirst : Bool) : Json :=
  .ofMembers [("id", .text account.id), ("season", seasonJson account.year account.part),
    ("week", .orNull (fun number => .int number.toInt) account.week),
    ("competitions", .array [account.contestJson homeFirst Contestant.inSummary])]

/-- The game as a summary writes it. -/
def inSummary (account : Account) (homeFirst : Bool) : Json :=
  .ofMembers [("header", account.summaryHeader homeFirst)]

/-- The summary as it is read. -/
def summaryPage (account : Account) (homeFirst : Bool) : SummaryPage where
  header := {
    id := account.id
    season := { year := account.year.toInt, type := account.part.toInt }
    week := account.week.map Int32.toInt
    competitions := [{
      date := account.date
      venue := account.venue.map fun name => { fullName := name }
      competitors := account.inOrder homeFirst Contestant.summarySide
      status := account.status.info
      notes := account.notes }] }

theorem decode_summaryContest (account : Account) (homeFirst : Bool) :
    SummaryContest.decode (account.contestJson homeFirst Contestant.inSummary) = some {
      date := account.date
      venue := account.venue.map fun name => { fullName := name }
      competitors := account.inOrder homeFirst Contestant.summarySide
      status := account.status.info
      notes := account.notes } := by
  have hsides := account.decode_inOrder homeFirst Contestant.decode_inSummary
  rw [SummaryContest.decode, contestJson, fields?_ofMembers (by simp) (by simp)]
  simp [hsides]

/-- **The summary** is read as it is written. -/
theorem decode_inSummary (account : Account) (homeFirst : Bool) :
    SummaryPage.decode (account.inSummary homeFirst) = some (account.summaryPage homeFirst) := by
  have hcontest := account.decode_summaryContest homeFirst
  have hweek : nullable? Json.int32? (.orNull (fun number : Int32 => .int number.toInt)
      account.week) = some (account.week.map Int32.toInt) :=
    nullable?_orNull Json.int32?_int nofun account.week
  have hheader : SummaryHeader.decode (account.summaryHeader homeFirst) =
      some (account.summaryPage homeFirst).header := by
    rw [SummaryHeader.decode, summaryHeader, fields?_ofMembers (by simp) (by simp)]
    simp [list?, hcontest, hweek, summaryPage]
  rw [SummaryPage.decode, inSummary, fields?_ofMembers (by simp) (by simp)]
  simp [hheader]

end Account

/-! ## The schedule -/

namespace Tally

/-- The score as a schedule writes it: a whole number as a quantity, any other text as it is. -/
def onSchedule : Tally → Json
  | unknown => .null
  | text shown => .ofMembers [("displayValue", .text shown)]
  | whole points => .ofMembers [("value", .int points.toInt)]

/-- The score as it is read. -/
def scheduleScore? : Tally → Option ScheduleScore
  | unknown => none
  | text shown => some { displayValue := shown }
  | whole points => some { value := some points.toInt }

theorem decode_onSchedule (tally : Tally) :
    nullable? ScheduleScore.decode tally.onSchedule = some tally.scheduleScore? := by
  cases tally with
  | unknown => rfl
  | text shown =>
    show (ScheduleScore.decode (.ofMembers [("displayValue", .text shown)])).map some = _
    rw [ScheduleScore.decode, fields?_ofMembers (by simp) (by simp)]
    simp [scheduleScore?]
  | whole points =>
    have hvalue : nullable? Json.whole? (.int points.toInt) = some (some points.toInt) :=
      congrArg (Option.map some) (Json.whole?_int points)
    show (ScheduleScore.decode (.ofMembers [("value", .int points.toInt)])).map some = _
    rw [ScheduleScore.decode, fields?_ofMembers (by simp) (by simp)]
    simp [scheduleScore?, hvalue]

end Tally

namespace Contestant

/-- A side as a schedule writes it. -/
def onSchedule (mark : String) (contestant : Contestant) : Json :=
  .ofMembers [("homeAway", .text mark), ("team", contestant.team.json),
    ("score", contestant.tally.onSchedule)]

/-- The side as it is read. -/
def scheduleSide (mark : String) (contestant : Contestant) : ScheduleSide where
  homeAway := mark
  team := contestant.team
  score := contestant.tally.scheduleScore?

theorem decode_onSchedule (mark : String) (contestant : Contestant) :
    ScheduleSide.decode (contestant.onSchedule mark) = some (contestant.scheduleSide mark) := by
  rw [ScheduleSide.decode, onSchedule, fields?_ofMembers (by simp) (by simp)]
  simp [contestant.tally.decode_onSchedule, scheduleSide]

end Contestant

namespace Account

/-- The game as a schedule writes it. -/
def onSchedule (account : Account) (homeFirst : Bool) : Json :=
  .ofMembers [("id", .text account.id), ("date", .text account.date),
    ("season", .ofMembers [("year", .int account.year.toInt)]),
    ("seasonType", .ofMembers [("type", .int account.part.toInt)]),
    ("week", .orNull weekJson account.week),
    ("competitions", .array [account.contestJson homeFirst Contestant.onSchedule])]

/-- The entry of the schedule as it is read. -/
def scheduleGame (account : Account) (homeFirst : Bool) : ScheduleGame where
  id := account.id
  date := account.date
  season := { year := account.year.toInt }
  seasonKind := { code := account.part.toInt }
  week := account.week.map fun number => { number := number.toInt }
  competitions := [{
    date := account.date
    venue := account.venue.map fun name => { fullName := name }
    competitors := account.inOrder homeFirst Contestant.scheduleSide
    status := account.status.info
    notes := account.notes }]

theorem decode_scheduleContest (account : Account) (homeFirst : Bool) :
    ScheduleContest.decode (account.contestJson homeFirst Contestant.onSchedule) = some {
      date := account.date
      venue := account.venue.map fun name => { fullName := name }
      competitors := account.inOrder homeFirst Contestant.scheduleSide
      status := account.status.info
      notes := account.notes } := by
  have hsides := account.decode_inOrder homeFirst Contestant.decode_onSchedule
  rw [ScheduleContest.decode, contestJson, fields?_ofMembers (by simp) (by simp)]
  simp [hsides]

/-- **The schedule** is read as it is written. -/
theorem decode_onSchedule (account : Account) (homeFirst : Bool) :
    ScheduleGame.decode (account.onSchedule homeFirst) =
      some (account.scheduleGame homeFirst) := by
  have hcontest := account.decode_scheduleContest homeFirst
  have hseason : SeasonRef.decode (.ofMembers [("year", .int account.year.toInt)]) =
      some { year := account.year.toInt } := by
    rw [SeasonRef.decode, fields?_ofMembers (by simp) (by simp)]
    simp
  have hpart : SeasonKind.decode (.ofMembers [("type", .int account.part.toInt)]) =
      some { code := account.part.toInt } := by
    rw [SeasonKind.decode, fields?_ofMembers (by simp) (by simp)]
    simp
  rw [ScheduleGame.decode, onSchedule, fields?_ofMembers (by simp) (by simp)]
  simp [list?, hcontest, hseason, hpart, scheduleGame]

end Account

end SquarePool.Feed
