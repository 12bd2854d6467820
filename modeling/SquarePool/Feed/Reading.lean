import SquarePool.Feed.Error
import SquarePool.Feed.Payload
import SquarePool.Instant.Reader

/-!
# Reading payloads

Each kind of page tells a game in its own way; here they become the same `Game`. A score that
cannot be read is unknown, never zero. Of two faults on a page the one that is met first is
reported: on scoreboards and schedules the date, then the contest, then the sides; on summaries the
contest first.
-/

namespace SquarePool.Feed

/-- Reads a moment as a feed writes it. -/
def readDate (text : String) : Except FeedError Instant :=
  match Instant.ofFeed? text with
  | some t => .ok t
  | none => .error (.unreadableDate text)

/-- The status of a game: by its name where the name is certain, else by the mark of completion,
else by the state before the game. -/
def StatusKind.status (kind : StatusKind) : GameStatus :=
  if kind.name = "STATUS_SCHEDULED" then .scheduled
  else if kind.name = "STATUS_FINAL" ∨ kind.name = "STATUS_FINAL_OT" then .final
  else if kind.completed then .final
  else if kind.state = "pre" then .scheduled
  else .inProgress

/-- The title of a game: the first headline that is not empty. -/
def title? (notes : List Note) : Option String :=
  (notes.find? (·.headline ≠ "")).map (·.headline)

/-- The name of a venue that has one. -/
def venueName? (venue : Option VenueInfo) : Option String :=
  (venue.map (·.fullName)).filter (· ≠ "")

/-- Reads a score from a text; blanks around it do not count. -/
def readScore? (text : String) : Option Int := Text.readInt32? (Text.trimChars text.toList)

/-- The nearest whole number of 32 bits. -/
def saturate (n : Int) : Int := max Text.int32Min (min Text.int32Max n)

/-- A team from a page; empty texts count as absent. -/
def TeamInfo.team (info : TeamInfo) : Team where
  id := info.id
  name := info.name
  fullName := info.displayName
  abbreviation := info.abbreviation
  location := info.location.filter (· ≠ "")
  color := info.color.filter (· ≠ "")
  alternateColor := info.alternateColor.filter (· ≠ "")

/-- The two sides among entries marked `home` or otherwise. The last of each kind counts. -/
def pickSides (entries : List (String × Side)) : Except FeedError (Side × Side) :=
  let home := (entries.filter (·.1 = "home")).getLast?
  let away := (entries.filter (·.1 ≠ "home")).getLast?
  match home, away with
  | some h, some a => .ok (h.2, a.2)
  | _, _ => .error (.missing .sides)

/-- The first contest of a game. -/
def firstContest {α : Type} (part : MissingPart) : List α → Except FeedError α
  | [] => .error (.missing part)
  | contest :: _ => .ok contest

/-- A game with the status, title and place that pages of every kind give. -/
def assemble (id : String) (start : Instant) (status : StatusInfo) (notes : List Note)
    (venue : Option VenueInfo) (season seasonType : Int) (week : Option Int)
    (sides : Side × Side) : Game where
  id := id
  name := title? notes
  start := start
  status := status.kind.status
  statusDetail := status.kind.description
  period := status.period
  clock := status.displayClock
  season := season
  seasonType := seasonType
  week := week
  venue := venueName? venue
  home := sides.1
  away := sides.2

/-- Every team of a page, in order. -/
def TeamsPage.teams (page : TeamsPage) : List Team :=
  page.sports.flatMap fun sport =>
    sport.leagues.flatMap fun league => league.teams.map (·.team.team)

/-- A side on the scoreboard. Its line scores are quantities. -/
def ScoreboardSide.side (s : ScoreboardSide) : Side where
  team := s.team.team
  points := {
    total := s.score.bind readScore?
    lines := LineScores.ofPeriods (s.linescores.map fun l => saturate l.value) }

/-- The game told by an entry of the scoreboard. -/
def ScoreboardGame.game (g : ScoreboardGame) : Except FeedError Game := do
  let start ← readDate g.date
  let contest ← firstContest .competitions g.competitions
  let sides ← pickSides (contest.competitors.map fun s => (s.homeAway, s.side))
  .ok (assemble g.id start g.status contest.notes contest.venue g.season.year g.season.type
    (g.week.map (·.number)) sides)

/-- A score on a schedule: the quantity, or else the text. -/
def ScheduleScore.points? (s : ScheduleScore) : Option Int :=
  match s.value with
  | some value => some (saturate value)
  | none => readScore? s.displayValue

/-- A side on a schedule, which has no line scores. -/
def ScheduleSide.side (s : ScheduleSide) : Side where
  team := s.team.team
  points := { total := s.score.bind ScheduleScore.points? }

/-- The game told by an entry of a schedule. -/
def ScheduleGame.game (g : ScheduleGame) : Except FeedError Game := do
  let start ← readDate g.date
  let contest ← firstContest .competitions g.competitions
  let sides ← pickSides (contest.competitors.map fun s => (s.homeAway, s.side))
  .ok (assemble g.id start contest.status contest.notes contest.venue g.season.year
    g.seasonKind.code (g.week.map (·.number)) sides)

/-- A side in a summary. Its line scores are texts. -/
def SummarySide.side (s : SummarySide) : Side where
  team := s.team.team
  points := {
    total := s.score.bind readScore?
    lines := LineScores.ofEntries (s.linescores.map fun l => readScore? l.displayValue) }

/-- The game told by a summary. -/
def SummaryPage.game (page : SummaryPage) : Except FeedError Game := do
  let contest ← firstContest .summaryCompetitions page.header.competitions
  let start ← readDate contest.date
  let sides ← pickSides (contest.competitors.map fun s => (s.homeAway, s.side))
  .ok (assemble page.header.id start contest.status contest.notes contest.venue
    page.header.season.year page.header.season.type page.header.week sides)

/-- The season of the first league on a scoreboard. -/
def ScoreboardPage.season (page : ScoreboardPage) (now : Instant) :
    Except FeedError SeasonWindow := do
  match page.leagues.head?.bind (·.season) with
  | none => .error (.missing .leagueInfo)
  | some season =>
    let start ← readDate season.startDate
    let finish ← readDate season.endDate
    .ok {
      year := season.year
      start := start
      finish := finish
      typeName := season.kind.name
      inSeason := start < now && now < finish }

/-- The games of a scoreboard; entries that tell no game are left out. -/
def ScoreboardPage.games (page : ScoreboardPage) : List Game :=
  page.events.filterMap fun g => g.game.toOption

/-- The games of a schedule; entries that tell no game are left out. -/
def SchedulePage.games (page : SchedulePage) : List Game :=
  page.events.filterMap fun g => g.game.toOption

end SquarePool.Feed
