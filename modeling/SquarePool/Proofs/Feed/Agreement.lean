import SquarePool.Proofs.Feed.Account
import SquarePool.Proofs.Sync.Polling

/-!
# Pages that agree

A game moves from the scoreboard to its summary when it is no longer listed, and a change of page
must not look like a change of the game. Main statement: the pages tell one and the same game,
whatever there is to tell, except that a schedule has no line scores; so the summary of a game that
was just read from the scoreboard announces nothing.
-/

namespace SquarePool

/-- The game without what was scored in each period. -/
def Game.withoutLines (game : Game) : Game :=
  { game with home.points.lines := {}, away.points.lines := {} }

namespace Feed

/-- A whole number of 32 bits is the nearest one to itself. -/
theorem saturate_toInt (n : Int32) : saturate n.toInt = n.toInt := by
  have hlow : Text.int32Min ≤ n.toInt := n.le_toInt
  have hhigh : n.toInt ≤ Text.int32Max := Int.le_of_lt_add_one n.toInt_lt
  rw [saturate, min_eq_right hhigh, max_eq_right hlow]

/-- A score is read as it is shown. -/
theorem readScore?_showInt (n : Int32) : readScore? (Text.showInt n.toInt) = some n.toInt := by
  rw [readScore?, Text.trimChars_showInt, Text.readInt32?_showInt (Json.isInt32_toInt n)]

/-- The points that a tally stands for. -/
def Tally.points? (tally : Tally) : Option Int := tally.text?.bind readScore?

/-- A schedule gives the points that the text gives. -/
theorem Tally.points?_scheduleScore? (tally : Tally) :
    tally.scheduleScore?.bind ScheduleScore.points? = tally.points? := by
  cases tally with
  | unknown => rfl
  | text shown => rfl
  | whole points =>
    show some (saturate points.toInt) = readScore? (Text.showInt points.toInt)
    rw [saturate_toInt, readScore?_showInt]

namespace Contestant

/-- The side that is told of. -/
def side (contestant : Contestant) : Side where
  team := contestant.team.team
  points := {
    total := contestant.tally.points?
    lines := LineScores.ofPeriods (contestant.periods.map Int32.toInt) }

theorem side_scoreboardSide (mark : String) (contestant : Contestant) :
    (contestant.scoreboardSide mark).side = contestant.side := by
  have hlines : (contestant.scoreboardSide mark).linescores.map (fun l => saturate l.value) =
      contestant.periods.map Int32.toInt := by
    rw [scoreboardSide, List.map_map]
    exact List.map_congr_left fun n _ => saturate_toInt n
  rw [ScoreboardSide.side, hlines]
  rfl

theorem side_summarySide (mark : String) (contestant : Contestant) :
    (contestant.summarySide mark).side = contestant.side := by
  have hlines : (contestant.summarySide mark).linescores.map
      (fun l => readScore? l.displayValue) =
        (contestant.periods.map Int32.toInt).map some := by
    rw [summarySide, List.map_map, List.map_map]
    exact List.map_congr_left fun n _ => readScore?_showInt n
  rw [SummarySide.side, hlines]
  rfl

theorem side_scheduleSide (mark : String) (contestant : Contestant) :
    (contestant.scheduleSide mark).side = { contestant.side with points.lines := {} } := by
  rw [ScheduleSide.side, scheduleSide, contestant.tally.points?_scheduleScore?]
  rfl

end Contestant

namespace Account

/-- Whatever their order, the sides are told apart. -/
theorem pickSides_inOrder {α : Type} (account : Account) (homeFirst : Bool)
    (entry : String → Contestant → α) (mark : α → String) (side : α → Side)
    (marked : ∀ m c, mark (entry m c) = m) :
    pickSides ((account.inOrder homeFirst entry).map fun s => (mark s, side s)) =
      .ok (side (entry "home" account.home), side (entry account.awayMark account.away)) := by
  have notHome := account.notHome
  cases homeFirst <;> simp [inOrder, pickSides, marked, notHome]

/-- The game that is told of, once its start is known. -/
def game (account : Account) (start : Instant) : Game :=
  assemble account.id start account.status.info account.notes
    (account.venue.map fun name => { fullName := name }) account.year.toInt account.part.toInt
    (account.week.map Int32.toInt) (account.home.side, account.away.side)

/-- The game that is told of, if its date can be read. -/
def told (account : Account) : Except FeedError Game := (readDate account.date).map account.game

theorem game_scoreboardGame (account : Account) (homeFirst : Bool) :
    (account.scoreboardGame homeFirst).game = account.told := by
  have hsides := account.pickSides_inOrder homeFirst Contestant.scoreboardSide
    ScoreboardSide.homeAway ScoreboardSide.side fun _ _ => rfl
  simp only [Contestant.side_scoreboardSide] at hsides
  simp only [told, ScoreboardGame.game, scoreboardGame, firstContest, bind, Except.bind, hsides,
    Option.map_map]
  cases readDate account.date <;> rfl

theorem game_summaryPage (account : Account) (homeFirst : Bool) :
    (account.summaryPage homeFirst).game = account.told := by
  have hsides := account.pickSides_inOrder homeFirst Contestant.summarySide
    SummarySide.homeAway SummarySide.side fun _ _ => rfl
  simp only [Contestant.side_summarySide] at hsides
  simp only [told, SummaryPage.game, summaryPage, firstContest, bind, Except.bind, hsides]
  cases readDate account.date <;> rfl

theorem game_scheduleGame (account : Account) (homeFirst : Bool) :
    (account.scheduleGame homeFirst).game = account.told.map Game.withoutLines := by
  have hsides := account.pickSides_inOrder homeFirst Contestant.scheduleSide
    ScheduleSide.homeAway ScheduleSide.side fun _ _ => rfl
  simp only [Contestant.side_scheduleSide] at hsides
  simp only [told, ScheduleGame.game, scheduleGame, firstContest, bind, Except.bind, hsides,
    Option.map_map]
  cases readDate account.date <;> rfl

theorem told_error {account : Account} {e : FeedError} (h : account.told = .error e) :
    e = .unreadableDate account.date := by
  simp only [told, readDate] at h
  split at h
  next => cases h
  next => exact (Except.error.inj h).symm

end Account

/-- **Pages agree** on every game, whatever is told of it and whichever side is listed first: the
scoreboard and the summary tell the same, be it a game or that its date cannot be read, and the
schedule tells it without line scores. Hence the game from the summary announces nothing where the
game from the scoreboard was reconciled just before. The points of overtime are taken to add up
within 32 bits; the pages add them up alike in any case. -/
theorem pages_agree (account : Account) (boardHomeFirst summaryHomeFirst scheduleHomeFirst : Bool) :
    let onScoreboard :=
      (ScoreboardGame.decode (account.onScoreboard boardHomeFirst)).map ScoreboardGame.game
    let inSummary := (SummaryPage.decode (account.inSummary summaryHomeFirst)).map SummaryPage.game
    let onSchedule :=
      (ScheduleGame.decode (account.onSchedule scheduleHomeFirst)).map ScheduleGame.game
    onScoreboard = some account.told ∧ inSummary = some account.told ∧
    onSchedule = some (account.told.map Game.withoutLines) ∧
    (∀ e, account.told = .error e → e = .unreadableDate account.date) ∧
    ∀ first second : Game, onScoreboard = some (.ok first) → inSummary = some (.ok second) →
      ∀ (world : World) (feed : Feed) (scope : SyncScope) (league : League) (later : Instant)
        (mute : Bool),
        let process := Sync.processGame (World.services feed) scope league
        (process second { (process first world).2 with now := later, mute }).2.store.notices =
          (process first world).2.store.notices := by
  intro onScoreboard inSummary onSchedule
  have hboard : onScoreboard = some account.told := by
    simp only [onScoreboard, account.decode_onScoreboard, Option.map_some,
      account.game_scoreboardGame]
  have hsummary : inSummary = some account.told := by
    simp only [inSummary, account.decode_inSummary, Option.map_some, account.game_summaryPage]
  refine ⟨hboard, hsummary, ?schedule, fun e => Account.told_error, ?notices⟩
  case schedule =>
    simp only [onSchedule, account.decode_onSchedule, Option.map_some, account.game_scheduleGame]
  case notices =>
    intro first second hfirst hsecond world feed scope league later mute
    have same : second = first := by
      rw [hboard] at hfirst
      rw [hsummary, hfirst] at hsecond
      exact (Except.ok.inj (Option.some.inj hsecond)).symm
    rw [same]
    exact World.notices_processGame_processGame world feed scope league first later mute

/-- A game with two overtimes, whose sides the summary lists the other way around. -/
theorem pages_agree_on_overtime :
    let periods := [7, 3, 0, 10, 3, 6].map Int32.ofInt
    let account : Account := {
      id := "401", date := "2024-02-11T23:30Z", year := 2023, part := 3, week := some 5
      status := {
        clock := .ofInt 0, finite := rfl, displayClock := "0:00", period := 6
        kind := { name := "STATUS_FINAL_OT", state := "post", completed := true } }
      venue := some "Allegiant Stadium", notes := [{ headline := "" }, { headline := "Bowl" }]
      home := { team := { id := "12" }, tally := .whole 29, periods }
      away := { team := { id := "25" }, tally := .text " 22 ", periods := [] }
      awayMark := "away", notHome := by decide }
    let feed : SquarePool.Feed := fun _ _ => { answer := .error .cancelled }
    let process := Sync.processGame (World.services feed) { leagues := [.nfl] } .nfl
    ∃ game : Game, game.home.points = { total := some 29, lines := {
        q1 := some 7, q2 := some 3, q3 := some 0, q4 := some 10, ot := some 9 } } ∧
      game.away.points.total = some 22 ∧
      (ScoreboardGame.decode (account.onScoreboard true)).map ScoreboardGame.game =
        some (.ok game) ∧
      (SummaryPage.decode (account.inSummary false)).map SummaryPage.game = some (.ok game) ∧
      (process game { (process game { now := .epoch }).2 with
        now := .epoch, mute := false }).2.store.notices = [] := by
  intro periods account feed process
  have hread : readDate "2024-02-11T23:30Z" = .ok (.ofSeconds 1707694200 0) := by rfl
  have htold : account.told = .ok (account.game (.ofSeconds 1707694200 0)) :=
    congrArg (Except.map account.game) hread
  obtain ⟨board, summary, -, -, quiet⟩ := pages_agree account true false true
  rw [htold] at board summary
  refine ⟨_, rfl, rfl, board, summary, ?_⟩
  exact quiet _ _ board summary { now := .epoch } feed { leagues := [.nfl] } .nfl .epoch false

end Feed

end SquarePool
