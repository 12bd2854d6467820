import SquarePool.Feed.Reading
import SquarePool.Proofs.Payout.Winners
import SquarePool.Proofs.Session

/-!
# Schedules and payouts

The schedule of a team tells how a game ended and nothing about its periods, and a record from it
replaces all points of the stored game. Main statement: when a game that is over is reconciled with
an entry of a schedule, a grid keeps the winners of the periods that are scored by the total, and
has none for the periods that are scored by line scores.
-/

namespace SquarePool

/-- The score of the period is the total of the game, not a sum of line scores. -/
def Period.isAtEnd : Period → Bool
  | q4 | final | all => true
  | _ => false

/-- Without line scores only the total is known. -/
theorem Points.through_of_no_lines {points : Points} (h : points.lines = {}) (league : League)
    (period : Period) :
    points.through league period = if period.isAtEnd then points.total else none := by
  cases period with
  | q1 | q2 | q3 => simp [through, throughThird, throughSecond, h, Period.isAtEnd]
  | half => simp [through, throughSecond, h, Period.isAtEnd]
  | q4 | final | all => rfl

theorem Points.through_of_isAtEnd (points : Points) (league : League) {period : Period}
    (h : period.isAtEnd = true) : points.through league period = points.total := by
  cases period with
  | q4 | final | all => rfl
  | _ => exact nomatch h

/-! ## Entries of a schedule -/

namespace Feed

/-- What holds of each entry holds of the two that are picked. -/
theorem pickSides_elim {motive : Side → Prop} {entries : List (String × Side)}
    {sides : Side × Side} (h : pickSides entries = .ok sides)
    (each : ∀ entry ∈ entries, motive entry.2) : motive sides.1 ∧ motive sides.2 := by
  unfold pickSides at h
  dsimp only at h
  split at h
  · rename_i home away hhome haway
    obtain rfl := Except.ok.inj h
    have mem_home := (List.mem_filter.1 (List.mem_of_getLast? hhome)).1
    have mem_away := (List.mem_filter.1 (List.mem_of_getLast? haway)).1
    exact ⟨each home mem_home, each away mem_away⟩
  · exact nomatch h

/-- A game from a schedule has no line scores. -/
theorem ScheduleGame.lines_of_game {entry : ScheduleGame} {game : Game}
    (h : entry.game = .ok game) :
    game.home.points.lines = {} ∧ game.away.points.lines = {} := by
  unfold ScheduleGame.game at h
  cases hdate : readDate entry.date with
  | error fault => simp [hdate, bind, Except.bind] at h
  | ok start =>
    cases hcontest : firstContest .competitions entry.competitions with
    | error fault => simp [hdate, hcontest, bind, Except.bind] at h
    | ok contest =>
      cases hsides : pickSides (contest.competitors.map fun s => (s.homeAway, s.side)) with
      | error fault => simp [hdate, hcontest, hsides, bind, Except.bind] at h
      | ok sides =>
        simp only [hdate, hcontest, hsides, bind, Except.bind, Except.ok.injEq] at h
        subst h
        refine pickSides_elim (motive := fun side => side.points.lines = {}) hsides ?_
        intro entry hentry
        obtain ⟨side, -, rfl⟩ := List.mem_map.1 hentry
        rfl

end Feed

/-! ## Winners without line scores -/

namespace Winners

variable {league : League} {earlier later : Progress} {payout : Payout} {board : Board}
  {home away : List Int} {sets : List NumberSet}

/-- The second display is that of a game that is over, with the totals of the first and without
line scores. -/
structure DropsLines (earlier later : Progress) : Prop where
  final : earlier.status = .final
  final' : later.status = .final
  noHomeLines : later.home.lines = {}
  noAwayLines : later.away.lines = {}
  homeTotal : later.home.total = earlier.home.total
  awayTotal : later.away.total = earlier.away.total

theorem DropsLines.winnerOf? (drops : DropsLines earlier later) (period : Period) :
    Winners.winnerOf? later league payout board home away sets period =
      if period.isAtEnd then
        Winners.winnerOf? earlier league payout board home away sets period
      else none := by
  unfold Winners.winnerOf?
  rw [if_pos (Progress.isComplete_of_final drops.final' period),
    if_pos (Progress.isComplete_of_final drops.final period),
    Points.through_of_no_lines drops.noHomeLines, Points.through_of_no_lines drops.noAwayLines,
    drops.homeTotal, drops.awayTotal]
  by_cases atEnd : period.isAtEnd = true
  · rw [if_pos atEnd, if_pos atEnd, if_pos atEnd, Points.through_of_isAtEnd _ _ atEnd,
      Points.through_of_isAtEnd _ _ atEnd]
  · rw [if_neg atEnd, if_neg atEnd, if_neg atEnd]
    rfl

theorem DropsLines.ofProgress (drops : DropsLines earlier later) :
    ofProgress later league payout board home away sets =
      (ofProgress earlier league payout board home away sets).filter (·.1.isAtEnd) := by
  unfold Winners.ofProgress
  induction payout.periods with
  | nil => rfl
  | cons period rest ih =>
    rw [List.filterMap_cons, List.filterMap_cons, drops.winnerOf? period, ih]
    by_cases atEnd : period.isAtEnd = true
    · rw [if_pos atEnd]
      cases Winners.winnerOf? earlier league payout board home away sets period with
      | none => rfl
      | some square => simp [atEnd]
    · rw [if_neg atEnd]
      cases Winners.winnerOf? earlier league payout board home away sets period with
      | none => rfl
      | some square => simp [atEnd]

end Winners

/-! ## What scoring reads of a store -/

/-- The grid without the names on it. -/
def Grid.unnamed (grid : Grid) : Grid :=
  { grid with homeTeamName := none, awayTeamName := none }

namespace Store

/-- Beside games and names the two stores agree in everything that scoring reads. -/
structure SamePlay (a b : Store) : Prop where
  grids : b.grids.map Grid.unnamed = a.grids.map Grid.unnamed
  pools : b.pools = a.pools
  numberSets : b.numberSets = a.numberSets

theorem SamePlay.trans {a b c : Store} (hab : a.SamePlay b) (hbc : b.SamePlay c) : a.SamePlay c where
  grids := hbc.grids.trans hab.grids
  pools := hbc.pools.trans hab.pools
  numberSets := hbc.numberSets.trans hab.numberSets

variable {store : Store} {now : Instant} {mute : Bool} {league : League} {game : Game}

theorem samePlay_putGame (record : GameRecord) : store.SamePlay (store.putGame now record).2 := by
  obtain ⟨games, lastGameId, h⟩ := store.putGame_frame now record
  rw [h]
  exact ⟨rfl, rfl, rfl⟩

theorem samePlay_refreshGrids (gameId : Int) : store.SamePlay (store.refreshGrids gameId).2 := by
  cases h : (store.game? gameId).bind store.teamsOf? with
  | none =>
    rw [refreshGrids_of_none h]
    exact ⟨rfl, rfl, rfl⟩
  | some teams =>
    rw [refreshGrids_of_some h]
    exact ⟨Table.map_updateWhere _ _ _ _ fun _ => rfl, rfl, rfl⟩

theorem samePlay_announceIf (changed : Bool) (gameId : Int) :
    store.SamePlay (store.announceIf changed gameId) := by
  cases changed <;> exact ⟨rfl, rfl, rfl⟩

theorem samePlay_refreshIf (outdated : Bool) (gameId : Int) :
    store.SamePlay (store.refreshIf outdated gameId).2 := by
  cases outdated with
  | true => exact samePlay_refreshGrids gameId
  | false => exact ⟨rfl, rfl, rfl⟩

theorem samePlay_applyGame (old : Option GameRow) (record : GameRecord) :
    store.SamePlay (store.applyGame now mute old record).2 :=
  (samePlay_putGame record).trans ((samePlay_announceIf _ _).trans (samePlay_refreshIf _ _))

/-- The sheet of a grid is scored as before, with the row that its game has now. -/
theorem SamePlay.exists_sheet {a b : Store} (same : a.SamePlay b) {gridId : Int}
    {sheet : ScoreSheet} (h : a.scoreSheet? gridId = some sheet) {row row' : GameRow}
    (linked : sheet.game = some row) (hrow : b.game? row.id = some row') :
    ∃ sheet', b.scoreSheet? gridId = some sheet' ∧
      sheet'.winners = Winners.ofProgress row'.progress row'.league sheet.payout sheet.board
        (sheet.homeNumbers.getD []) (sheet.awayNumbers.getD []) sheet.numberSets := by
  have hkey : ∀ grid : Grid, grid.unnamed.id = grid.id := fun _ => rfl
  have hfind : (Table.find? Grid.id gridId b.grids).map Grid.unnamed =
      (Table.find? Grid.id gridId a.grids).map Grid.unnamed := by
    rw [← Table.find?_map hkey, ← Table.find?_map hkey, same.grids]
  obtain ⟨grid, hgrid, hpooled⟩ := Option.bind_eq_some_iff.1 h
  obtain ⟨pool, hpool, hsheet⟩ := Option.bind_eq_some_iff.1 hpooled
  obtain rfl := Option.some.inj hsheet
  obtain ⟨gameId, hlink, hfound⟩ := Option.bind_eq_some_iff.1 linked
  obtain rfl : row.id = gameId := Table.key_of_find? hfound
  rw [hgrid, Option.map_some] at hfind
  obtain ⟨grid', hgrid', agree⟩ := Option.map_eq_some_iff.1 hfind
  -- what the two grids agree on holds all that scoring reads of them
  simp only [Grid.unnamed, Grid.mk.injEq, true_and] at agree
  obtain ⟨-, hpoolId, -, hhome, haway, hgameId, hpayout⟩ := agree
  simp only [scoreSheet?, hgrid', same.pools, hpoolId, hpool, Option.bind_eq_bind,
    Option.bind_some, Option.some.injEq, exists_eq_left', ScoreSheet.winners, hgameId, hlink, hrow,
    hpayout, hhome, haway, same.numberSets]

theorem winners_of_linked {sheet : ScoreSheet} {row : GameRow} (linked : sheet.game = some row) :
    sheet.winners = Winners.ofProgress row.progress row.league sheet.payout sheet.board
      (sheet.homeNumbers.getD []) (sheet.awayNumbers.getD []) sheet.numberSets := by
  simp only [ScoreSheet.winners, linked]

end Store

/-! ## Reconciling with a schedule -/

namespace World

/-- **A schedule takes the line scores away.** When a game that is over is reconciled with an entry
of a schedule that has it over with the same totals, a grid that is linked to it keeps the winners
of the periods that are scored by the total, and no others. -/
theorem schedule_keeps_winners_of_total {world : World} (reachable : world.store.Reachable)
    (healthy : world.failing = false) {scope : SyncScope} (live : scope.dryRun = false)
    (feed : Feed) {row : GameRow} {entry : Feed.ScheduleGame} {game : Game}
    (read : entry.game = .ok game) (stored : world.store.gameByExternalId? game.id = some row)
    (final : row.progress.status = .final) (final' : game.status = .final)
    (homeTotal : game.home.points.total = row.progress.home.total)
    (awayTotal : game.away.points.total = row.progress.away.total) :
    ∃ outcome next,
      Sync.processGame (services feed) scope row.league game world = (.ok outcome, next) ∧
      ∀ gridId sheet, world.store.scoreSheet? gridId = some sheet → sheet.game = some row →
        ∃ sheet', next.store.scoreSheet? gridId = some sheet' ∧
          sheet'.winners = sheet.winners.filter (·.1.isAtEnd) := by
  have valid := reachable.valid
  have reported : (GameRecord.ofFeed row.league game).progress.status = .final := final'
  have applied : ∀ old, world.store.gameByExternalId? game.id = some old →
      old.outranks (.ofFeed row.league game) = false :=
    fun old _ => old.not_outranks_of_final reported
  refine ⟨_, _, processGame_of_healthy healthy live row.league game, ?_⟩
  intro gridId sheet hsheet linked
  -- the row that is written has the number of the old one, and the score of the entry
  have hput := @Store.putGame_of_some world.store (.ofFeed row.league game) row world.now stored
  have hrow := @Store.row_of_not_outranks world.store world.now world.mute row.league game applied
  rw [hput] at hrow
  have same : world.store.SamePlay
      (world.store.reconcile world.now world.mute row.league game).2 := by
    rw [Store.reconcile_of_not_outranks applied]
    have teamed : world.store.SamePlay (world.store.putTeamsOf world.now row.league game) :=
      ⟨rfl, rfl, rfl⟩
    exact teamed.trans (Store.samePlay_applyGame _ _)
  have found := (valid.reconcile world.now world.mute row.league game).game?_of_gameByExternalId?
    hrow
  obtain ⟨sheet', hsheet', hwinners⟩ := same.exists_sheet hsheet linked found
  obtain ⟨noHomeLines, noAwayLines⟩ := Feed.ScheduleGame.lines_of_game read
  have drops : Winners.DropsLines row.progress game.progress :=
    { final, final', noHomeLines, noAwayLines, homeTotal, awayTotal }
  refine ⟨sheet', hsheet', ?_⟩
  rw [hwinners, Store.winners_of_linked linked]
  exact drops.ofProgress

/-- Of the four winners of a game of quarters the last is kept. -/
theorem schedule_keeps_winner_of_quarters :
    let finished : Game :=
      { id := "401", start := .epoch, status := .final, period := 4
        home := { points := { total := some 27, lines := .ofPeriods [7, 10, 3, 7] } }
        away := { points := { total := some 20, lines := .ofPeriods [3, 7, 7, 3] } } }
    let entry : Feed.ScheduleGame :=
      { id := "401", date := "1970-01-01T00:00Z"
        competitions := [
          { competitors := [
              { homeAway := "home", score := some { value := some 27 } },
              { homeAway := "away", score := some { displayValue := "20" } }]
            status := { kind := { name := "STATUS_FINAL" } } }] }
    let listed : Game :=
      { id := "401", start := .epoch, status := .final
        home := { points := { total := some 27 } }, away := { points := { total := some 20 } } }
    let digits : List Int := [0, 1, 2, 3, 4, 5, 6, 7, 8, 9]
    let feed : Feed := fun _ _ => { answer := .error .cancelled }
    let scope : SyncScope := { leagues := [.nfl] }
    let session : List Operation :=
      [.process feed scope .nfl finished, .putPool { id := 1, payout := .threeQuarters },
        .putGrid { id := 10, poolId := 1, homeNumbers := some digits
                   awayNumbers := some digits, gameId := some 1 }]
    let world : World := ({ now := .epoch } : World).after session
    let row : GameRow :=
      { GameRecord.ofFeed .nfl finished with
        id := 1, created := .epoch, modified := .epoch, synced := .epoch }
    let sheet : ScoreSheet :=
      { gridId := 10, board := .std100, payout := .threeQuarters, homeNumbers := some digits
        awayNumbers := some digits, game := some row }
    entry.game = .ok listed ∧ world.store.scoreSheet? 10 = some sheet ∧
      sheet.winners = [(.q1, 38), (.q2, 8), (.q3, 71), (.final, 8)] ∧
      ∃ outcome next sheet',
        Sync.processGame (services feed) scope .nfl listed world = (.ok outcome, next) ∧
        next.store.scoreSheet? 10 = some sheet' ∧ sheet'.winners = [(.final, 8)] := by
  intro finished entry listed digits feed scope session world row sheet
  have read : entry.game = .ok listed := by
    subst entry listed
    rfl
  have stored : world.store.gameByExternalId? "401" = some row := rfl
  have before : world.store.scoreSheet? 10 = some sheet := rfl
  have winners : sheet.winners = [(.q1, 38), (.q2, 8), (.q3, 71), (.final, 8)] := by
    subst sheet row finished
    rfl
  obtain ⟨outcome, next, hrun, keeps⟩ := @schedule_keeps_winners_of_total world
    ⟨.epoch, session, rfl⟩ rfl scope rfl feed row entry listed read stored rfl rfl rfl rfl
  obtain ⟨sheet', hsheet', hwinners⟩ := keeps 10 sheet before rfl
  refine ⟨read, before, winners, outcome, next, sheet', hrun, hsheet', ?_⟩
  rw [hwinners, winners]
  rfl

/-- Of a college game of two halves the payout at halftime is gone. -/
theorem schedule_withdraws_halftime :
    let finished : Game :=
      { id := "401", start := .epoch, status := .final, period := 2
        home := { points := { total := some 71, lines := .ofPeriods [30, 41] } }
        away := { points := { total := some 64, lines := .ofPeriods [33, 31] } } }
    let entry : Feed.ScheduleGame :=
      { id := "401", date := "1970-01-01T00:00Z"
        competitions := [
          { competitors := [
              { homeAway := "home", score := some { value := some 71 } },
              { homeAway := "away", score := some { value := some 64 } }]
            status := { period := 2, kind := { name := "STATUS_FINAL" } } }] }
    let listed : Game :=
      { id := "401", start := .epoch, status := .final, period := 2
        home := { points := { total := some 71 } }, away := { points := { total := some 64 } } }
    let digits : List Int := [0, 1, 2, 3, 4, 5, 6, 7, 8, 9]
    let feed : Feed := fun _ _ => { answer := .error .cancelled }
    let scope : SyncScope := { leagues := [.ncaab] }
    let session : List Operation :=
      [.process feed scope .ncaab finished, .putPool { id := 1, payout := .halves },
        .putGrid { id := 10, poolId := 1, homeNumbers := some digits
                   awayNumbers := some digits, gameId := some 1 }]
    let world : World := ({ now := .epoch } : World).after session
    let next : World := (Sync.processGame (services feed) scope .ncaab listed world).2
    entry.game = .ok listed ∧
      (world.store.gameByExternalId? "401").map (·.toGameRecord) =
        some (.ofFeed .ncaab finished) ∧
      listed.home.points.total = finished.home.points.total ∧
      listed.away.points.total = finished.away.points.total ∧
      (Sync.processGame (services feed) scope .ncaab listed world).1 =
        .ok (.applied 1 false true 0) ∧
      (world.store.scoreSheet? 10).map (·.winners) = some [(.half, 31), (.final, 42)] ∧
      (next.store.scoreSheet? 10).map (·.winners) = some [(.final, 42)] := by
  refine ⟨?read, ?stored, ?homeTotal, ?awayTotal, ?applied, ?before, ?after⟩
  all_goals rfl

end World

end SquarePool
