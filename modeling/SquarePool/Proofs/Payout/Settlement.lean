import SquarePool.Proofs.Payout.Payable
import SquarePool.Proofs.Session

/-!
# Settlement

From the final report of a game to the squares that are paid. The points of a side are its total and
what it made in each period; they pass through line scores, the table of games and the sheet of a
grid. Main statement: once the final report is reconciled, every period that a payout pays on has a
winner, at the sums of the periods played, in the lists that count for it.
-/

namespace SquarePool

/-! ## Points -/

/-- The points of one side of a game that is over: in all, and in each period. -/
structure Tally where
  total : Int
  periods : List Int

namespace Tally

/-- The points as a feed reports them. -/
def points (tally : Tally) : Points where
  total := some tally.total
  lines := .ofPeriods tally.periods

/-- The points made in the first `n` periods. -/
def inFirst (tally : Tally) (n : Nat) : Int := (tally.periods.take n).foldr (· + ·) 0

/-- The points at the end of a period, added up from the periods played. -/
def through (tally : Tally) (league : League) : Period → Int
  | .q1 => tally.inFirst 1
  | .q2 => tally.inFirst 2
  | .q3 => tally.inFirst 3
  | .half => tally.inFirst (league.regulationPeriods / 2)
  | .q4 | .final | .all => tally.total

/-- The game was played to its end, no points were taken off, and the sums have 32 bits. -/
structure IsFull (tally : Tally) (league : League) : Prop where
  total_nonneg : 0 ≤ tally.total
  nonneg : ∀ n ∈ tally.periods, 0 ≤ n
  played : league.regulationPeriods ≤ tally.periods.length
  fits : ∀ n ≤ 3, Text.isInt32 (tally.inFirst n)

variable {tally : Tally} {league : League} {period : Period}

theorem foldr_nonneg {ns : List Int} (h : ∀ n ∈ ns, 0 ≤ n) : 0 ≤ ns.foldr (· + ·) 0 := by
  induction ns with
  | nil => simp
  | cons n rest ih =>
    have hn : 0 ≤ n := h n (by simp)
    have hrest : 0 ≤ rest.foldr (· + ·) 0 := ih fun m hm => h m (by simp [hm])
    rw [List.foldr_cons]
    omega

theorem IsFull.inFirst_nonneg (full : tally.IsFull league) (n : Nat) : 0 ≤ tally.inFirst n :=
  foldr_nonneg fun m hm => full.nonneg m (List.mem_of_mem_take hm)

theorem IsFull.through_nonneg (full : tally.IsFull league) (period : Period) :
    0 ≤ tally.through league period := by
  cases period with
  | q4 | final | all => exact full.total_nonneg
  | _ => exact full.inFirst_nonneg _

/-! Line scores give back the sums of the periods that they were made from. -/

theorem points_first (h : 1 ≤ tally.periods.length) :
    tally.points.lines.q1 = some (tally.inFirst 1) := by
  obtain ⟨total, _ | ⟨a, rest⟩⟩ := tally
  · simp at h
  · simp [inFirst, points, LineScores.ofPeriods, LineScores.ofEntries]

theorem IsFull.points_throughSecond (full : tally.IsFull league)
    (h : 2 ≤ tally.periods.length) : tally.points.throughSecond = some (tally.inFirst 2) := by
  have fits := full.fits 2 (by decide)
  obtain ⟨total, _ | ⟨a, _ | ⟨b, rest⟩⟩⟩ := tally
  · simp at h
  · simp at h
  · have hsum : inFirst ⟨total, a :: b :: rest⟩ 2 = a + b := by simp [inFirst]
    rw [hsum] at fits ⊢
    exact congrArg some (Score.add_of_isInt32 fits)

theorem IsFull.points_throughThird (full : tally.IsFull league)
    (h : 3 ≤ tally.periods.length) : tally.points.throughThird = some (tally.inFirst 3) := by
  have half := full.points_throughSecond (by omega)
  have fits := full.fits 3 (by decide)
  rw [Points.throughThird, half]
  obtain ⟨total, _ | ⟨a, _ | ⟨b, _ | ⟨c, rest⟩⟩⟩⟩ := tally
  · simp at h
  · simp at h
  · simp at h
  · have hsum : inFirst ⟨total, a :: b :: c :: rest⟩ 3 =
        inFirst ⟨total, a :: b :: c :: rest⟩ 2 + c := by simp [inFirst, Int.add_assoc]
    rw [hsum] at fits ⊢
    exact congrArg some (Score.add_of_isInt32 fits)

/-- At the end of each period the points are the sum of what was made up to it. Where halves are
played there is no third period. -/
theorem IsFull.points_through (full : tally.IsFull league)
    (h : period = .q3 → league.playsHalves = false) :
    tally.points.through league period = some (tally.through league period) := by
  have played := full.played
  have hquarters : league.playsHalves = false → league.regulationPeriods = 4 := fun hl => by
    simp [League.regulationPeriods, hl]
  have hhalves : league.playsHalves = true → league.regulationPeriods = 2 := fun hl => by
    simp [League.regulationPeriods, hl]
  have htwo : 2 ≤ tally.periods.length := by
    cases hl : league.playsHalves with
    | true => have := hhalves hl; omega
    | false => have := hquarters hl; omega
  cases period with
  | q1 => exact points_first (by omega)
  | q2 => exact full.points_throughSecond htwo
  | q3 =>
    have := hquarters (h rfl)
    exact full.points_throughThird (by omega)
  | half =>
    cases hl : league.playsHalves with
    | true =>
      rw [Points.through, through, if_pos hl, hhalves hl]
      exact points_first (by omega)
    | false =>
      rw [Points.through, through, if_neg (by simp [hl]), hquarters hl]
      exact full.points_throughSecond htwo
  | q4 | final | all => rfl

end Tally

/-- No payout that is offered where halves are played pays on a third period. -/
theorem Payout.playsHalves_of_offered {payout : Payout} {league : League}
    (offered : payout.validateFor league = .ok ()) (h : Period.q3 ∈ payout.periods) :
    league.playsHalves = false := by
  have hoffered : payout.isOfferedIn league = true := by
    unfold validateFor at offered
    split at offered
    · assumption
    · exact nomatch offered
  cases payout with
  | threeQuarters => simpa [isOfferedIn] using hoffered
  | quarters => exact nomatch hoffered
  | _ => exact absurd h (by decide)

/-! ## Numbers -/

namespace Store

/-- Both lists are drawn for the period of a grid itself. -/
def DrawsFor (store : Store) (gridId : Int) (period : Period) (home away : List Int) : Prop :=
  ∃ set ∈ store.numberSets, set.gridId = gridId ∧ set.period = period ∧
    set.homeNumbers = some home ∧ set.awayNumbers = some away

/-- The two lists that count for a period of a grid: those of the period, or else those of the
grid. On a standard payout only the grid has lists. -/
inductive Counts (store : Store) (grid : Grid) (payout : Payout) (period : Period)
    (home away : List Int) : Prop where
  | own (multiple : payout ≠ .standard) (drawn : store.DrawsFor grid.id period home away)
  | shared (notOwn : payout = .standard ∨ ∀ home away, ¬ store.DrawsFor grid.id period home away)
      (drawnHome : grid.homeNumbers = some home) (drawnAway : grid.awayNumbers = some away)

/-- A grid on which both lists are drawn has lists for every period. -/
theorem exists_counts {store : Store} {grid : Grid} {home away : List Int}
    (drawnHome : grid.homeNumbers = some home) (drawnAway : grid.awayNumbers = some away)
    (payout : Payout) (period : Period) :
    ∃ home away, store.Counts grid payout period home away := by
  by_cases standard : payout = .standard
  · exact ⟨home, away, .shared (.inl standard) drawnHome drawnAway⟩
  · by_cases own : ∃ home away, store.DrawsFor grid.id period home away
    · obtain ⟨home', away', own⟩ := own
      exact ⟨home', away', .own standard own⟩
    · have notOwn : ∀ home away, ¬ store.DrawsFor grid.id period home away :=
        fun home away drawn => own ⟨home, away, drawn⟩
      exact ⟨home, away, .shared (.inr notOwn) drawnHome drawnAway⟩

variable {store : Store} {grid : Grid} {payout : Payout} {period : Period} {home away : List Int}

/-- The set found for a period of a grid is the one that is stored for it. -/
theorem mem_of_setFor? {set : NumberSet}
    (h : Winners.setFor? (store.numberSets.filter (·.gridId == grid.id)) period = some set) :
    set ∈ store.numberSets ∧ set.gridId = grid.id ∧ set.period = period := by
  have hmem := List.mem_filter.1 (List.mem_reverse.1 (List.mem_of_find?_eq_some h))
  exact ⟨hmem.1, by simpa using hmem.2, by simpa using List.find?_some h⟩

theorem Valid.setFor?_of_mem (valid : store.Valid) {set : NumberSet}
    (hmem : set ∈ store.numberSets) (hgrid : set.gridId = grid.id) (hperiod : set.period = period) :
    Winners.setFor? (store.numberSets.filter (·.gridId == grid.id)) period = some set := by
  cases h : Winners.setFor? (store.numberSets.filter (·.gridId == grid.id)) period with
  | none =>
    have hmem' : set ∈ (store.numberSets.filter (·.gridId == grid.id)).reverse := by
      simp [hmem, hgrid]
    exact absurd (List.find?_eq_none.1 h set hmem') (by simp [hperiod])
  | some other =>
    obtain ⟨hother, hgrid', hperiod'⟩ := mem_of_setFor? h
    -- no two sets are stored for one period of one grid
    have hkey : (other.gridId, other.period) = (set.gridId, set.period) := by
      rw [hgrid, hgrid', hperiod, hperiod']
    rw [Table.eq_of_mem_of_key valid.setKeys hother hmem hkey]

/-- The lists that scoring finds for a period are those that are stored for it. -/
theorem Valid.drawnFor_iff (valid : store.Valid) :
    Winners.DrawnFor (store.numberSets.filter (·.gridId == grid.id)) period home away ↔
      store.DrawsFor grid.id period home away := by
  constructor
  · rintro ⟨set, hset, hhome, haway⟩
    obtain ⟨hmem, hgrid, hperiod⟩ := mem_of_setFor? hset
    exact ⟨set, hmem, hgrid, hperiod, hhome, haway⟩
  · rintro ⟨set, hmem, hgrid, hperiod, hhome, haway⟩
    exact ⟨set, valid.setFor?_of_mem hmem hgrid hperiod, hhome, haway⟩

/-- The lists that count are the ones that scoring uses. -/
theorem Valid.numbersFor_of_counts (valid : store.Valid)
    (counts : store.Counts grid payout period home away) :
    Winners.numbersFor payout (grid.homeNumbers.getD []) (grid.awayNumbers.getD [])
      (store.numberSets.filter (·.gridId == grid.id)) period = (home, away) := by
  apply Winners.counts_iff.1
  cases counts with
  | own multiple drawn => exact .own multiple (valid.drawnFor_iff.2 drawn)
  | shared notOwn drawnHome drawnAway =>
    rw [drawnHome, drawnAway]
    refine .shared (notOwn.imp_right fun notOwn home away drawn => ?_)
    exact notOwn home away (valid.drawnFor_iff.1 drawn)

/-! ## Sheets -/

/-- A grid of a pool is linked to a game and pays by a payout. Every list drawn for it is a draw,
and for each period that is paid on there are lists that count. -/
structure Plays (store : Store) (grid : Grid) (pool : Pool) (gameId : Int) (payout : Payout) :
    Prop where
  stored : Table.find? Grid.id grid.id store.grids = some grid
  pooled : Table.find? Pool.id grid.poolId store.pools = some pool
  linked : grid.gameId = some gameId
  pays : grid.payout.getD pool.payout = payout
  gridDraws : ∀ numbers, grid.homeNumbers = some numbers ∨ grid.awayNumbers = some numbers →
    Draw.validate numbers = .ok ()
  setDraws : ∀ set ∈ store.numberSets, set.gridId = grid.id →
    ∀ numbers, set.homeNumbers = some numbers ∨ set.awayNumbers = some numbers →
      Draw.validate numbers = .ok ()
  counted : ∀ period ∈ payout.periods, ∃ home away, store.Counts grid payout period home away

variable {pool : Pool} {gameId : Int}

/-- What counts is a draw. -/
theorem Plays.validate (plays : store.Plays grid pool gameId payout)
    (counts : store.Counts grid payout period home away) :
    Draw.validate home = .ok () ∧ Draw.validate away = .ok () := by
  cases counts with
  | own _ drawn =>
    obtain ⟨set, hmem, hgrid, -, hhome, haway⟩ := drawn
    exact ⟨plays.setDraws set hmem hgrid home (.inl hhome),
      plays.setDraws set hmem hgrid away (.inr haway)⟩
  | shared _ hhome haway =>
    exact ⟨plays.gridDraws home (.inl hhome), plays.gridDraws away (.inr haway)⟩

/-- The winners on the sheet of a grid, as those of the game that it is linked to. -/
theorem Plays.exists_sheet (plays : store.Plays grid pool gameId payout) {row : GameRow}
    (h : store.game? gameId = some row) :
    ∃ sheet, store.scoreSheet? grid.id = some sheet ∧
      sheet.winners = Winners.ofProgress row.progress row.league payout pool.board
        (grid.homeNumbers.getD []) (grid.awayNumbers.getD [])
        (store.numberSets.filter (·.gridId == grid.id)) := by
  simp only [scoreSheet?, plays.stored, plays.pooled, plays.linked, plays.pays, h,
    Option.bind_eq_bind, Option.bind_some, Option.some.injEq, exists_eq_left', ScoreSheet.winners]

/-- A period of a game that was played to its end has the winner that the lists give it. -/
theorem Plays.exists_winner (plays : store.Plays grid pool gameId payout) (valid : store.Valid)
    {row : GameRow} (offered : payout.validateFor row.league = .ok ())
    (final : row.progress.status = .final) {homeTally awayTally : Tally}
    (hhome : row.progress.home = homeTally.points) (haway : row.progress.away = awayTally.points)
    (homeFull : homeTally.IsFull row.league) (awayFull : awayTally.IsFull row.league)
    (paid : period ∈ payout.periods) (counts : store.Counts grid payout period home away) :
    ∃ square,
      Winners.winnerOf? row.progress row.league payout pool.board (grid.homeNumbers.getD [])
        (grid.awayNumbers.getD []) (store.numberSets.filter (·.gridId == grid.id)) period =
          some square ∧
      pool.board.winner? (homeTally.through row.league period)
        (awayTally.through row.league period) home away = some square := by
  have hthird : period = .q3 → row.league.playsHalves = false := by
    rintro rfl
    exact Payout.playsHalves_of_offered offered paid
  obtain ⟨validHome, validAway⟩ := plays.validate counts
  obtain ⟨square, hsquare⟩ := Board.exists_winner validHome validAway pool.board
    (homeFull.through_nonneg period) (awayFull.through_nonneg period)
  refine ⟨square, ?_, hsquare⟩
  rw [Winners.winnerOf?, if_pos (Progress.isComplete_of_final final period), hhome, haway,
    homeFull.points_through hthird, awayFull.points_through hthird,
    valid.numbersFor_of_counts counts]
  exact hsquare

/-- The sheet of a grid whose game was played to its end. -/
theorem Plays.exists_settled_sheet (plays : store.Plays grid pool gameId payout)
    (valid : store.Valid) {row : GameRow} (h : store.game? gameId = some row)
    (offered : payout.validateFor row.league = .ok ()) (final : row.progress.status = .final)
    {homeTally awayTally : Tally} (hhome : row.progress.home = homeTally.points)
    (haway : row.progress.away = awayTally.points) (homeFull : homeTally.IsFull row.league)
    (awayFull : awayTally.IsFull row.league) :
    ∃ sheet, store.scoreSheet? grid.id = some sheet ∧
      sheet.winners.map Prod.fst = payout.periods ∧
      ∀ period ∈ payout.periods, ∀ home away, store.Counts grid payout period home away →
        ∃ square, (period, square) ∈ sheet.winners ∧
          pool.board.winner? (homeTally.through row.league period)
            (awayTally.through row.league period) home away = some square := by
  obtain ⟨sheet, hsheet, hwinners⟩ := plays.exists_sheet h
  refine ⟨sheet, hsheet, ?_⟩
  rw [hwinners]
  constructor
  · refine Winners.map_fst_ofProgress_of_forall fun period paid => ?_
    obtain ⟨home, away, counts⟩ := plays.counted period paid
    obtain ⟨square, hsquare, -⟩ :=
      plays.exists_winner valid offered final hhome haway homeFull awayFull paid counts
    exact ⟨square, hsquare⟩
  · intro period paid home away counts
    obtain ⟨square, hsquare, hboard⟩ :=
      plays.exists_winner valid offered final hhome haway homeFull awayFull paid counts
    exact ⟨square, Winners.mem_ofProgress.2 ⟨paid, hsquare⟩, hboard⟩

end Store

namespace World

/-- **Every period is settled.** After the final report of a game is reconciled, and as long as its
row stands, a grid that plays the game has a winner for exactly the periods that its payout pays on:
the square of the two sums of points, in the lists that count for the period. The tallies are full,
so their sums of 32 bits are the true ones; overtime, whose sum nothing here reads, is taken to fit
as well. -/
theorem final_report_settles_every_period {world : World} (reachable : world.store.Reachable)
    (healthy : world.failing = false) {scope : SyncScope} (live : scope.dryRun = false)
    (feed : Feed) {league : League} {game : Game} (final : game.status = .final)
    {home away : Tally} (hhome : game.home.points = home.points)
    (haway : game.away.points = away.points) (homeFull : home.IsFull league)
    (awayFull : away.IsFull league) :
    ∃ outcome row next,
      Sync.processGame (services feed) scope league game world = (.ok outcome, next) ∧
      next.store.gameByExternalId? game.id = some row ∧
      ∀ later : List Operation,
        (next.after later).store.gameByExternalId? game.id = some row →
        ∀ (grid : Grid) (pool : Pool) (payout : Payout), payout.validateFor league = .ok () →
          (next.after later).store.Plays grid pool row.id payout →
          ∃ sheet, (next.after later).store.scoreSheet? grid.id = some sheet ∧
            sheet.winners.map Prod.fst = payout.periods ∧
            ∀ period ∈ payout.periods, ∀ homeNumbers awayNumbers,
              (next.after later).store.Counts grid payout period homeNumbers awayNumbers →
              ∃ square, (period, square) ∈ sheet.winners ∧
                pool.board.winner? (home.through league period) (away.through league period)
                  homeNumbers awayNumbers = some square := by
  have reported : (GameRecord.ofFeed league game).progress.status = .final := final
  have hnone : ∀ old, world.store.gameByExternalId? game.id = some old →
      old.outranks (.ofFeed league game) = false := fun old _ => by
    simp [GameRow.outranks, reported, GameStatus.isFinal]
  have hrecord := @Store.putGame_record world.store world.now (.ofFeed league game)
  refine ⟨_, _, _, processGame_of_healthy healthy live league game,
    Store.row_of_not_outranks hnone, ?_⟩
  generalize (world.store.putGame world.now (.ofFeed league game)).1 = row at hrecord ⊢
  intro later stands grid pool payout offered plays
  obtain rfl : row.league = league := congrArg GameRecord.league hrecord
  have hprogress : row.progress = game.progress := congrArg GameRecord.progress hrecord
  have valid : ((world.holding _).after later).store.Valid :=
    Store.Valid.after (reachable.valid.reconcile world.now world.mute row.league game) later
  refine plays.exists_settled_sheet valid (valid.game?_of_gameByExternalId? stands) offered ?_ ?_ ?_
    homeFull awayFull
  · rw [hprogress]
    exact final
  · rw [hprogress]
    exact hhome
  · rw [hprogress]
    exact haway

/-- A game of four quarters, on a grid with numbers of its own for the first one. -/
theorem final_report_settles_quarters :
    let home : Tally := { total := 27, periods := [7, 10, 3, 7] }
    let away : Tally := { total := 20, periods := [3, 7, 7, 3] }
    let game : Game :=
      { id := "401", start := .epoch, status := .final
        home := { points := home.points }, away := { points := away.points } }
    let feed : Feed := fun _ _ => { answer := .error .cancelled }
    let scope : SyncScope := { leagues := [.nfl] }
    let world : World := { now := .epoch }
    let pool : Pool := { id := 1, payout := .threeQuarters }
    let grid : Grid :=
      { id := 10, poolId := 1, homeNumbers := some Draw.digits, awayNumbers := some Draw.digits
        gameId := some 1 }
    let first : NumberSet :=
      { gridId := 10, period := .q1, homeNumbers := some [3, 1, 4, 0, 5, 9, 2, 6, 8, 7]
        awayNumbers := some Draw.digits }
    let later : List Operation := [.putPool pool, .putGrid grid, .putNumberSet first]
    ∃ outcome next sheet,
      Sync.processGame (services feed) scope .nfl game world = (.ok outcome, next) ∧
      (next.after later).store.scoreSheet? 10 = some sheet ∧
      sheet.winners.map Prod.fst = [.q1, .q2, .q3, .final] ∧ (.q1, 40) ∈ sheet.winners := by
  intro home away game feed scope world pool grid first later
  have reachable : world.store.Reachable := ⟨.epoch, [], rfl⟩
  have homeFull : home.IsFull .nfl := ⟨by decide, by decide, by decide, by decide⟩
  have awayFull : away.IsFull .nfl := ⟨by decide, by decide, by decide, by decide⟩
  obtain ⟨outcome, row, next, hrun, hrow, settled⟩ :=
    @final_report_settles_every_period world reachable rfl scope rfl feed .nfl game rfl home away
      rfl rfl homeFull awayFull
  obtain rfl : next = (Sync.processGame (services feed) scope .nfl game world).2 := by rw [hrun]
  obtain rfl : row = { GameRecord.ofFeed .nfl game with
      id := 1, created := .epoch, modified := .epoch, synced := .epoch } :=
    Option.some.inj (hrow.symm.trans rfl)
  have plays : ((Sync.processGame (services feed) scope .nfl game world).2.after later).store.Plays
      grid pool 1 .threeQuarters :=
    { stored := rfl
      pooled := rfl
      linked := rfl
      pays := rfl
      gridDraws := by
        rintro numbers (h | h) <;> cases h <;> rfl
      setDraws := by
        intro set hmem _ numbers h
        obtain rfl : set = first := List.mem_singleton.1 hmem
        rcases h with h | h <;> cases h <;> rfl
      counted := fun period _ => Store.exists_counts rfl rfl .threeQuarters period }
  obtain ⟨sheet, hsheet, hkeys, hwinner⟩ := settled later rfl grid pool .threeQuarters rfl plays
  have own : ((Sync.processGame (services feed) scope .nfl game world).2.after later).store.Counts
      grid .threeQuarters .q1 [3, 1, 4, 0, 5, 9, 2, 6, 8, 7] Draw.digits :=
    .own nofun ⟨first, by decide, rfl, rfl, rfl, rfl⟩
  obtain ⟨square, hmem, hsquare⟩ := hwinner .q1 (by decide) _ _ own
  obtain rfl : 40 = square := Option.some.inj hsquare
  exact ⟨outcome, _, sheet, hrun, hsheet, hkeys, hmem⟩

end World

end SquarePool
