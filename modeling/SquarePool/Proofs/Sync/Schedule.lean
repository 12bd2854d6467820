import SquarePool.Proofs.Sync.Answers
import SquarePool.Proofs.Sync.DryRun
import SquarePool.Proofs.Sync.Polling

/-!
# Loading a schedule

A schedule is read by weeks, team by team or by a span of days, and what is read is reconciled game
by game. Main statement: from a calm world on, a run of schedules asks for each part of a schedule
once and in order whatever is refused, and from there on it does to the store what reconciling the
games in the answers one after the other does, and adds one log for each league. Every game in the
answers has one row then, and every other row was there before.
-/

namespace SquarePool

/-! ## What is asked for -/

namespace Question

/-- The scoreboards of the weeks of a part of a season, from the first on. -/
def weeks (league : League) (year : Int) (part : SeasonType) (count : Nat) : List Question :=
  (List.range count).map fun i : Nat => .scoreboard league (.forWeek year ((i : Int) + 1) part)

/-- What is asked for to load the schedule of a season: football by weeks, the postseason last,
men's college basketball by the stored teams, and other leagues from a day on. -/
def forSchedule (league : League) (season : SeasonWindow) (first : Date) (teams : List TeamRow) :
    List Question :=
  match league with
  | .nfl => weeks .nfl season.year .regular 18 ++ weeks .nfl season.year .postseason 5
  | .ncaaf => weeks .ncaaf season.year .regular 15 ++ weeks .ncaaf season.year .postseason 3
  | .ncaab => teams.map fun team => .schedule .ncaab team.id
  | .nba | .wnba => [.dateRange league first season.finish.date]

end Question

/-! ## The first of each identifier -/

namespace Game

/-- Of the games with one identifier the first is kept, in the order in which identifiers first
appear. -/
structure KeepsFirst (games kept : List Game) : Prop where
  ids : kept.map Game.id = (games.map Game.id).eraseDups
  first : ∀ game ∈ kept, games.find? (·.id == game.id) = some game

theorem ids_unseen (seen : List String) (games : List Game) :
    (unseen seen games).map Game.id =
      ((games.map Game.id).filter fun id => decide (id ∉ seen)).eraseDups := by
  induction games generalizing seen with
  | nil => rfl
  | cons game rest ih =>
    by_cases h : game.id ∈ seen
    · rw [unseen, if_pos h, ih, List.map_cons, List.filter_cons_of_neg (by simp [h])]
    · rw [unseen, if_neg h, List.map_cons, ih, List.map_cons, List.filter_cons_of_pos (by simp [h]),
        List.eraseDups_cons, List.filter_filter]
      congr 3
      funext id
      rw [Bool.eq_iff_iff]
      simp

theorem find?_of_mem_unseen {seen : List String} {games : List Game} {game : Game}
    (h : game ∈ unseen seen games) : games.find? (·.id == game.id) = some game := by
  induction games generalizing seen with
  | nil => exact nomatch h
  | cons head rest ih =>
    -- a game that is kept further on has another identifier than those seen before it
    have other : ∀ {seen' : List String}, head.id ∈ seen' → game ∈ unseen seen' rest →
        (head.id == game.id) = false := by
      intro seen' hseen hrest
      have hid := (mem_ids_unseen.1 (List.mem_map_of_mem hrest)).2
      exact beq_false_of_ne fun e => hid (e ▸ hseen)
    by_cases hhead : head.id ∈ seen
    · rw [unseen, if_pos hhead] at h
      rw [List.find?_cons_of_neg (by simp [other hhead h])]
      exact ih h
    · rw [unseen, if_neg hhead] at h
      rcases List.mem_cons.1 h with rfl | hrest
      · exact List.find?_cons_of_pos (by simp)
      · rw [List.find?_cons_of_neg (by simp [other (List.mem_cons_self ..) hrest])]
        exact ih hrest

theorem keepsFirst_firstOfEachId (games : List Game) : KeepsFirst games (firstOfEachId games) where
  ids := by simp [firstOfEachId, ids_unseen]
  first _ h := find?_of_mem_unseen h

/-- The games on a schedule, of those that are given for it: the first of each identifier for men's
college basketball, where a game comes once with each of its teams, and otherwise all of them. -/
def Scheduled (league : League) (given games : List Game) : Prop :=
  match league with
  | .ncaab => KeepsFirst given games
  | _ => games = given

end Game

/-! ## Games reconciled in turn -/

namespace Store

variable {store : Store} {now : Instant} {mute : Bool} {league : League} {game : Game}
  {games : List Game}

/-! ### Logs apart -/

theorem putGame_withLogs (record : GameRecord) (logs : List SyncLog) :
    ({ store with logs } : Store).putGame now record =
      ((store.putGame now record).1, { (store.putGame now record).2 with logs }) := by
  have hfind : ({ store with logs } : Store).gameByExternalId? record.externalId =
      store.gameByExternalId? record.externalId := rfl
  unfold putGame
  rw [hfind]
  cases store.gameByExternalId? record.externalId <;> rfl

theorem refreshGrids_withLogs (gameId : Int) (logs : List SyncLog) :
    ({ store with logs } : Store).refreshGrids gameId =
      ((store.refreshGrids gameId).1, { (store.refreshGrids gameId).2 with logs }) := by
  have hteams : (({ store with logs } : Store).game? gameId).bind
      ({ store with logs } : Store).teamsOf? = (store.game? gameId).bind store.teamsOf? := rfl
  unfold refreshGrids
  rw [hteams]
  cases (store.game? gameId).bind store.teamsOf? <;> rfl

theorem announceIf_withLogs (changed : Bool) (gameId : Int) (logs : List SyncLog) :
    ({ store with logs } : Store).announceIf changed gameId =
      { store.announceIf changed gameId with logs } := by
  cases changed <;> rfl

theorem refreshIf_withLogs (outdated : Bool) (gameId : Int) (logs : List SyncLog) :
    ({ store with logs } : Store).refreshIf outdated gameId =
      ((store.refreshIf outdated gameId).1, { (store.refreshIf outdated gameId).2 with logs }) := by
  cases outdated with
  | true => exact refreshGrids_withLogs gameId logs
  | false => rfl

theorem keepFinal_withLogs (old : GameRow) (record : GameRecord) (logs : List SyncLog) :
    ({ store with logs } : Store).keepFinal now old record =
      ((store.keepFinal now old record).1, { (store.keepFinal now old record).2 with logs }) := by
  unfold keepFinal
  cases old.teamsDiffer record with
  | true => simp only [putGame_withLogs, refreshGrids_withLogs, if_true]
  | false => rfl

theorem applyGame_withLogs (old : Option GameRow) (record : GameRecord) (logs : List SyncLog) :
    ({ store with logs } : Store).applyGame now mute old record =
      ((store.applyGame now mute old record).1,
        { (store.applyGame now mute old record).2 with logs }) := by
  simp only [applyGame, putGame_withLogs, announceIf_withLogs, refreshIf_withLogs]

/-- Reconciling a game neither looks at logs nor changes them. -/
theorem reconcile_withLogs (logs : List SyncLog) :
    ({ store with logs } : Store).reconcile now mute league game =
      ((store.reconcile now mute league game).1,
        { (store.reconcile now mute league game).2 with logs }) := by
  have hteams : ({ store with logs } : Store).putTeamsOf now league game =
      { store.putTeamsOf now league game with logs } := rfl
  rcases outranks_or_not store league game with ⟨old, hold, kept⟩ | applied
  · have hkept := @reconcile_of_outranks { store with logs } now mute league game old hold kept
    rw [hkept, reconcile_of_outranks hold kept, hteams, keepFinal_withLogs]
  · have happlied := @reconcile_of_not_outranks { store with logs } now mute league game applied
    rw [happlied, reconcile_of_not_outranks applied, hteams]
    exact applyGame_withLogs _ _ logs

theorem reconcileAll_withLogs (logs : List SyncLog) :
    ({ store with logs } : Store).reconcileAll now mute league games =
      { store.reconcileAll now mute league games with logs } := by
  induction games generalizing store with
  | nil => rfl
  | cons game rest ih =>
    show Store.reconcileAll (Store.reconcile _ _ _ _ _).2 _ _ _ _ = _
    rw [reconcile_withLogs]
    exact ih

/-! ### The table of games -/

/-- The row of a game that is not reconciled stays as it is. -/
theorem Valid.row_of_not_mem (valid : store.Valid) {externalId : String}
    (h : externalId ∉ games.map Game.id) :
    (store.reconcileAll now mute league games).gameByExternalId? externalId =
      store.gameByExternalId? externalId := by
  induction games generalizing store with
  | nil => rfl
  | cons game rest ih =>
    rw [List.map_cons, List.mem_cons, not_or] at h
    exact (ih (valid.reconcile now mute league game) h.2).trans (valid.row_of_ne (Ne.symm h.1))

/-- Games that are reconciled have a row, also where another game is reconciled later. -/
theorem Valid.isSome_row_of_mem (valid : store.Valid) {externalId : String}
    (h : externalId ∈ games.map Game.id) :
    ((store.reconcileAll now mute league games).gameByExternalId? externalId).isSome := by
  induction games generalizing store with
  | nil => exact nomatch h
  | cons game rest ih =>
    have validFirst := valid.reconcile now mute league game
    by_cases hrest : externalId ∈ rest.map Game.id
    · exact ih validFirst hrest
    · obtain rfl : externalId = game.id := (List.mem_cons.1 h).resolve_right hrest
      obtain ⟨row, hrow, -⟩ := @reported_reconcile store now mute league game
      exact Option.isSome_of_eq_some ((validFirst.row_of_not_mem hrest).trans hrow)

/-- A row is in the table exactly if its identifier finds it. -/
theorem Valid.mem_games_iff (valid : store.Valid) {row : GameRow} :
    row ∈ store.games ↔ store.gameByExternalId? row.externalId = some row :=
  ⟨fun h => Table.find?_of_mem valid.externalIds h, Table.mem_of_find?⟩

/-- **What reconciling games leaves in their table**: one row for each of the games, and of the
others those that were there. -/
theorem Valid.games_reconcileAll (valid : store.Valid) :
    (∀ game ∈ games, ((store.reconcileAll now mute league games).games.map
      (·.externalId)).count game.id = 1) ∧
      ∀ row ∈ (store.reconcileAll now mute league games).games,
        row.externalId ∉ games.map Game.id → row ∈ store.games := by
  have validLast := valid.reconcileAll now mute league games
  constructor
  · intro game hgame
    refine List.count_eq_one_of_mem validLast.externalIds (Table.isSome_find?_iff.1 ?_)
    exact valid.isSome_row_of_mem (List.mem_map_of_mem hgame)
  · intro row hrow hother
    rw [valid.mem_games_iff, ← valid.row_of_not_mem hother]
    exact validLast.mem_games_iff.1 hrow

end Store

/-! ## The schedule of a league -/

/-- What is asked for once the season of a league was asked for, and the games that come of it. -/
def Feed.Schedules (feed : Feed) (a : World) (league : League) (qs : List Question)
    (games : List Game) : Prop :=
  match (feed a.asked (.season league)).answer with
  | .error _ => qs = [] ∧ games = []
  | .ok season =>
    qs = Question.forSchedule league season (a.firstDay feed league season)
        (a.store.teamsOf league) ∧
      Game.Scheduled league (feed.games (a.asked ++ [.season league]) qs) games

namespace World

variable {feed : Feed} {scope : SyncScope} {league : League} {games : List Game} {a b : World}

/-- The world once some games were processed in turn. -/
def processing (world : World) (feed : Feed) (scope : SyncScope) (league : League)
    (games : List Game) : World :=
  games.foldl (fun world game => (Sync.processGame (services feed) scope league game world).2) world

theorem processing_of_healthy (healthy : a.failing = false) (live : scope.dryRun = false) :
    a.processing feed scope league games =
      a.holding (a.store.reconcileAll a.now a.mute league games) := by
  induction games generalizing a with
  | nil => rfl
  | cons game rest ih =>
    have hgame := @processGame_of_healthy a feed scope healthy live league game
    show processing (Sync.processGame (services feed) scope league game a).2 _ _ _ _ = _
    rw [hgame]
    exact @ih (a.holding (a.store.reconcile a.now a.mute league game).2) healthy

theorem asking_withLogs (logs : List SyncLog) (qs : List Question) :
    (a.withLogs logs).asking feed qs = (a.asking feed qs).withLogs logs := by
  rw [withLogs, asking_holding, withLogs, store_asking]

/-- Processing games neither looks at logs nor changes them. -/
theorem processing_withLogs (healthy : a.failing = false) (live : scope.dryRun = false)
    (logs : List SyncLog) :
    (a.withLogs logs).processing feed scope league games =
      (a.processing feed scope league games).withLogs logs := by
  have hprocessing := @processing_of_healthy feed scope league games (a.withLogs logs) healthy live
  rw [hprocessing, processing_of_healthy healthy live]
  exact congrArg a.holding (Store.reconcileAll_withLogs logs)

theorem asked_processing (healthy : a.failing = false) (live : scope.dryRun = false) :
    (a.processing feed scope league games).asked = a.asked := by
  rw [processing_of_healthy healthy live]
  rfl

/-- The schedule of a league was loaded: the questions were asked in turn, each once, and the games
were processed in turn and counted. Each of them has one row, all other rows were there before, and
one log was added. -/
structure Loaded (feed : Feed) (scope : SyncScope) (a : World) (league : League)
    (qs : List Question) (games : List Game) (entry : LeagueReport) (b : World) : Prop where
  asked : b.asked = a.asked ++ qs
  about : entry.league = league
  fetched : entry.fetched = games.length
  processed : entry.processed = games.length
  turned : ∃ log, b = ((a.asking feed qs).processing feed scope league games).withLogs
    (a.store.logs ++ [log])
  listed : ∀ game ∈ games, (b.store.games.map (·.externalId)).count game.id = 1
  others : ∀ row ∈ b.store.games, row.externalId ∉ games.map Game.id → row ∈ a.store.games

/-- A league had its turn, from one world to the next, and its schedule was loaded. -/
def LeagueLoaded (feed : Feed) (scope : SyncScope) (a : World) (league : League)
    (entry : LeagueReport) (b : World) : Prop :=
  ∃ qs games, feed.Schedules a league qs games ∧
    Loaded feed scope a league (.season league :: qs) games entry b

section Quiet

variable (spares : feed.SparesStore) (never : feed.NeverStops) (calm : a.Calm)

include spares never calm

theorem gamesByWeek_of_calm (season : Int) (regular post : Nat) :
    let qs := Question.weeks league season .regular regular ++
      Question.weeks league season .postseason post
    Sync.gamesByWeek (services feed) league season regular post a =
      (.ok (feed.games a.asked qs), a.asking feed qs) := by
  intro qs
  have hqs : qs = (Sync.weeksOf regular post).map fun part =>
      .scoreboard league (.forWeek season part.2 part.1) := by
    rw [Sync.weeksOf, List.map_append, List.map_map, List.map_map]
    rfl
  rw [hqs]
  exact gather_of_calm spares never (fun part : SeasonType × Int =>
    fetches_scoreboard league (.forWeek season part.2 part.1)) (Sync.weeksOf regular post) calm

theorem gamesByTeam_of_calm :
    let qs := (a.store.teamsOf league).map fun team => Question.schedule league team.id
    ∃ result, Sync.gamesByTeam (services feed) league a = (result, a.asking feed qs) ∧
      result.toOption.getD [] = Game.firstOfEachId (feed.games a.asked qs) := by
  intro qs
  have hteams : Sync.store (services feed) (.teams league) a =
      (.ok (a.store.teamsOf league), a) :=
    does_store calm.healthy (.teams league) a.store
  have hgames := gather_of_calm spares never
    (fun team : TeamRow => fetches_schedule league team.id) (a.store.teamsOf league) calm
  rw [Sync.gamesByTeam, Action.bind_of_ok hteams]
  cases hrows : a.store.teamsOf league with
  | nil =>
    -- without a stored team nothing is asked for, and the schedule is refused
    have hqs : qs = [] := by simp only [qs, hrows, List.map_nil]
    rw [hqs]
    exact ⟨_, rfl, rfl⟩
  | cons team rest =>
    have hqs : qs = (team :: rest).map fun team => .schedule league team.id := by
      simp only [qs, hrows]
    rw [hrows, ← hqs] at hgames
    refine ⟨.ok (Game.firstOfEachId (feed.games a.asked qs)), ?_, rfl⟩
    dsimp only
    rw [Action.bind_of_ok hgames]
    rfl

/-- Once the season is known, the schedule is read in the way of the league. -/
theorem readSeason_of_calm (season : SeasonWindow) :
    let qs := Question.forSchedule league season
      (if season.inSeason then a.now.date else season.start.date) (a.store.teamsOf league)
    ∃ result, (match league.scheduleWeeks with
        | some (regular, post) => Sync.gamesByWeek (services feed) league season.year regular post
        | none =>
          if league = .ncaab then Sync.gamesByTeam (services feed) league
          else Sync.gamesByDay (services feed) league season : Sync.Step World (List Game)) a =
        (result, a.asking feed qs) ∧
      Game.Scheduled league (feed.games a.asked qs) (result.toOption.getD []) := by
  intro qs
  have hweeks := @gamesByWeek_of_calm feed league a spares never calm season.year
  have hdays : ∀ first last, Sync.ask (services feed) (.dateRange league first last) a = _ :=
    fun first last => fetches_dateRange league first last a
  cases league with
  | nfl => exact ⟨_, hweeks 18 5, rfl⟩
  | ncaaf => exact ⟨_, hweeks 15 3, rfl⟩
  | ncaab =>
    obtain ⟨result, hteams, hgames⟩ := gamesByTeam_of_calm spares never calm
    refine ⟨result, hteams, ?_⟩
    rw [hgames]
    exact Game.keepsFirst_firstOfEachId _
  | nba => exact ⟨_, hdays _ _, feed.games_singleton a.asked _⟩
  | wnba => exact ⟨_, hdays _ _, feed.games_singleton a.asked _⟩

theorem scheduleOf_of_calm :
    ∃ qs result, Sync.scheduleOf (services feed) league a =
        (result, a.asking feed (.season league :: qs)) ∧
      feed.Schedules a league qs (result.toOption.getD []) := by
  unfold Sync.scheduleOf Feed.Schedules
  cases hseason : (feed a.asked (.season league)).answer with
  | error e => exact ⟨[], _, Action.bind_of_error (ask_of_error hseason) _, rfl, rfl⟩
  | ok season =>
    obtain ⟨result, hread, hgames⟩ := @readSeason_of_calm feed league _ spares never
      (calm.asking spares never [.season league]) season
    exact ⟨_, result, (Action.bind_of_ok (ask_of_ok hseason) _).trans hread, rfl, hgames⟩

variable (live : scope.dryRun = false)

include live

/-- What is done for a league while its log is open. -/
theorem loadSchedule_of_calm {entry : LeagueReport}
    (h : Sync.loadSchedule (services feed) scope league a = (.ok entry, b)) :
    ∃ qs games, feed.Schedules a league qs games ∧
      b = (a.asking feed (.season league :: qs)).processing feed scope league games ∧
      entry.league = league ∧ entry.fetched = games.length ∧ entry.processed = games.length := by
  obtain ⟨qs, result, hread, hgames⟩ := @scheduleOf_of_calm feed league a spares never calm
  rcases Sync.fetchAndProcess_eq_ok_iff.1 h with
    ⟨e, hfetch, -, rfl⟩ | ⟨games, processed, t, hfetch, hprocess, rfl⟩
  · -- nothing could be read, and so nothing is processed
    cases hread.symm.trans hfetch
    exact ⟨qs, [], hgames, rfl, rfl, rfl, rfl⟩
  · cases hread.symm.trans hfetch
    have calm' := calm.asking spares never (.season league :: qs)
    have hall := @processGames_of_healthy _ feed scope calm'.healthy calm'.running live league games
    cases hall.symm.trans hprocess
    exact ⟨qs, games, hgames, (processing_of_healthy calm'.healthy live).symm, rfl, rfl, rfl⟩

/-- **The turn of a league** loads its schedule. -/
theorem leagueLoaded (valid : a.store.Valid) {entry : LeagueReport}
    (h : Sync.leagueTurn (services feed) scope .schedule league a = (.ok entry, b)) :
    (b.Calm ∧ b.store.Valid) ∧ LeagueLoaded feed scope a league entry b := by
  obtain ⟨calmNext, -⟩ := leagueContained spares never (by decide) calm h
  obtain ⟨sound, now, hlogs⟩ :=
    logs_of_leagueTurn_eq_ok spares live ⟨calm.healthy, valid⟩ (by decide) h
  obtain ⟨-, logs, logs', c, hwork, hb⟩ := leagueTurn_eq_ok h
  obtain ⟨qs, games, hschedule, rfl, hleague, hfetched, hprocessed⟩ :=
    loadSchedule_of_calm (a := a.withLogs logs) spares never ⟨calm.healthy, calm.running⟩ live hwork
  -- the world in which everything was asked for and nothing was processed
  let t := a.asking feed (.season league :: qs)
  have healthy : t.failing = false := (calm.asking spares never _).healthy
  have hturned : b = (t.processing feed scope league games).withLogs b.store.logs := by
    rw [hb, asking_withLogs, processing_withLogs healthy live]
    rfl
  have hgames : b.store.games = (a.store.reconcileAll t.now t.mute league games).games := by
    rw [hturned, processing_of_healthy healthy live, store_asking]
    rfl
  obtain ⟨listed, others⟩ := @Store.Valid.games_reconcileAll _ t.now t.mute league games valid
  rw [← hgames] at listed others
  refine ⟨⟨calmNext, sound.valid⟩, qs, games, hschedule, ?asked, hleague, hfetched, hprocessed,
    ⟨_, hlogs ▸ hturned⟩, listed, others⟩
  case asked =>
    rw [hturned]
    exact (asked_processing healthy live).trans (asked_asking _)

end Quiet

/-- **A schedule is loaded as it was fetched.** On a store that answers and with nothing that stops
the run, a run of schedules has an entry for each league in the order of the scope, each of which
had its turn where the one before left. Unless the season is refused, what the league's schedule is
made of is asked for in order and each part once, whatever is refused; the games given are processed
in turn, all of them are counted, and each has one row from then on, while every other row was there
before. The clock moves only where a reply of the feed sets it, so the games of a league are written
at one time. -/
theorem schedules_load_what_they_fetch {world : World} (healthy : world.failing = false)
    (running : world.stopped = false) (valid : world.store.Valid) (spares : feed.SparesStore)
    (never : feed.NeverStops) (live : scope.dryRun = false) :
    ∃ leagues next, Sync.syncSchedule (services feed) scope world =
        (.ok { mode := .schedule, leagues }, next) ∧
      Action.Chain (LeagueLoaded feed scope) world scope.leagues leagues next := by
  have calm : world.Calm := ⟨healthy, running⟩
  have hstays := (@staysCalm_relatesAll feed scope spares never).syncMode .schedule
  have hfails : Sync.FailsByStop (Sync.syncMode (services feed) scope .schedule) := by
    rw [Sync.syncMode_eq (by decide)]
    exact .bind (.mapM (fun _ => .leagueTurn .schedule _) _) fun _ => .pure _
  obtain ⟨report, next, hrun⟩ := hstays.succeeds hfails calm
  have hturns := hrun
  rw [Sync.syncMode_eq (by decide)] at hturns
  obtain ⟨leagues, t, hleagues, hreport⟩ := Action.bind_eq_ok_iff.1 hturns
  cases hreport
  refine ⟨leagues, next, hrun, ?_⟩
  exact ((Action.mapM_eq_ok_iff.1 hleagues).imp_of (I := fun w => w.Calm ∧ w.store.Valid)
    ⟨calm, valid⟩ fun _ _ _ _ ⟨calm, valid⟩ h =>
      leagueLoaded spares never calm live valid h).2

/-- One league is given the scoreboard of every first week and no other; a second one is given two
copies of a game, of which the first counts; a third is refused its days, and a fourth is given
them. -/
theorem four_schedules_are_loaded :
    let season : SeasonWindow :=
      { year := 1970, start := .epoch, finish := .epoch, typeName := "Regular", inSeason := true }
    let game : Game :=
      { id := "401", start := .epoch, home.team.id := "1", away.team.id := "1" }
    let feed : Feed := fun _ q => {
      answer := match q with
        | .season _ => .ok season
        | .scoreboard _ query => if query.week = some 1 then .ok [game] else .error .network
        | .schedule .. => .ok [{ game with id := "402", venue := some "Soldier Field" },
            { game with id := "403" }, { game with id := "402" }]
        | .dateRange league _ _ => if league = .nba then .ok [game] else .error .network
        | _ => .error .network }
    let scope : SyncScope := { leagues := [.nfl, .ncaab, .wnba, .nba] }
    let world : World :=
      ({ now := .epoch } : World).after [.process feed scope .ncaab { game with id := "400" }]
    ∃ leagues next,
      Sync.syncSchedule (services feed) scope world =
        (.ok { mode := .schedule, leagues }, next) ∧
      Action.Chain (LeagueLoaded feed scope) world scope.leagues leagues next ∧
      leagues.map LeagueReport.fetched = [2, 2, 0, 1] ∧
      next.store.games.map (fun row => (row.externalId, row.venue)) =
        [("400", none), ("401", none), ("402", some "Soldier Field"), ("403", none)] := by
  intro season game feed scope world
  have spares : feed.SparesStore := fun _ _ => nofun
  have never : feed.NeverStops := by
    intro before q
    refine ⟨rfl, ?_⟩
    cases q with
    | scoreboard league query =>
      show (if query.week = some 1 then _ else _) ≠ _
      split <;> exact nofun
    | dateRange league first last => cases league <;> exact nofun
    | _ => exact nofun
  have valid : world.store.Valid := Store.Reachable.valid ⟨.epoch, _, rfl⟩
  obtain ⟨leagues, next, hrun, hchain⟩ :=
    @schedules_load_what_they_fetch feed scope world rfl rfl valid spares never rfl
  have result : let r := Sync.syncSchedule (services feed) scope world
      r.1.toOption.map (fun report => report.leagues.map LeagueReport.fetched) =
          some [2, 2, 0, 1] ∧
        r.2.store.games.map (fun row => (row.externalId, row.venue)) =
          [("400", none), ("401", none), ("402", some "Soldier Field"), ("403", none)] := by
    subst world scope feed season game
    decide +kernel
  rw [hrun] at result
  exact ⟨leagues, next, hrun, hchain, Option.some.inj result.1, result.2⟩

end World

end SquarePool
