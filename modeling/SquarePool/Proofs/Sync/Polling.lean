import SquarePool.Proofs.Session
import SquarePool.Proofs.Store.Merged

/-!
# The same report twice

A feed is asked again and again, and mostly reports what it reported before. Then each game finds
the row that it would write, or a final row that stands above it, and the teams find all that is said
of them in the list as a whole, even where one game takes back what an earlier one said. Main
statement: a list of games that is reconciled a second time changes nothing but the times of the last
writes, announces nothing and changes no grid.
-/

namespace SquarePool

/-- The game without the times of its last write. -/
def GameRow.undated (game : GameRow) : GameRow :=
  { game with modified := .epoch, synced := .epoch }

/-- Nothing came of the game: no row was added, nothing announced, and no grid changed. -/
def Outcome.IsQuiet (outcome : Outcome) : Prop :=
  ∃ gameId, outcome = .keptFinal gameId 0 ∨ outcome = .applied gameId false false 0

/-- What a list of games writes about teams, in turn. -/
def TeamRecord.ofGames (league : League) (games : List Game) : List TeamRecord :=
  games.flatMap fun game =>
    [TeamRecord.ofFeed league game.home.team, TeamRecord.ofFeed league game.away.team]

namespace Store

/-- The store without the times at which teams and games were last written. -/
def undated (store : Store) : Store :=
  { store with
    teams := store.teams.map TeamRow.undated
    games := store.games.map GameRow.undated }

/-- Brings the store up to date with games from the feed. -/
def reconcileAll (store : Store) (now : Instant) (mute : Bool) (league : League)
    (games : List Game) : Store :=
  games.foldl (fun store game => (store.reconcile now mute league game).2) store

/-- The row of a game is what a report makes of it: it has the teams reported, and is either the
whole report or final where the report is not. -/
def Reported (store : Store) (league : League) (game : Game) : Prop :=
  ∃ row, store.gameByExternalId? game.id = some row ∧
    row.teamsDiffer (.ofFeed league game) = false ∧
    (row.outranks (.ofFeed league game) = true ∨ row.toGameRecord = .ofFeed league game)

/-- Nothing but teams changed, and the times at which games were written. -/
structure SameButTeams (before after : Store) : Prop where
  games : after.games.map GameRow.undated = before.games.map GameRow.undated
  rest : after = { before with teams := after.teams, games := after.games }

theorem SameButTeams.trans {a b c : Store} (hab : a.SameButTeams b) (hbc : b.SameButTeams c) :
    a.SameButTeams c where
  games := hbc.games.trans hab.games
  rest := by rw [hbc.rest, hab.rest]

theorem SameButTeams.notices {a b : Store} (same : a.SameButTeams b) : b.notices = a.notices := by
  rw [same.rest]

/-- If the teams are the same, too, then the stores differ in times only. -/
theorem SameButTeams.undated {a b : Store} (same : a.SameButTeams b)
    (hteams : b.teams.map TeamRow.undated = a.teams.map TeamRow.undated) :
    b.undated = a.undated := by
  have hrest : b.undated = { a.undated with
      teams := b.teams.map TeamRow.undated
      games := b.games.map GameRow.undated } := by
    rw [same.rest]
    rfl
  rw [hrest, hteams, same.games]
  rfl

variable {store : Store} {now later : Instant} {mute : Bool} {league : League} {game : Game}
  {games : List Game}

/-! ## One game -/

/-- A game that was reconciled is as reported. -/
theorem reported_reconcile : (store.reconcile now mute league game).2.Reported league game := by
  obtain ⟨row, hrow, sameTeams, written⟩ := (@settled_reconcile store now mute league game).row
  exact ⟨row, hrow, sameTeams,
    written.imp_right fun same => (congrArg GameRow.toGameRecord same.1).symm⟩

/-- Reconciling another game leaves it as reported. -/
theorem Reported.reconcile_of_ne {other : Game} (reported : store.Reported league other)
    (valid : store.Valid) (h : game.id ≠ other.id) :
    (store.reconcile now mute league game).2.Reported league other := by
  obtain ⟨row, hrow, same⟩ := reported
  exact ⟨row, (valid.row_of_ne h).trans hrow, same⟩

/-- A record that is stored already is written and nothing else is done. -/
theorem applyGame_of_unchanged {row : GameRow} {record : GameRecord}
    (h : row.toGameRecord = record) :
    store.applyGame now mute (some row) record =
      (.applied (store.putGame now record).1.id false false 0, (store.putGame now record).2) := by
  simp [applyGame, announceIf, refreshIf, h, putGame_record, GameRecord.scoreDiffers_self,
    GameRecord.teamsDiffer_self]

/-- Of a game that is as reported the teams are written, and the same record again unless the row is
kept. -/
theorem Reported.reconcile_eq (reported : store.Reported league game) (now : Instant)
    (mute : Bool) :
    ∃ row, store.gameByExternalId? game.id = some row ∧
      (store.reconcile now mute league game =
          (.keptFinal row.id 0, store.putTeamsOf now league game) ∨
        row.toGameRecord = .ofFeed league game ∧
          store.reconcile now mute league game =
            let written := (store.putTeamsOf now league game).putGame now (.ofFeed league game)
            (.applied written.1.id false false 0, written.2)) := by
  obtain ⟨row, hrow, sameTeams, written⟩ := reported
  refine ⟨row, hrow, ?_⟩
  cases kept : row.outranks (.ofFeed league game) with
  | true =>
    left
    rw [reconcile_of_outranks hrow kept, keepFinal_of_not_differ sameTeams]
  | false =>
    have hrecord : row.toGameRecord = .ofFeed league game :=
      written.resolve_left (by simp [kept])
    refine .inr ⟨hrecord, ?_⟩
    rw [reconcile_of_not_outranks (not_outranks_of_some hrow kept), hrow,
      applyGame_of_unchanged hrecord]

/-- Nothing comes of a game that is as reported. -/
theorem Reported.quiet (reported : store.Reported league game) :
    (store.reconcile now mute league game).1.IsQuiet ∧
      (store.reconcile now mute league game).2.notices = store.notices := by
  obtain ⟨row, -, h | ⟨-, h⟩⟩ := reported.reconcile_eq now mute
  · rw [h]
    exact ⟨⟨_, .inl rfl⟩, rfl⟩
  · rw [h]
    exact ⟨⟨_, .inr rfl⟩, putGame_notices now _⟩

theorem Reported.sameButTeams_reconcile (reported : store.Reported league game)
    (valid : store.Valid) :
    store.SameButTeams (store.reconcile now mute league game).2 := by
  have teamed : store.SameButTeams (store.putTeamsOf now league game) := ⟨rfl, rfl⟩
  obtain ⟨row, hrow, h | ⟨hrecord, h⟩⟩ := reported.reconcile_eq now mute
  · rw [h]
    exact teamed
  · have hteamed : (store.putTeamsOf now league game).gameByExternalId?
        (GameRecord.ofFeed league game).externalId = some row := hrow
    -- the row that is written says what is stored
    have same : (row.overwrite (.ofFeed league game) now).undated = row.undated := by
      rw [← hrecord]
      rfl
    rw [h]
    refine teamed.trans ⟨?_, ?_⟩
    · exact (valid.putTeamsOf now league game).map_putGame now hteamed GameRow.undated same
    · rw [putGame_of_some now hteamed]

/-! ## All games -/

theorem Valid.reconcileAll (valid : store.Valid) (now : Instant) (mute : Bool) (league : League)
    (games : List Game) : (store.reconcileAll now mute league games).Valid := by
  induction games generalizing store with
  | nil => exact valid
  | cons game rest ih => exact ih (valid.reconcile now mute league game)

theorem putTeams_teams_congr {a b : Store} (h : a.teams = b.teams) (records : List TeamRecord) :
    (a.putTeams now records).teams = (b.putTeams now records).teams := by
  induction records generalizing a b with
  | nil => exact h
  | cons record rest ih => exact ih (putTeam_teams_congr h record)

/-- Of the teams, reconciling games writes what the games say of them. -/
theorem reconcileAll_teams :
    (store.reconcileAll now mute league games).teams =
      (store.putTeams now (TeamRecord.ofGames league games)).teams := by
  induction games generalizing store with
  | nil => rfl
  | cons game rest ih =>
    have hrest := @ih (store.reconcile now mute league game).2
    exact hrest.trans (putTeams_teams_congr reconcile_teams _)

/-- Reconciling other games leaves a game as reported. -/
theorem Reported.reconcileAll_of_not_mem {other : Game} (reported : store.Reported league other)
    (valid : store.Valid) (h : other.id ∉ games.map Game.id) :
    (store.reconcileAll now mute league games).Reported league other := by
  induction games generalizing store with
  | nil => exact reported
  | cons game rest ih =>
    rw [List.map_cons, List.mem_cons, not_or] at h
    exact ih (reported.reconcile_of_ne valid (Ne.symm h.1)) (valid.reconcile now mute league game)
      h.2

/-- **After the first pass** every game is as reported. -/
theorem Valid.reported_reconcileAll (valid : store.Valid) (distinct : (games.map Game.id).Nodup) :
    ∀ game ∈ games, (store.reconcileAll now mute league games).Reported league game := by
  induction games generalizing store with
  | nil => exact fun _ h => nomatch h
  | cons first rest ih =>
    rw [List.map_cons, List.nodup_cons] at distinct
    have validFirst := valid.reconcile now mute league first
    intro game hgame
    rcases List.mem_cons.1 hgame with rfl | hgame
    · exact reported_reconcile.reconcileAll_of_not_mem validFirst distinct.1
    · exact ih validFirst distinct.2 game hgame

/-- **In a second pass** nothing comes of any game, be it the first of the list or one further on. -/
theorem Valid.quiet_reconcileAll (valid : store.Valid) (now : Instant) (mute : Bool)
    (distinct : (games.map Game.id).Nodup)
    (reported : ∀ game ∈ games, store.Reported league game) :
    store.SameButTeams (store.reconcileAll now mute league games) ∧
      ∀ before game after, games = before ++ game :: after →
        ((store.reconcileAll now mute league before).reconcile now mute league game).1.IsQuiet := by
  induction games generalizing store with
  | nil => exact ⟨⟨rfl, rfl⟩, fun before game after h => by simp at h⟩
  | cons first rest ih =>
    rw [List.map_cons, List.nodup_cons] at distinct
    have hfirst := reported first (by simp)
    have hrest := ih (valid.reconcile now mute league first) distinct.2 fun game hgame =>
      have hne : first.id ≠ game.id := fun e => distinct.1 (e ▸ List.mem_map_of_mem hgame)
      (reported game (by simp [hgame])).reconcile_of_ne valid hne
    refine ⟨(hfirst.sameButTeams_reconcile valid).trans hrest.1, ?_⟩
    intro before game after h
    cases before with
    | nil =>
      obtain ⟨rfl, -⟩ := List.cons.inj h
      exact hfirst.quiet.1
    | cons head tail =>
      obtain ⟨rfl, htail⟩ := List.cons.inj h
      exact hrest.2 tail game after htail

/-- **Games reconciled again**, even later, change at most the times of the last writes. -/
theorem Valid.undated_reconcileAll_reconcileAll {mute' : Bool} (valid : store.Valid)
    (distinct : (games.map Game.id).Nodup) :
    ((store.reconcileAll now mute league games).reconcileAll later mute' league games).undated =
      (store.reconcileAll now mute league games).undated := by
  have validFirst := valid.reconcileAll now mute league games
  have same := validFirst.quiet_reconcileAll later mute' distinct
    (valid.reported_reconcileAll distinct)
  refine same.1.undated ?_
  rw [reconcileAll_teams, putTeams_teams_congr reconcileAll_teams, reconcileAll_teams]
  exact valid.undated_putTeams_putTeams

end Store

namespace World

variable {world : World} {feed : Feed} {scope : SyncScope} {league : League}

/-- A game that is reconciled twice is not announced the second time, whether the store answers or
not. -/
theorem notices_processGame_processGame (world : World) (feed : Feed) (scope : SyncScope)
    (league : League) (game : Game) (later : Instant) (mute : Bool) :
    let process := Sync.processGame (services feed) scope league game
    (process { (process world).2 with now := later, mute }).2.store.notices =
      (process world).2.store.notices := by
  intro process
  cases dry : scope.dryRun with
  | true =>
    show (Sync.processGame (services feed) scope league game _).2.store.notices = _
    rw [processGame_of_dryRun dry]
  | false =>
    cases failing : world.failing with
    | true =>
      have hfirst : (process world).2 = world := processGame_of_failing failing league game
      have hsecond := @processGame_of_failing { world with now := later, mute } feed scope failing
        league game
      have hnotices := congrArg (fun w : World => w.store.notices) hsecond
      rw [hfirst]
      exact hnotices
    | false =>
      have hfirst : process world = _ := processGame_of_healthy failing dry league game
      have healthy : (process world).2.failing = false := by
        rw [hfirst]
        exact failing
      have hsecond := @processGame_of_healthy { (process world).2 with now := later, mute } feed
        scope healthy dry league game
      have hreported : (process world).2.store.Reported league game := by
        rw [hfirst]
        exact Store.reported_reconcile
      have hnotices := congrArg (fun r => r.2.store.notices) hsecond
      exact hnotices.trans hreported.quiet.2

/-- **Reconciling games** in a store that answers: all of them succeed, each in the store that the
one before left. -/
theorem processGames_of_healthy (healthy : world.failing = false) (running : world.stopped = false)
    (live : scope.dryRun = false) (league : League) (games : List Game) :
    Sync.processGames (services feed) scope league games world =
      (.ok games.length,
        world.holding (world.store.reconcileAll world.now world.mute league games)) := by
  induction games generalizing world with
  | nil => rfl
  | cons game rest ih =>
    have hcheck : Sync.checkRunning (services feed) world = (.ok (), world) := by
      have hstopped : (services feed).isStopped world = false := running
      simp [Sync.checkRunning, hstopped]
    have hgame : Sync.processGame (services feed) scope league game world = _ :=
      processGame_of_healthy healthy live league game
    have hfirst := Sync.recover_of_ok hgame
    have hrest := @ih (world.holding (world.store.reconcile world.now world.mute league game).2)
      healthy running
    show Sync.countSucceeding _ _ (game :: rest) world = _
    unfold Sync.countSucceeding
    rw [Action.bind_of_ok hcheck, Action.bind_of_ok hfirst]
    exact Action.bind_of_ok hrest _

/-- **Polling is idempotent.** Games with identifiers of their own are reconciled, and then the same
list once more, at any time and whether announcements work or not. Both passes count every game. The
second leaves every table as it was, up to the times at which teams and games were last written; it
announces nothing, adds no game, and changes no grid for any game of the list. -/
theorem second_poll_changes_nothing (healthy : world.failing = false)
    (running : world.stopped = false) (reachable : world.store.Reachable)
    (live : scope.dryRun = false) (league : League) {games : List Game}
    (distinct : (games.map Game.id).Nodup) (later : Instant) (mute : Bool) :
    let poll := fun games => Sync.processGames (services feed) scope league games
    ∃ first second : World,
      let again : World := { first with now := later, mute }
      poll games world = (.ok games.length, first) ∧
      poll games again = (.ok games.length, second) ∧
      second.store.undated = first.store.undated ∧
      second.store.notices = first.store.notices ∧
      ∀ before game after, games = before ++ game :: after →
        ∃ midway outcome, poll before again = (.ok before.length, midway) ∧
          (Sync.processGame (services feed) scope league game midway).1 = .ok outcome ∧
          outcome.IsQuiet := by
  intro poll
  have valid := reachable.valid
  have validFirst := valid.reconcileAll world.now world.mute league games
  -- the world between the two passes, and the world with part of the second behind it
  let first := world.holding (world.store.reconcileAll world.now world.mute league games)
  let again : World := { first with now := later, mute }
  let midway := fun games' => again.holding (first.store.reconcileAll later mute league games')
  have hagain : ∀ games', poll games' again = (.ok games'.length, midway games') :=
    fun games' => @processGames_of_healthy again feed scope healthy running live league games'
  obtain ⟨same, quiet⟩ := validFirst.quiet_reconcileAll later mute distinct
    (valid.reported_reconcileAll distinct)
  refine ⟨first, _, processGames_of_healthy healthy running live league games, hagain games,
    valid.undated_reconcileAll_reconcileAll distinct, ?notices, ?outcomes⟩
  case notices => exact same.notices
  case outcomes =>
    intro before game after h
    refine ⟨_, _, hagain before, ?_, quiet before game after h⟩
    have hgame := @processGame_of_healthy (midway before) feed scope healthy live league game
    exact congrArg Prod.fst hgame

/-- Two games share a team, of which the second says less than the first; the first had ended and
is taken back, with its teams swapped. -/
theorem second_poll_of_shared_team :
    let bears : Team := { id := "3", color := some "0b1c3a" }
    let jets : Team := { id := "20", color := some "115740" }
    let ended : Game :=
      { id := "401", start := .epoch, status := .final, home.team := bears, away.team := jets }
    let playing : Game :=
      { id := "401", start := .epoch, status := .inProgress, home.team := jets, away.team := bears }
    let next : Game :=
      { id := "402", start := .epoch, home.team := { id := "20" }, away.team := { id := "4" } }
    let feed : Feed := fun _ _ => { answer := .error .cancelled }
    let scope : SyncScope := { leagues := [.nfl] }
    let world : World := ({ now := .epoch } : World).after [.process feed scope .nfl ended]
    let poll := Sync.processGames (services feed) scope .nfl [playing, next]
    ([playing, next].map Game.id).Nodup ∧
    ∃ first second : World, poll world = (.ok 2, first) ∧
      poll { first with now := Instant.epoch.addSeconds 60, mute := false } = (.ok 2, second) ∧
      second.store.undated = first.store.undated ∧ second.store.notices = first.store.notices := by
  intro bears jets ended playing next feed scope world poll
  have distinct : ([playing, next].map Game.id).Nodup := by decide
  have reachable : world.store.Reachable := ⟨.epoch, [.process feed scope .nfl ended], rfl⟩
  obtain ⟨first, second, hfirst, hsecond, same, notices, -⟩ :=
    @second_poll_changes_nothing world feed scope rfl rfl reachable rfl .nfl _ distinct
      (Instant.epoch.addSeconds 60) false
  exact ⟨distinct, first, second, hfirst, hsecond, same, notices⟩

end World

end SquarePool
