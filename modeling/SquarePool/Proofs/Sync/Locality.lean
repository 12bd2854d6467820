import SquarePool.Proofs.Sync.Polling

/-!
# What a game reaches

Once the teams of a game are written, what is left of reconciling it is an edit: one row, the grids
that follow it, and at most one announcement. The edit is known beforehand from the row that is
stored and from the teams. Main statements: reconciling a game is carrying out its edit, and of each
table it changes only what belongs to the game.
-/

namespace SquarePool

/-- The identifiers of the two teams of a game, home first. -/
def Game.teamIds (game : Game) : List String := [game.home.team.id, game.away.team.id]

/-- The keys of the two teams of a game of a league. -/
def Game.teamKeys (game : Game) (league : League) : List (String × League) :=
  game.teamIds.map fun id => (id, league)

/-- The report was written, and not held against a final game that stays. -/
def Outcome.isApplied : Outcome → Bool
  | .applied .. => true
  | .skipped | .keptFinal .. => false

/-- What becomes of a game once its teams are written. -/
structure Edit where
  /-- The row of the game afterwards. -/
  row : GameRow
  /-- The teams that are shown on the grids of the game from now on, if these are brought up to
  date. -/
  players : Option (TeamRow × TeamRow)
  announced : Bool
  /-- What is reported, given the number of grids and settings that changed. -/
  outcome : Nat → Outcome

/-- The store with a row of a game in it. -/
def Store.withRow (store : Store) (row : GameRow) : Store :=
  { store with
    games := Table.put GameRow.id row store.games
    lastGameId := max store.lastGameId row.id }

namespace Edit

/-- The grids of the game with the names of its teams, if these are shown from now on. -/
def refreshNames (edit : Edit) (grids : List Grid) : List Grid :=
  edit.players.elim grids fun (home, away) =>
    Table.updateWhere (·.follows edit.row.id) (·.withNames home away) grids

/-- The settings of such grids with the colours of the teams. -/
def refreshColours (edit : Edit) (own : GridColours → Bool) (colours : List GridColours) :
    List GridColours :=
  edit.players.elim colours fun (home, away) =>
    Table.updateWhere own (·.fill home away) colours

/-- Writes the row, brings the grids up to date and announces the game. -/
def apply (edit : Edit) (store : Store) : Store :=
  { store.withRow edit.row with
    grids := edit.refreshNames store.grids
    colours := edit.refreshColours (store.coloursFollow edit.row.id) store.colours
    notices := if edit.announced then store.notices ++ [edit.row.id] else store.notices }

/-- How many grids and settings change. -/
def count (edit : Edit) (store : Store) : Nat :=
  edit.players.elim 0 fun (home, away) =>
    (store.grids.filter fun grid =>
      grid.follows edit.row.id && grid.withNames home away != grid).length +
    (store.colours.filter fun colours =>
      store.coloursFollow edit.row.id colours && colours.fill home away != colours).length

variable {edit : Edit}

/-- The grids of other games stay as they are. -/
theorem filter_refreshNames {p : Grid → Bool} {grids : List Grid}
    (apart : ∀ grid, grid.follows edit.row.id = true → p grid = false) :
    (edit.refreshNames grids).filter p = grids.filter p := by
  unfold refreshNames
  cases edit.players with
  | none => rfl
  | some players =>
    exact Table.filter_updateWhere fun grid own =>
      ⟨apart grid own, apart (grid.withNames players.1 players.2) own⟩

/-- So do the settings of other grids. -/
theorem filter_refreshColours {gameId : Int} {store : Store} {p : GridColours → Bool}
    {colours : List GridColours}
    (apart : ∀ colours, store.coloursFollow gameId colours = true → p colours = false) :
    (edit.refreshColours (store.coloursFollow gameId) colours).filter p = colours.filter p := by
  unfold refreshColours
  cases edit.players with
  | none => rfl
  | some players =>
    exact Table.filter_updateWhere fun colours own =>
      ⟨apart colours own, apart (colours.fill players.1 players.2) own⟩

/-- Settings belong to the game that they belonged to: a grid gets other names and no other link. -/
theorem coloursFollow_apply (store : Store) (gameId : Int) (colours : GridColours) :
    (edit.apply store).coloursFollow gameId colours = store.coloursFollow gameId colours := by
  show (edit.refreshNames store.grids).any _ = store.grids.any _
  unfold refreshNames
  cases edit.players with
  | none => rfl
  | some players =>
    show (Table.updateWhere _ _ store.grids).any _ = _
    rw [Table.updateWhere, List.any_map]
    congr 1
    funext grid
    dsimp only [Function.comp]
    split <;> rfl

end Edit

namespace Store

/-- The edit of a game: of a stored game that stands above the report only the teams are taken over,
and otherwise the report is. -/
def edit (store : Store) (now : Instant) (mute : Bool) (league : League) (game : Game) : Edit :=
  let record := GameRecord.ofFeed league game
  let playersOf := (store.putTeamsOf now league game).teamsOf?
  match store.gameByExternalId? game.id with
  | none =>
    let row := store.nextRow record now
    { row, players := playersOf row, announced := false, outcome := .applied row.id true false }
  | some old =>
    let differ := old.teamsDiffer record
    if old.outranks record then
      let row := if differ then old.overwrite (old.toGameRecord.withTeamsOf record) now else old
      { row
        players := if differ then playersOf row else none
        announced := false
        outcome := .keptFinal old.id }
    else
      let row := old.overwrite record now
      let announced := old.scoreDiffers record && !mute
      { row
        players := if differ then playersOf row else none
        announced
        outcome := .applied old.id false announced }

/-- The grid is in use and linked to the game that the feed knows by an identifier. -/
def gridFollows (store : Store) (externalId : String) (grid : Grid) : Bool :=
  (store.gameByExternalId? externalId).any fun row => grid.follows row.id

/-- The settings belong to such a grid. -/
def settingsFollow (store : Store) (externalId : String) (colours : GridColours) : Bool :=
  (store.gameByExternalId? externalId).any fun row => store.coloursFollow row.id colours

/-- Of each table only what belongs to a game of a league may have changed. -/
structure TouchesOnly (before : Store) (league : League) (game : Game) (after : Store) : Prop where
  games : after.games.filter (·.externalId ≠ game.id) =
    before.games.filter (·.externalId ≠ game.id)
  teams : after.teams.filter (·.key ∉ game.teamKeys league) =
    before.teams.filter (·.key ∉ game.teamKeys league)
  grids : after.grids.filter (fun grid => !after.gridFollows game.id grid) =
    before.grids.filter (fun grid => !after.gridFollows game.id grid)
  colours : after.colours.filter (fun colours => !after.settingsFollow game.id colours) =
    before.colours.filter (fun colours => !after.settingsFollow game.id colours)
  logs : after.logs = before.logs
  pools : after.pools = before.pools
  numberSets : after.numberSets = before.numberSets

variable {store : Store} {now : Instant} {mute : Bool} {league : League} {game : Game}

/-! ## Writing the row -/

theorem putGame_eq_withRow_of_none {record : GameRecord}
    (h : store.gameByExternalId? record.externalId = none) :
    store.putGame now record =
      (store.nextRow record now, store.withRow (store.nextRow record now)) := by
  have hnext : max store.lastGameId (store.nextRow record now).id = store.lastGameId + 1 :=
    Int.max_eq_right (Int.le_add_one (Int.le_refl store.lastGameId))
  rw [putGame_of_none now h, withRow, hnext]

theorem Valid.putGame_eq_withRow_of_some (valid : store.Valid) {record : GameRecord}
    {old : GameRow} (h : store.gameByExternalId? record.externalId = some old) :
    store.putGame now record =
      (old.overwrite record now, store.withRow (old.overwrite record now)) := by
  have hle : old.id ≤ store.lastGameId := valid.gameId_le (Table.mem_of_find? h)
  have hlast : max store.lastGameId (old.overwrite record now).id = store.lastGameId :=
    Int.max_eq_left hle
  rw [putGame_of_some now h, withRow, hlast]

theorem Valid.withRow_self (valid : store.Valid) {externalId : String} {row : GameRow}
    (h : store.gameByExternalId? externalId = some row) : store.withRow row = store := by
  have hlast : max store.lastGameId row.id = store.lastGameId :=
    Int.max_eq_left (valid.gameId_le (Table.mem_of_find? h))
  rw [withRow, Table.put_of_find?_self (valid.game?_of_gameByExternalId? h), hlast]

/-- To write a row, announce it and bring its grids up to date is an edit. -/
theorem refreshIf_withRow (row : GameRow) (announced outdated : Bool) (outcome : Nat → Outcome) :
    ((store.withRow row).announceIf announced row.id).refreshIf outdated row.id =
      let edit : Edit :=
        { row, players := if outdated then store.teamsOf? row else none, announced, outcome }
      (edit.count store, edit.apply store) := by
  cases outdated with
  | false => cases announced <;> rfl
  | true =>
    have hteams : (((store.withRow row).announceIf announced row.id).game? row.id).bind
        ((store.withRow row).announceIf announced row.id).teamsOf? = store.teamsOf? row := by
      have hrow : ((store.withRow row).announceIf announced row.id).game? row.id = some row := by
        rw [game?, announceIf_games]
        exact Table.find?_put_self GameRow.id row store.games
      rw [hrow]
      cases announced <;> rfl
    rw [refreshIf, if_pos rfl, refreshGrids, hteams]
    dsimp only
    -- to write the row and to announce it links no grid to it and takes none away
    generalize store.teamsOf? row = players
    cases players <;> cases announced <;> rfl

/-- So is to keep a final game, whether its teams change or not. -/
theorem Valid.keepFinal_eq_apply (valid : store.Valid) {old : GameRow}
    (h : store.gameByExternalId? old.externalId = some old) (record : GameRecord) :
    store.keepFinal now old record =
      let differ := old.teamsDiffer record
      let row := if differ then old.overwrite (old.toGameRecord.withTeamsOf record) now else old
      let edit : Edit :=
        { row
          players := if differ then store.teamsOf? row else none
          announced := false
          outcome := .keptFinal old.id }
      (edit.outcome (edit.count store), edit.apply store) := by
  let kept : Nat × Store → Outcome × Store := fun r => (.keptFinal old.id r.1, r.2)
  cases hd : old.teamsDiffer record with
  | true =>
    have hput := @Valid.putGame_eq_withRow_of_some _ now valid
      (old.toGameRecord.withTeamsOf record) old h
    have hcarried := @refreshIf_withRow store
      (old.overwrite (old.toGameRecord.withTeamsOf record) now) false true (.keptFinal old.id)
    rw [Store.keepFinal, if_pos hd, hput]
    exact congrArg kept hcarried
  | false =>
    have hcarried := @refreshIf_withRow store old false false (.keptFinal old.id)
    rw [valid.withRow_self h] at hcarried
    rw [keepFinal_of_not_differ hd]
    exact congrArg kept hcarried

theorem edit_of_none (h : store.gameByExternalId? game.id = none) :
    store.edit now mute league game =
      let row := store.nextRow (.ofFeed league game) now
      { row
        players := (store.putTeamsOf now league game).teamsOf? row
        announced := false
        outcome := .applied row.id true false } := by
  simp only [edit, h]

theorem edit_of_outranks {old : GameRow} (h : store.gameByExternalId? game.id = some old)
    (kept : old.outranks (.ofFeed league game) = true) :
    store.edit now mute league game =
      let differ := old.teamsDiffer (.ofFeed league game)
      let row := if differ then
        old.overwrite (old.toGameRecord.withTeamsOf (.ofFeed league game)) now else old
      { row
        players := if differ then (store.putTeamsOf now league game).teamsOf? row else none
        announced := false
        outcome := .keptFinal old.id } := by
  simp only [edit, h, kept, if_true]

theorem edit_of_not_outranks {old : GameRow} (h : store.gameByExternalId? game.id = some old)
    (applied : old.outranks (.ofFeed league game) = false) :
    store.edit now mute league game =
      let row := old.overwrite (.ofFeed league game) now
      let announced := old.scoreDiffers (.ofFeed league game) && !mute
      { row
        players := if old.teamsDiffer (.ofFeed league game) then
          (store.putTeamsOf now league game).teamsOf? row else none
        announced
        outcome := .applied old.id false announced } := by
  simp only [edit, h, applied, Bool.false_eq_true, if_false]

/-- **Reconciling a game** is carrying out its edit once its teams are written. -/
theorem Valid.reconcile_eq_apply (valid : store.Valid) {edit : Edit} {teamed : Store}
    (hedit : store.edit now mute league game = edit)
    (hteamed : store.putTeamsOf now league game = teamed) :
    store.reconcile now mute league game =
      (edit.outcome (edit.count teamed), edit.apply teamed) := by
  subst hedit hteamed
  have validTeamed := valid.putTeamsOf now league game
  cases hold : store.gameByExternalId? game.id with
  | none =>
    have applied : ∀ old, store.gameByExternalId? game.id = some old →
        old.outranks (.ofFeed league game) = false := by simp [hold]
    have hput := @putGame_eq_withRow_of_none (store.putTeamsOf now league game) now
      (.ofFeed league game) hold
    have hcarried := @refreshIf_withRow (store.putTeamsOf now league game)
      (store.nextRow (.ofFeed league game) now) false true
      (.applied (store.nextRow (.ofFeed league game) now).id true false)
    rw [reconcile_of_not_outranks applied, hold, Store.applyGame, hput, edit_of_none hold]
    exact congrArg (fun r : Nat × Store => (Outcome.applied _ true false r.1, r.2)) hcarried
  | some old =>
    cases kept : old.outranks (.ofFeed league game) with
    | true =>
      have hown : (store.putTeamsOf now league game).gameByExternalId? old.externalId =
          some old := by
        rw [externalId_of_gameByExternalId? hold]
        exact hold
      rw [reconcile_of_outranks hold kept, edit_of_outranks hold kept]
      exact validTeamed.keepFinal_eq_apply hown _
    | false =>
      have hput := @Valid.putGame_eq_withRow_of_some _ now validTeamed (.ofFeed league game) old
        hold
      have hcarried := @refreshIf_withRow (store.putTeamsOf now league game)
        (old.overwrite (.ofFeed league game) now)
        (old.scoreDiffers (.ofFeed league game) && !mute)
        (old.teamsDiffer (.ofFeed league game))
        (.applied old.id false (old.scoreDiffers (.ofFeed league game) && !mute))
      rw [reconcile_of_not_outranks (not_outranks_of_some hold kept), hold, Store.applyGame, hput,
        edit_of_not_outranks hold kept]
      exact congrArg (fun r : Nat × Store => (Outcome.applied old.id false _ r.1, r.2)) hcarried

/-! ## The row of an edit -/

/-- The row is that of the game. -/
theorem edit_externalId : (store.edit now mute league game).row.externalId = game.id := by
  cases hold : store.gameByExternalId? game.id with
  | none =>
    rw [edit_of_none hold]
    rfl
  | some old =>
    have hx : old.externalId = game.id := externalId_of_gameByExternalId? hold
    cases kept : old.outranks (.ofFeed league game) with
    | true =>
      rw [edit_of_outranks hold kept]
      cases old.teamsDiffer (.ofFeed league game) <;> exact hx
    | false =>
      rw [edit_of_not_outranks hold kept]
      rfl

/-- A stored game keeps its number, and a new one gets the next. -/
theorem edit_id :
    (store.edit now mute league game).row.id =
      (store.gameByExternalId? game.id).elim (store.lastGameId + 1) GameRow.id := by
  cases hold : store.gameByExternalId? game.id with
  | none =>
    rw [edit_of_none hold]
    rfl
  | some old =>
    cases kept : old.outranks (.ofFeed league game) with
    | true =>
      rw [edit_of_outranks hold kept]
      cases old.teamsDiffer (.ofFeed league game) <;> rfl
    | false =>
      rw [edit_of_not_outranks hold kept]
      rfl

theorem edit_id_of_none (h : store.gameByExternalId? game.id = none) :
    (store.edit now mute league game).row.id = store.lastGameId + 1 := by
  rw [edit_id, h, Option.elim_none]

theorem edit_id_of_some {old : GameRow} (h : store.gameByExternalId? game.id = some old) :
    (store.edit now mute league game).row.id = old.id := by
  rw [edit_id, h, Option.elim_some]

/-- No row of another game is in the place of the row. -/
theorem Valid.externalId_of_edit (valid : store.Valid) {row : GameRow} (h : row ∈ store.games)
    (same : row.id = (store.edit now mute league game).row.id) : row.externalId = game.id := by
  cases hold : store.gameByExternalId? game.id with
  | none =>
    -- the next number is not taken
    have hle := valid.gameId_le h
    rw [edit_id_of_none hold] at same
    omega
  | some old =>
    rw [edit_id_of_some hold] at same
    rw [Table.eq_of_mem_of_key valid.gameIds_nodup h (Table.mem_of_find? hold) same]
    exact externalId_of_gameByExternalId? hold

/-- The row is found by the identifier of its game once it is written. -/
theorem gameByExternalId?_apply_edit (teamed : Store) (hgames : teamed.games = store.games) :
    ((store.edit now mute league game).apply teamed).gameByExternalId? game.id =
      some (store.edit now mute league game).row := by
  have hx := @edit_externalId store now mute league game
  rw [← hx]
  show Table.find? _ _ (Table.put GameRow.id _ teamed.games) = _
  rw [hgames]
  refine Table.find?_put_column fun old hold => ?_
  rw [hx] at hold
  exact (edit_id_of_some hold).symm

/-! ## What is left alone -/

theorem filter_putTeam {record : TeamRecord} {p : TeamRow → Bool}
    (h : ∀ row : TeamRow, row.key = record.key → p row = false) :
    (store.putTeam now record).teams.filter p = store.teams.filter p := by
  have hrow : ∃ row : TeamRow, row.key = record.key ∧
      store.putTeam now record =
        { store with teams := Table.put TeamRow.key row store.teams } := by
    cases hold : store.team? record.id record.league with
    | some old =>
      have hkey : old.key = record.key := Table.key_of_find? hold
      exact ⟨old.overwrite record now, hkey, putTeam_of_some now hold⟩
    | none => exact ⟨_, rfl, putTeam_of_none now hold⟩
  obtain ⟨row, hkey, hput⟩ := hrow
  rw [hput]
  exact Table.filter_put (h row hkey) fun old _ same => h old (same.trans hkey)

theorem filter_putTeamsOf :
    (store.putTeamsOf now league game).teams.filter (·.key ∉ game.teamKeys league) =
      store.teams.filter (·.key ∉ game.teamKeys league) := by
  rw [putTeamsOf, filter_putTeam, filter_putTeam]
  all_goals
    intro row hkey
    simp [hkey, TeamRecord.key, TeamRecord.ofFeed, Game.teamKeys, Game.teamIds]

/-- **Reconciling a game** touches only what belongs to it. -/
theorem Valid.touchesOnly_reconcile (valid : store.Valid) :
    store.TouchesOnly league game (store.reconcile now mute league game).2 := by
  have hrow := @gameByExternalId?_apply_edit store now mute league game
    (store.putTeamsOf now league game) rfl
  have hteams := @reconcile_teams store now mute league game
  have hown := fun row h => @Valid.externalId_of_edit store now mute league game valid row h
  have hx := @edit_externalId store now mute league game
  rw [valid.reconcile_eq_apply rfl rfl] at hteams ⊢
  dsimp only at hteams ⊢
  generalize store.edit now mute league game = edit at hrow hteams hown hx ⊢
  have hgrids : ∀ grid, (edit.apply (store.putTeamsOf now league game)).gridFollows game.id grid =
      grid.follows edit.row.id := by
    intro grid
    rw [gridFollows, hrow, Option.any_some]
  have hcolours : ∀ colours, (edit.apply (store.putTeamsOf now league game)).settingsFollow
      game.id colours = store.coloursFollow edit.row.id colours := by
    intro colours
    rw [settingsFollow, hrow, Option.any_some, Edit.coloursFollow_apply]
    rfl
  constructor
  case games =>
    refine Table.filter_put ?_ fun old hold same => ?_
    · simpa using hx
    · simpa using hown old hold same
  case teams => rw [hteams, filter_putTeamsOf]
  case grids =>
    simp only [hgrids]
    exact Edit.filter_refreshNames fun grid own => by simp [own]
  case colours =>
    simp only [hcolours]
    exact Edit.filter_refreshColours fun colours own => congrArg (!·) own
  all_goals rfl

/-- A new game is one game more. -/
theorem Valid.length_reconcile (valid : store.Valid) :
    (store.reconcile now mute league game).2.games.length =
      store.games.length + if store.gameByExternalId? game.id = none then 1 else 0 := by
  have hafter := (valid.reconcile now mute league game).lastGameId
  have hbefore := valid.lastGameId
  have hlast : (store.reconcile now mute league game).2.lastGameId =
      max store.lastGameId (store.edit now mute league game).row.id := by
    rw [valid.reconcile_eq_apply rfl rfl]
    rfl
  -- the table has as many rows as its last number says
  cases hold : store.gameByExternalId? game.id with
  | none =>
    rw [edit_id_of_none hold] at hlast
    rw [if_pos rfl]
    omega
  | some old =>
    have hle : old.id ≤ store.lastGameId := valid.gameId_le (Table.mem_of_find? hold)
    rw [edit_id_of_some hold] at hlast
    rw [if_neg (by simp)]
    omega

theorem Valid.isApplied_of_none (valid : store.Valid)
    (h : store.gameByExternalId? game.id = none) :
    (store.reconcile now mute league game).1.isApplied = true := by
  rw [valid.reconcile_eq_apply rfl rfl, edit_of_none h]
  rfl

end Store

namespace World

variable {world : World}

/-- Nothing is written, and the game is not applied, or the store is reconciled with it. -/
theorem processGame_cases (world : World) (feed : Feed) (scope : SyncScope) (league : League)
    (game : Game) :
    (∃ result, Sync.processGame (services feed) scope league game world = (result, world) ∧
        result.toOption.any Outcome.isApplied = false) ∨
      Sync.processGame (services feed) scope league game world =
        (.ok (world.store.reconcile world.now world.mute league game).1,
          world.holding (world.store.reconcile world.now world.mute league game).2) := by
  cases dry : scope.dryRun with
  | true => exact .inl ⟨_, processGame_of_dryRun dry league game, rfl⟩
  | false =>
    cases failing : world.failing with
    | true => exact .inl ⟨_, processGame_eq_of_failing failing dry league game, rfl⟩
    | false => exact .inr (processGame_of_healthy failing dry league game)

theorem touchesOnly_processGame (valid : world.store.Valid) (feed : Feed) (scope : SyncScope)
    (league : League) (game : Game) :
    world.store.TouchesOnly league game
      (Sync.processGame (services feed) scope league game world).2.store := by
  rcases processGame_leaves world feed scope league game with h | h
  · rw [h]
    exact ⟨rfl, rfl, rfl, rfl, rfl, rfl, rfl⟩
  · rw [h]
    exact valid.touchesOnly_reconcile

/-- The table of games grows by a new game that is applied, and by no other. -/
theorem length_processGame (valid : world.store.Valid) (feed : Feed) (scope : SyncScope)
    (league : League) (game : Game) :
    let run := Sync.processGame (services feed) scope league game world
    run.2.store.games.length = world.store.games.length +
      if world.store.gameByExternalId? game.id = none ∧
        run.1.toOption.any Outcome.isApplied = true then 1 else 0 := by
  intro run
  rcases processGame_cases world feed scope league game with ⟨result, h, unapplied⟩ | h
  · have hrun : run = (result, world) := h
    rw [hrun, if_neg (by simp [unapplied])]
    rfl
  · have hrun : run = _ := h
    rw [hrun]
    show (world.store.reconcile world.now world.mute league game).2.games.length = _
    rw [valid.length_reconcile]
    congr 1
    refine if_congr (iff_self_and.2 fun new => ?_) rfl rfl
    exact valid.isApplied_of_none new

end World

end SquarePool
