import Mathlib.Data.List.Nodup
import SquarePool.Proofs.Sync.Locality
import SquarePool.Proofs.Sync.LostNotice

/-!
# Games in any order

What belongs to two games of a league that have no team in common lies apart, so it makes no
difference which of them is reconciled first: the edit of each is the one that it would be without
the other, and two edits can be exchanged. Main statement: reconciling a game is local, and two such
games, once both are stored, can be reconciled in either order.
-/

namespace SquarePool

/-- Two games have neither their identifier nor a team in common. -/
structure Game.Apart (game other : Game) : Prop where
  ids : game.id ≠ other.id
  teams : ∀ id ∈ game.teamIds, id ∉ other.teamIds

theorem Game.Apart.symm {game other : Game} (apart : game.Apart other) : other.Apart game :=
  ⟨apart.ids.symm, fun _ own own' => apart.teams _ own' own⟩

namespace Store

/-- The tables are the same, up to the order in which teams came and games were announced. -/
structure SameUpToOrder (a b : Store) : Prop where
  teams : b.teams.Perm a.teams
  notices : b.notices.Perm a.notices
  rest : b = { a with teams := b.teams, notices := b.notices }

variable {store a b : Store} {now : Instant} {mute : Bool} {league : League} {game other : Game}

/-! ## Teams -/

/-- What becomes of a team depends on no other team. -/
theorem team?_putTeamsOf_congr {id : String} {league' : League}
    (h : a.team? id league' = b.team? id league') :
    (a.putTeamsOf now league game).team? id league' =
      (b.putTeamsOf now league game).team? id league' := by
  simp only [putTeamsOf, team?_putTeam, h]

theorem team?_putTeamsOf_of_not_mem {id : String} {league' : League} (h : id ∉ game.teamIds) :
    (store.putTeamsOf now league game).team? id league' = store.team? id league' := by
  rw [Game.teamIds, List.mem_cons, List.mem_singleton, not_or] at h
  rw [putTeamsOf, team?_putTeam_of_ne, team?_putTeam_of_ne]
  · exact fun own => h.1 (Prod.mk.inj own).1.symm
  · exact fun own => h.2 (Prod.mk.inj own).1.symm

theorem Valid.mem_teams_iff (valid : store.Valid) {row : TeamRow} :
    row ∈ store.teams ↔ store.team? row.id row.league = some row :=
  ⟨Table.find?_of_mem valid.teamKeys, Table.mem_of_find?⟩

/-- Two tables in which the same teams are found have the same teams. -/
theorem Valid.teams_perm (valid : a.Valid) (valid' : b.Valid)
    (h : ∀ id league, a.team? id league = b.team? id league) : a.teams.Perm b.teams := by
  have unique := List.Nodup.of_map TeamRow.key valid.teamKeys
  have unique' := List.Nodup.of_map TeamRow.key valid'.teamKeys
  refine (List.perm_ext_iff_of_nodup unique unique').2 fun row => ?_
  rw [valid.mem_teams_iff, valid'.mem_teams_iff, h]

/-- The teams of two games may be written in any order. -/
theorem Valid.putTeamsOf_perm (valid : store.Valid) (apart : game.Apart other) :
    ((store.putTeamsOf now league game).putTeamsOf now league other).teams.Perm
      ((store.putTeamsOf now league other).putTeamsOf now league game).teams := by
  refine ((valid.putTeamsOf now league game).putTeamsOf now league other).teams_perm
    ((valid.putTeamsOf now league other).putTeamsOf now league game) fun id league' => ?_
  -- at most one of the games writes the team, and finds it as it was before the other one
  by_cases own : id ∈ game.teamIds
  · have apart' : id ∉ other.teamIds := fun h => apart.teams id own h
    rw [team?_putTeamsOf_of_not_mem apart']
    exact team?_putTeamsOf_congr (team?_putTeamsOf_of_not_mem apart').symm
  · rw [@team?_putTeamsOf_of_not_mem (store.putTeamsOf now league other) _ _ _ _ _ own]
    exact team?_putTeamsOf_congr (team?_putTeamsOf_of_not_mem own)

/-! ## The edit of a game -/

/-- The teams of a row that has those of the game. -/
theorem teamsOf?_congr {row : GameRow} (home : row.homeTeamId = game.home.team.id)
    (away : row.awayTeamId = game.away.team.id)
    (h : ∀ id ∈ game.teamIds, ∀ league, a.team? id league = b.team? id league) :
    (a.putTeamsOf now league game).teamsOf? row = (b.putTeamsOf now league game).teamsOf? row := by
  have hhome := h game.home.team.id (by simp [Game.teamIds]) row.league
  have haway := h game.away.team.id (by simp [Game.teamIds]) row.league
  rw [teamsOf?, teamsOf?, home, away, team?_putTeamsOf_congr hhome, team?_putTeamsOf_congr haway]

/-- The edit of a stored game depends on its row and its teams. -/
theorem edit_congr {old : GameRow} (ha : a.gameByExternalId? game.id = some old)
    (hb : b.gameByExternalId? game.id = some old)
    (h : ∀ id ∈ game.teamIds, ∀ league, a.team? id league = b.team? id league) :
    a.edit now mute league game = b.edit now mute league game := by
  cases kept : old.outranks (.ofFeed league game) with
  | true =>
    rw [edit_of_outranks ha kept, edit_of_outranks hb kept]
    cases old.teamsDiffer (.ofFeed league game) with
    | true =>
      simp only [if_true]
      rw [teamsOf?_congr rfl rfl h]
    | false => rfl
  | false =>
    rw [edit_of_not_outranks ha kept, edit_of_not_outranks hb kept]
    dsimp only
    rw [teamsOf?_congr rfl rfl h]

/-- **The edit of a game** is the same after a game that has nothing in common with it. -/
theorem Valid.edit_reconcile_of_apart (valid : store.Valid) (apart : game.Apart other)
    {row : GameRow} (stored : store.gameByExternalId? other.id = some row) :
    (store.reconcile now mute league game).2.edit now mute league other =
      store.edit now mute league other := by
  refine edit_congr ((valid.row_of_ne apart.ids).trans stored) stored fun id own league' => ?_
  have apart' : id ∉ game.teamIds := fun h => apart.teams id h own
  have hteams : (store.reconcile now mute league game).2.team? id league' =
      (store.putTeamsOf now league game).team? id league' := by
    rw [team?, team?, reconcile_teams]
  rw [hteams, team?_putTeamsOf_of_not_mem apart']

/-- An edit concerns no team. -/
theorem putTeamsOf_apply (edit : Edit) :
    (edit.apply store).putTeamsOf now league game = edit.apply (store.putTeamsOf now league game) :=
  rfl

/-- **Two games in turn** are two edits once the teams of both are written. -/
theorem Valid.reconcile_reconcile (valid : store.Valid) (apart : game.Apart other)
    {row : GameRow} (stored : store.gameByExternalId? other.id = some row) :
    (store.reconcile now mute league game).2.reconcile now mute league other =
      let first := store.edit now mute league game
      let second := store.edit now mute league other
      let teamed := (store.putTeamsOf now league game).putTeamsOf now league other
      (second.outcome (second.count (first.apply teamed)), second.apply (first.apply teamed)) := by
  have hsecond := @Valid.edit_reconcile_of_apart store now mute league game other valid apart row
    stored
  have hfirst : store.reconcile now mute league game = _ := valid.reconcile_eq_apply rfl rfl
  have hteams : (store.reconcile now mute league game).2.putTeamsOf now league other =
      (store.edit now mute league game).apply
        ((store.putTeamsOf now league game).putTeamsOf now league other) := by
    rw [hfirst, putTeamsOf_apply]
  exact (valid.reconcile now mute league game).reconcile_eq_apply hsecond hteams

end Store

/-! ## Two edits -/

namespace Edit

/-- The rows of two edits are stored, and are different ones; every grid has its number. -/
structure Apart (edit other : Edit) (store : Store) : Prop where
  ids : edit.row.id ≠ other.row.id
  stored : edit.row.id ∈ store.games.map GameRow.id
  stored' : other.row.id ∈ store.games.map GameRow.id
  gridIds : (store.grids.map Grid.id).Nodup

variable {edit other : Edit} {store : Store}

/-- A grid follows one game only. -/
theorem Apart.not_follows (apart : edit.Apart other store) {grid : Grid}
    (h : grid.follows edit.row.id = true) : grid.follows other.row.id = false := by
  simp only [Grid.follows, Bool.and_eq_true, beq_iff_eq] at h
  simp [Grid.follows, h.2, apart.ids]

/-- So do settings, because the grid that they belong to is the only one with its number. -/
theorem Apart.not_coloursFollow (apart : edit.Apart other store) {colours : GridColours}
    (h : store.coloursFollow edit.row.id colours = true) :
    store.coloursFollow other.row.id colours = false := by
  obtain ⟨grid, hgrid, own⟩ := List.any_eq_true.1 h
  rw [Bool.and_eq_true, beq_iff_eq] at own
  refine List.any_eq_false.2 fun grid' hgrid' => ?_
  rw [Bool.and_eq_true, beq_iff_eq]
  rintro ⟨hid, follows⟩
  have same : grid' = grid :=
    Table.eq_of_mem_of_key apart.gridIds hgrid' hgrid (hid.trans own.1.symm)
  rw [same, apart.not_follows own.2] at follows
  exact nomatch follows

/-- An edit changes as many grids and settings as it would without the other one. -/
theorem Apart.count_apply (apart : edit.Apart other store) :
    other.count (edit.apply store) = other.count store := by
  unfold count
  cases other.players with
  | none => rfl
  | some players =>
    obtain ⟨home, away⟩ := players
    simp only [Option.elim_some, coloursFollow_apply]
    congr 2
    · refine filter_refreshNames fun grid own => ?_
      rw [apart.not_follows own, Bool.false_and]
    · refine filter_refreshColours fun colours own => ?_
      rw [apart.not_coloursFollow own, Bool.false_and]

theorem Apart.refreshNames_comm (apart : edit.Apart other store) :
    edit.refreshNames (other.refreshNames store.grids) =
      other.refreshNames (edit.refreshNames store.grids) := by
  unfold refreshNames
  cases edit.players with
  | none => rfl
  | some players =>
    cases other.players with
    | none => rfl
    | some players' =>
      exact Table.updateWhere_comm (fun grid _ own => apart.not_follows own) (fun _ => rfl)
        fun _ => rfl

theorem Apart.refreshColours_comm (apart : edit.Apart other store) :
    let own := store.coloursFollow edit.row.id
    let own' := store.coloursFollow other.row.id
    edit.refreshColours own (other.refreshColours own' store.colours) =
      other.refreshColours own' (edit.refreshColours own store.colours) := by
  unfold refreshColours
  cases edit.players with
  | none => rfl
  | some players =>
    cases other.players with
    | none => rfl
    | some players' =>
      exact Table.updateWhere_comm (fun colours _ own => apart.not_coloursFollow own)
        (fun _ => rfl) fun _ => rfl

theorem notices_perm :
    (edit.apply (other.apply store)).notices.Perm (other.apply (edit.apply store)).notices := by
  simp only [Edit.apply]
  cases edit.announced with
  | false => exact .refl _
  | true =>
    cases other.announced with
    | false => exact .refl _
    | true =>
      simp only [if_true, List.append_assoc]
      exact (List.Perm.swap _ _ []).append_left store.notices

/-- **Two edits** may be carried out in any order. -/
theorem Apart.apply_comm (apart : edit.Apart other store) :
    (other.apply (edit.apply store)).SameUpToOrder (edit.apply (other.apply store)) := by
  have games : (edit.apply (other.apply store)).games = (other.apply (edit.apply store)).games :=
    Table.put_comm apart.ids apart.stored apart.stored'
  have lastGameId : (edit.apply (other.apply store)).lastGameId =
      (other.apply (edit.apply store)).lastGameId := by
    show max (max store.lastGameId other.row.id) edit.row.id =
      max (max store.lastGameId edit.row.id) other.row.id
    omega
  have grids : (edit.apply (other.apply store)).grids = (other.apply (edit.apply store)).grids :=
    apart.refreshNames_comm
  have colours : (edit.apply (other.apply store)).colours =
      (other.apply (edit.apply store)).colours := by
    show edit.refreshColours ((other.apply store).coloursFollow edit.row.id) _ =
      other.refreshColours ((edit.apply store).coloursFollow other.row.id) _
    rw [funext (coloursFollow_apply store edit.row.id),
      funext (coloursFollow_apply store other.row.id)]
    exact apart.refreshColours_comm
  refine ⟨.refl _, notices_perm, ?_⟩
  exact (Store.mk.injEq ..).mpr ⟨rfl, games, lastGameId, rfl, rfl, grids, colours, rfl, rfl⟩

end Edit

/-! ## Two games -/

namespace Store

variable {store : Store} {now : Instant} {mute : Bool} {league : League} {game other : Game}

/-- The edits of two stored games that have nothing in common. -/
theorem Valid.edits_apart (valid : store.Valid) (apart : game.Apart other)
    (stored : (store.gameByExternalId? game.id).isSome)
    (stored' : (store.gameByExternalId? other.id).isSome) :
    (store.edit now mute league game).Apart (store.edit now mute league other) store := by
  obtain ⟨row, hrow⟩ := Option.isSome_iff_exists.1 stored
  obtain ⟨row', hrow'⟩ := Option.isSome_iff_exists.1 stored'
  constructor
  case ids =>
    rw [edit_id_of_some hrow, edit_id_of_some hrow']
    exact valid.id_ne hrow hrow' apart.ids
  case stored =>
    rw [edit_id_of_some hrow]
    exact List.mem_map_of_mem (Table.mem_of_find? hrow)
  case stored' =>
    rw [edit_id_of_some hrow']
    exact List.mem_map_of_mem (Table.mem_of_find? hrow')
  case gridIds => exact valid.gridIds

/-- What is reported of a game does not depend on the one before. -/
theorem Valid.outcome_reconcile_of_apart (valid : store.Valid) (apart : game.Apart other)
    (stored : (store.gameByExternalId? game.id).isSome)
    (stored' : (store.gameByExternalId? other.id).isSome) :
    ((store.reconcile now mute league game).2.reconcile now mute league other).1 =
      (store.reconcile now mute league other).1 := by
  have edits := @Valid.edits_apart store now mute league game other valid apart stored stored'
  obtain ⟨row, hrow⟩ := Option.isSome_iff_exists.1 stored'
  -- what is counted are grids and settings, so the teams that were written do not matter
  have hcount : (store.edit now mute league other).count
      ((store.edit now mute league game).apply
        ((store.putTeamsOf now league game).putTeamsOf now league other)) =
      (store.edit now mute league other).count store :=
    edits.count_apply
  rw [valid.reconcile_reconcile apart hrow, valid.reconcile_eq_apply rfl rfl]
  exact congrArg (store.edit now mute league other).outcome hcount

/-- **Two games** may be reconciled in any order. -/
theorem Valid.reconcile_comm (valid : store.Valid) (apart : game.Apart other)
    (stored : (store.gameByExternalId? game.id).isSome)
    (stored' : (store.gameByExternalId? other.id).isSome) :
    ((store.reconcile now mute league game).2.reconcile now mute league other).2.SameUpToOrder
      ((store.reconcile now mute league other).2.reconcile now mute league game).2 := by
  have edits := @Valid.edits_apart store now mute league game other valid apart stored stored'
  obtain ⟨row, hrow⟩ := Option.isSome_iff_exists.1 stored
  obtain ⟨row', hrow'⟩ := Option.isSome_iff_exists.1 stored'
  have perm := @Valid.putTeamsOf_perm store now league game other valid apart
  rw [valid.reconcile_reconcile apart hrow', valid.reconcile_reconcile apart.symm hrow]
  -- two edits are exchanged in the store as it was; its teams play no part in them
  have edited := edits.apply_comm
  refine ⟨perm.symm, edited.notices, ?_⟩
  exact congrArg (fun next : Store => { next with
    teams := ((store.putTeamsOf now league other).putTeamsOf now league game).teams }) edited.rest

end Store

namespace World

/-- **Games are reconciled apart.** Of a valid store only what belongs to the game may change: its
row, its two teams, and the active grids that are linked to it with their settings. The table of
games grows by one if the game is new and applied, and else not. So with a store that answers two
stored games of a league that have no team in common can be reconciled in either order: each has the
same outcome as in the other order, and both orders leave the same tables, up to the order in which
teams came and games were announced. -/
theorem games_are_reconciled_apart {world : World} (valid : world.store.Valid) (feed : Feed)
    (scope : SyncScope) (league : League) (game : Game) :
    let process := Sync.processGame (services feed) scope league
    let before := world.store
    let after := (process game world).2.store
    let applied := (process game world).1.toOption.any Outcome.isApplied
    before.TouchesOnly league game after ∧
    after.games.length = before.games.length +
      (if before.gameByExternalId? game.id = none ∧ applied = true then 1 else 0) ∧
    ∀ other : Game, world.failing = false → game.Apart other →
      (before.gameByExternalId? game.id).isSome → (before.gameByExternalId? other.id).isSome →
      ∃ (outcome outcome' : Outcome) (first second both both' : World),
        process game world = (.ok outcome, first) ∧ process other first = (.ok outcome', both) ∧
        process other world = (.ok outcome', second) ∧
        process game second = (.ok outcome, both') ∧
        both.store.SameUpToOrder both'.store := by
  intro process before after applied
  refine ⟨touchesOnly_processGame valid feed scope league game,
    length_processGame valid feed scope league game, ?_⟩
  intro other healthy apart stored stored'
  cases dry : scope.dryRun with
  | true =>
    have skipped : ∀ report, process report world = (.ok .skipped, world) :=
      processGame_of_dryRun dry league
    exact ⟨_, _, _, _, _, _, skipped game, skipped other, skipped other, skipped game,
      .refl _, .refl _, rfl⟩
  | false =>
    have hprocess : ∀ (store : Store) (report : Game),
        process report (world.holding store) =
          (.ok (store.reconcile world.now world.mute league report).1,
            world.holding (store.reconcile world.now world.mute league report).2) :=
      fun store => @processGame_of_healthy (world.holding store) feed scope healthy dry league
    have hthen := hprocess (before.reconcile world.now world.mute league game).2 other
    have hthen' := hprocess (before.reconcile world.now world.mute league other).2 game
    rw [valid.outcome_reconcile_of_apart apart stored stored'] at hthen
    rw [valid.outcome_reconcile_of_apart apart.symm stored' stored] at hthen'
    exact ⟨_, _, _, _, _, _, hprocess before game, hthen, hprocess before other, hthen',
      valid.reconcile_comm apart stored stored'⟩

/-- A touchdown in one game and another opponent in the next one, each with a grid. -/
theorem touchdown_and_opponent_in_any_order :
    let game : Game :=
      { id := "401", start := .epoch, status := .inProgress
        home.team := { id := "3" }, away.team := { id := "20" } }
    let other : Game :=
      { id := "402", start := .epoch, home.team := { id := "4" }, away.team := { id := "5" } }
    let touchdown : Game := { game with home.points := { total := some 6 } }
    let opponent : Game := { other with away.team := { id := "6" } }
    let feed : Feed := fun _ _ => { answer := .error .cancelled }
    let scope : SyncScope := { leagues := [.nfl] }
    let session : List Operation :=
      [.process feed scope .nfl game, .process feed scope .nfl other,
        .putGrid { id := 1, poolId := 1, gameId := some 1 },
        .putGrid { id := 2, poolId := 1, gameId := some 2 }]
    let world : World := ({ now := .epoch } : World).after session
    let process := Sync.processGame (services feed) scope .nfl
    world.store.TouchesOnly .nfl touchdown (process touchdown world).2.store ∧
    touchdown.Apart opponent ∧
    ∃ (outcome outcome' : Outcome) (first second both both' : World),
      process touchdown world = (.ok outcome, first) ∧
      process opponent first = (.ok outcome', both) ∧
      process opponent world = (.ok outcome', second) ∧
      process touchdown second = (.ok outcome, both') ∧
      both.store.SameUpToOrder both'.store := by
  intro game other touchdown opponent feed scope session world process
  have valid : world.store.Valid := Store.Reachable.valid ⟨.epoch, session, rfl⟩
  have apart : touchdown.Apart opponent := ⟨by decide, by decide⟩
  have stored : (world.store.gameByExternalId? touchdown.id).isSome = true := by decide +kernel
  have stored' : (world.store.gameByExternalId? opponent.id).isSome = true := by decide +kernel
  have healthy : world.failing = false := by decide +kernel
  clear_value world
  obtain ⟨touches, -, commutes⟩ := games_are_reconciled_apart valid feed scope .nfl touchdown
  exact ⟨touches, apart, commutes opponent healthy apart stored stored'⟩

end World

end SquarePool
