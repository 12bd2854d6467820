import SquarePool.Proofs.Session
import SquarePool.Proofs.Sync.Settled

/-!
# Rows that stay

The tables of teams and games only grow. A row is written over in its place, and neither what it is
found by changes nor the time at which it came. Main statements: every write keeps this, and so does
a session, which also keeps every table in order.
-/

namespace SquarePool

/-- What never changes in the row of a team. -/
def TeamRow.identity (team : TeamRow) : (String × League) × Instant := (team.key, team.created)

/-- What never changes in the row of a game. -/
def GameRow.identity (game : GameRow) : Int × String × Instant :=
  (game.id, game.externalId, game.created)

namespace Store

/-- New teams and games stand after the old ones, and these have kept their identities. -/
structure GrowsInto (before after : Store) : Prop where
  teams : before.teams.map TeamRow.identity <+: after.teams.map TeamRow.identity
  games : before.games.map GameRow.identity <+: after.games.map GameRow.identity

theorem GrowsInto.trans {a b c : Store} (hab : a.GrowsInto b) (hbc : b.GrowsInto c) :
    a.GrowsInto c :=
  ⟨hab.teams.trans hbc.teams, hab.games.trans hbc.games⟩

/-- A write that concerns neither teams nor games. -/
theorem GrowsInto.of_tables {a b : Store} (hteams : b.teams = a.teams) (hgames : b.games = a.games) :
    a.GrowsInto b :=
  ⟨hteams ▸ List.prefix_refl _, hgames ▸ List.prefix_refl _⟩

variable {store : Store} {now : Instant} {mute : Bool} {league : League} {game : Game}

/-! ## One write -/

theorem growsInto_putTeam (record : TeamRecord) : store.GrowsInto (store.putTeam now record) := by
  refine ⟨?_, List.prefix_refl _⟩
  cases h : store.team? record.id record.league with
  | some old => exact map_putTeam_of_some now h TeamRow.identity rfl ▸ List.prefix_refl _
  | none =>
    rw [putTeam_teams_of_none now h, List.map_append]
    exact List.prefix_append _ _

theorem Valid.growsInto_putGame (valid : store.Valid) (record : GameRecord) :
    store.GrowsInto (store.putGame now record).2 := by
  refine ⟨?teams, ?games⟩
  case teams => exact (store.putGame_teams record) ▸ List.prefix_refl _
  case games =>
    cases h : store.gameByExternalId? record.externalId with
    | some old =>
      have hx : old.externalId = record.externalId := externalId_of_gameByExternalId? h
      have hsame : (old.overwrite record now).identity = old.identity := by
        simp only [GameRow.identity, GameRow.overwrite, GameRecord.row, hx]
      exact valid.map_putGame now h GameRow.identity hsame ▸ List.prefix_refl _
    | none =>
      rw [valid.putGame_games_of_none now h, List.map_append]
      exact List.prefix_append _ _

theorem growsInto_finalizeStale : store.GrowsInto (store.finalizeStale now).2 := by
  refine ⟨List.prefix_refl _, ?_⟩
  have hsame : (store.finalizeStale now).2.games.map GameRow.identity =
      store.games.map GameRow.identity :=
    Table.map_updateWhere _ _ _ GameRow.identity fun _ => rfl
  exact hsame ▸ List.prefix_refl _

theorem Valid.growsInto_perform (valid : store.Valid) (now : Instant) (r : Request) :
    store.GrowsInto (store.perform now r).2 :=
  perform_elim (motive := store.GrowsInto) store now r (.of_tables rfl rfl)
    (fun record _ => growsInto_putTeam record)
    (fun record _ => valid.growsInto_putGame record)
    (fun _ => growsInto_finalizeStale)
    (fun _ _ _ => .of_tables rfl rfl)
    (fun _ _ _ _ _ => .of_tables rfl rfl)
    (fun gameId _ => .of_tables (refreshGrids_teams gameId) (refreshGrids_games gameId))

theorem Valid.growsInto_keepFinal (valid : store.Valid) (old : GameRow) (record : GameRecord) :
    store.GrowsInto (store.keepFinal now old record).2 := by
  cases h : old.teamsDiffer record with
  | true =>
    have hput := @Valid.growsInto_putGame store now valid (old.toGameRecord.withTeamsOf record)
    refine hput.trans (.of_tables ?_ (keepFinal_games_of_differ h))
    rw [keepFinal_teams, putGame_teams]
  | false =>
    rw [keepFinal_of_not_differ h]
    exact .of_tables rfl rfl

theorem Valid.growsInto_applyGame (valid : store.Valid) (old : Option GameRow)
    (record : GameRecord) : store.GrowsInto (store.applyGame now mute old record).2 := by
  refine (valid.growsInto_putGame record).trans (.of_tables ?_ (applyGame_games old record))
  rw [applyGame_teams, putGame_teams]

theorem Valid.growsInto_reconcile (valid : store.Valid) :
    store.GrowsInto (store.reconcile now mute league game).2 := by
  have hteams : store.GrowsInto (store.putTeamsOf now league game) :=
    (growsInto_putTeam _).trans (growsInto_putTeam _)
  have validTeamed := valid.putTeamsOf now league game
  rcases outranks_or_not store league game with ⟨old, hold, kept⟩ | applied
  · rw [reconcile_of_outranks hold kept]
    exact hteams.trans (validTeamed.growsInto_keepFinal old _)
  · rw [reconcile_of_not_outranks applied]
    exact hteams.trans (validTeamed.growsInto_applyGame _ _)

/-! ## A session -/

/-- Valid tables stay valid and grow. -/
def KeepsRows (before after : Store) : Prop :=
  before.Valid → after.Valid ∧ before.GrowsInto after

instance : IsPreorder Store KeepsRows where
  refl _ valid := ⟨valid, .of_tables rfl rfl⟩
  trans _ _ _ hab hbc valid :=
    have hb := hab valid
    have hc := hbc hb.1
    ⟨hc.1, hb.2.trans hc.2⟩

theorem keepsRows_survives : Survives KeepsRows where
  perform _ now r _ valid := ⟨valid.perform now r, valid.growsInto_perform now r⟩
  reconcile _ now mute league game valid :=
    ⟨valid.reconcile now mute league game, valid.growsInto_reconcile⟩
  notify _ gameId valid := ⟨valid.notify gameId, .of_tables rfl rfl⟩
  putPool _ pool valid := ⟨valid.putPool pool, .of_tables rfl rfl⟩
  putGrid _ grid valid := ⟨valid.putGrid grid, .of_tables rfl rfl⟩
  putColours _ colours valid := ⟨valid.putColours colours, .of_tables rfl rfl⟩
  putNumberSet _ set valid := ⟨valid.putNumberSet set, .of_tables rfl rfl⟩

/-- **One operation** lets valid tables grow. -/
theorem Valid.growsInto_step {world : World} (valid : world.store.Valid) (op : Operation) :
    world.store.GrowsInto (world.step op).store := by
  cases op with
  | request r =>
    -- also the request that writes a game past the reconciliation
    show world.store.GrowsInto (World.request r world).2.store
    unfold World.request
    split
    · exact .of_tables rfl rfl
    · exact valid.growsInto_perform world.now r
  | _ => exact (keepsRows_survives.step world rfl valid).2

/-- **A session** lets valid tables grow from its start to its end. -/
theorem Valid.growsInto_after {world : World} (valid : world.store.Valid) (ops : List Operation) :
    world.store.GrowsInto (world.after ops).store := by
  induction ops generalizing world with
  | nil => exact .of_tables rfl rfl
  | cons op rest ih => exact (valid.growsInto_step op).trans (ih (valid.step op))

/-! ## Rows found again -/

/-- A game is found by its number as long as there is a session. -/
theorem GrowsInto.exists_game {before after : Store} (grows : before.GrowsInto after)
    (valid : after.Valid) {row : GameRow} (h : row ∈ before.games) :
    ∃ row', after.game? row.id = some row' ∧ row'.externalId = row.externalId ∧
      row'.created = row.created := by
  have hmem : row.identity ∈ after.games.map GameRow.identity :=
    grows.games.subset (List.mem_map_of_mem h)
  obtain ⟨row', hrow', same⟩ := List.mem_map.1 hmem
  simp only [GameRow.identity, Prod.mk.injEq] at same
  obtain ⟨hid, hx, hcreated⟩ := same
  refine ⟨row', ?_, hx, hcreated⟩
  rw [← hid]
  exact Table.find?_of_mem valid.gameIds_nodup hrow'

theorem GrowsInto.exists_team {before after : Store} (grows : before.GrowsInto after)
    (valid : after.Valid) {row : TeamRow} (h : row ∈ before.teams) :
    ∃ row', after.team? row.id row.league = some row' ∧ row'.created = row.created := by
  have hmem : row.identity ∈ after.teams.map TeamRow.identity :=
    grows.teams.subset (List.mem_map_of_mem h)
  obtain ⟨row', hrow', same⟩ := List.mem_map.1 hmem
  obtain ⟨hkey, hcreated⟩ := Prod.mk.inj same
  refine ⟨row', ?_, hcreated⟩
  show Table.find? TeamRow.key row.key after.teams = some row'
  rw [← hkey]
  exact Table.find?_of_mem valid.teamKeys hrow'

/-- The numbers of the games are those from one to that of the game that came last. -/
theorem Valid.isSome_game?_iff (valid : store.Valid) (id : Int) :
    (store.game? id).isSome ↔ 1 ≤ id ∧ id ≤ store.lastGameId := by
  rw [game?, Table.isSome_find?_iff, valid.gameIds, mem_numbered, valid.lastGameId]

end Store

namespace World

/-- **Tables stay in order.** At every point of a session every table has its keys: games are
numbered from one on without a gap, are found by their numbers and by their identifiers in the feed
alike, logs are numbered in order, and so on. From there to any later point no row of a game or a
team is removed: it is found by the same keys, under which it came at the same time. -/
theorem tables_stay_in_order (opening : Instant) (earlier later : List Operation) :
    let before := (({ now := opening } : World).after earlier).store
    let after := (({ now := opening } : World).after (earlier ++ later)).store
    before.Valid ∧
    (∀ id, (before.game? id).isSome ↔ 1 ≤ id ∧ id ≤ before.lastGameId) ∧
    (∀ row ∈ before.games,
      before.game? row.id = some row ∧ before.gameByExternalId? row.externalId = some row) ∧
    (∀ row ∈ before.teams, before.team? row.id row.league = some row) ∧
    (∀ row ∈ before.games, ∃ row', after.game? row.id = some row' ∧
      row'.externalId = row.externalId ∧ row'.created = row.created) ∧
    ∀ row ∈ before.teams, ∃ row', after.team? row.id row.league = some row' ∧
      row'.created = row.created := by
  intro before after
  have valid : before.Valid := Store.Valid.empty.after earlier
  have grows : before.GrowsInto after := by
    have hlater := valid.growsInto_after later
    rwa [← after_append] at hlater
  have validAfter : after.Valid := Store.Valid.empty.after (earlier ++ later)
  refine ⟨valid, valid.isSome_game?_iff, ?games, ?teams, ?gamesStay, ?teamsStay⟩
  case games =>
    intro row hrow
    exact ⟨Table.find?_of_mem valid.gameIds_nodup hrow, Table.find?_of_mem valid.externalIds hrow⟩
  case teams => exact fun row hrow => Table.find?_of_mem valid.teamKeys hrow
  case gamesStay => exact fun row hrow => grows.exists_game validAfter hrow
  case teamsStay => exact fun row hrow => grows.exists_team validAfter hrow

end World

end SquarePool
