import SquarePool.Proofs.Tables
import SquarePool.Store.Listing

/-!
# The invariant of the store

Every table has its key: games are numbered from one on in the order in which they came, each has an
identifier of its own in the feed, and so on. Main statement: every request, announcement and write
of a pool's owner keeps this. Beside it stand the effects of each write on the table of games, which
are all that later modules look at.
-/

namespace SquarePool

/-- The whole numbers from one to `n`. -/
def numbered (n : Nat) : List Int := (List.range n).map fun i : Nat => (i : Int) + 1

theorem numbered_succ (n : Nat) : numbered (n + 1) = numbered n ++ [(n : Int) + 1] := by
  simp [numbered, List.range_succ]

/-- The numbers after the first `n` go on from there. -/
theorem numbered_add (n k : Nat) :
    numbered (n + k) = numbered n ++ (List.range k).map fun i : Nat => (n : Int) + i + 1 := by
  induction k with
  | zero => simp
  | succ k ih =>
    rw [← Nat.add_assoc, numbered_succ, ih, List.range_succ, List.map_append, List.append_assoc]
    simp

theorem mem_numbered {n : Nat} {i : Int} : i ∈ numbered n ↔ 1 ≤ i ∧ i ≤ n := by
  simp only [numbered, List.mem_map, List.mem_range]
  constructor
  · rintro ⟨j, hj, rfl⟩
    omega
  · rintro ⟨h1, hn⟩
    exact ⟨(i - 1).toNat, by omega, by omega⟩

theorem nodup_numbered (n : Nat) : (numbered n).Nodup := by
  induction n with
  | zero => simp [numbered]
  | succ n ih =>
    rw [numbered_succ, List.nodup_append]
    refine ⟨ih, by simp, ?_⟩
    intro a ha b hb
    have := mem_numbered.1 ha
    rw [List.mem_singleton.1 hb]
    omega

/-- What holds of the tables of a pool at any time. Of the five tables with keys given from outside
only the keys are unique; games and logs are numbered by the store itself. -/
structure Store.Valid (store : Store) : Prop where
  teamKeys : (store.teams.map TeamRow.key).Nodup
  gameIds : store.games.map GameRow.id = numbered store.games.length
  lastGameId : store.lastGameId = store.games.length
  externalIds : (store.games.map (·.externalId)).Nodup
  logIds : store.logs.map SyncLog.id = numbered store.logs.length
  poolIds : (store.pools.map Pool.id).Nodup
  gridIds : (store.grids.map Grid.id).Nodup
  colourIds : (store.colours.map GridColours.gridId).Nodup
  setKeys : (store.numberSets.map fun set => (set.gridId, set.period)).Nodup

/-- A stored game after a record is written over it in full: it keeps its number and the time at
which it came. -/
def GameRow.overwrite (old : GameRow) (record : GameRecord) (now : Instant) : GameRow :=
  { record.row now with id := old.id, created := old.created }

/-- The row of a game that the store has not seen before. -/
def Store.nextRow (store : Store) (record : GameRecord) (now : Instant) : GameRow :=
  { record.row now with id := store.lastGameId + 1 }

namespace Store

theorem Valid.empty : Valid {} := by
  constructor <;> simp [numbered]

/-! ## Requests, one by one -/

/-- A request leaves the store alone or carries out one of six writes. -/
theorem perform_elim {motive : Store → Prop} (store : Store) (now : Instant) (r : Request)
    (reads : motive store)
    (putTeam : ∀ record, r = .putTeam record → motive (store.putTeam now record))
    (putGame : ∀ record, r = .putGame record → motive (store.putGame now record).2)
    (finalizeStale : r = .finalizeStale → motive (store.finalizeStale now).2)
    (openLog : ∀ mode league, r = .openLog mode league →
      motive (store.openLog now mode league).2)
    (closeLog : ∀ log processed success message, r = .closeLog log processed success message →
      motive (store.closeLog now log processed success message).2)
    (refreshGrids : ∀ gameId, r = .refreshGrids gameId → motive (store.refreshGrids gameId).2) :
    motive (store.perform now r).2 := by
  cases r with
  | putTeam record => exact putTeam record rfl
  | putGame record => exact putGame record rfl
  | finalizeStale => exact finalizeStale rfl
  | openLog mode league => exact openLog mode league rfl
  | closeLog log processed success message => exact closeLog log processed success message rfl
  | refreshGrids gameId => exact refreshGrids gameId rfl
  | _ => exact reads

variable {store : Store}

/-! ## The table of games -/

theorem teamsOf?_eq_some_iff {game : GameRow} {home away : TeamRow} :
    store.teamsOf? game = some (home, away) ↔
      store.team? game.homeTeamId game.league = some home ∧
        store.team? game.awayTeamId game.league = some away := by
  simp [teamsOf?, Option.bind_eq_some_iff]

/-- Grids stay as they are as long as a team of the game is not stored. -/
theorem refreshGrids_of_none {gameId : Int}
    (h : (store.game? gameId).bind store.teamsOf? = none) :
    store.refreshGrids gameId = (0, store) := by
  simp only [refreshGrids, h]

theorem refreshGrids_of_some {gameId : Int} {teams : TeamRow × TeamRow}
    (h : (store.game? gameId).bind store.teamsOf? = some teams) :
    (store.refreshGrids gameId).2 =
      { store with
        grids := Table.updateWhere (·.follows gameId) (·.withNames teams.1 teams.2) store.grids
        colours := Table.updateWhere (store.coloursFollow gameId) (·.fill teams.1 teams.2)
          store.colours } := by
  simp only [refreshGrids, h]

/-- Bringing grids up to date changes nothing but grids and their colours. -/
theorem refreshGrids_frame (gameId : Int) :
    ∃ grids colours, (store.refreshGrids gameId).2 = { store with grids, colours } := by
  cases h : (store.game? gameId).bind store.teamsOf? with
  | none => exact ⟨_, _, congrArg Prod.snd (refreshGrids_of_none h)⟩
  | some teams => exact ⟨_, _, refreshGrids_of_some h⟩

theorem refreshGrids_games (gameId : Int) :
    (store.refreshGrids gameId).2.games = store.games := by
  obtain ⟨grids, colours, h⟩ := store.refreshGrids_frame gameId
  rw [h]

theorem refreshGrids_notices (gameId : Int) :
    (store.refreshGrids gameId).2.notices = store.notices := by
  obtain ⟨grids, colours, h⟩ := store.refreshGrids_frame gameId
  rw [h]

/-- A write over a stored team. -/
theorem putTeam_of_some {record : TeamRecord} {old : TeamRow} (now : Instant)
    (h : store.team? record.id record.league = some old) :
    store.putTeam now record =
      { store with teams := Table.put TeamRow.key (old.overwrite record now) store.teams } := by
  simp only [putTeam, h]

/-- The first write of a team. -/
theorem putTeam_of_none {record : TeamRecord} (now : Instant)
    (h : store.team? record.id record.league = none) :
    store.putTeam now record =
      { store with teams := Table.put TeamRow.key (record.row now) store.teams } := by
  simp only [putTeam, h]

/-- A column of the teams stays as it is when a team is written over and does not change in it. -/
theorem map_putTeam_of_some {β : Type} {record : TeamRecord} {old : TeamRow} (now : Instant)
    (h : store.team? record.id record.league = some old) (column : TeamRow → β)
    (agree : column (old.overwrite record now) = column old) :
    (store.putTeam now record).teams.map column = store.teams.map column := by
  have hkey : old.key = (record.id, record.league) := Table.key_of_find? h
  have hfind : Table.find? TeamRow.key (old.overwrite record now).key store.teams = some old := by
    show Table.find? TeamRow.key old.key store.teams = some old
    rw [hkey]
    exact h
  rw [putTeam_of_some now h]
  exact Table.map_put_of_find? hfind column agree

/-- A new team goes to the end. -/
theorem putTeam_teams_of_none {record : TeamRecord} (now : Instant)
    (h : store.team? record.id record.league = none) :
    (store.putTeam now record).teams = store.teams ++ [record.row now] := by
  rw [putTeam_of_none now h]
  exact Table.put_of_find?_none h

/-- A write over a stored game. -/
theorem putGame_of_some {record : GameRecord} {old : GameRow} (now : Instant)
    (h : store.gameByExternalId? record.externalId = some old) :
    store.putGame now record =
      (old.overwrite record now,
        { store with games := Table.put GameRow.id (old.overwrite record now) store.games }) := by
  simp only [putGame, h]
  rfl

/-- The first write of a game. -/
theorem putGame_of_none {record : GameRecord} (now : Instant)
    (h : store.gameByExternalId? record.externalId = none) :
    store.putGame now record =
      (store.nextRow record now,
        { store with
          games := Table.put GameRow.id (store.nextRow record now) store.games
          lastGameId := store.lastGameId + 1 }) := by
  simp only [putGame, h]
  rfl

/-- Writing a game changes nothing but the table of games. -/
theorem putGame_frame (now : Instant) (record : GameRecord) :
    ∃ games lastGameId, (store.putGame now record).2 = { store with games, lastGameId } := by
  cases h : store.gameByExternalId? record.externalId with
  | some old => exact ⟨_, _, congrArg Prod.snd (putGame_of_some now h)⟩
  | none => exact ⟨_, _, congrArg Prod.snd (putGame_of_none now h)⟩

theorem putGame_notices (now : Instant) (record : GameRecord) :
    (store.putGame now record).2.notices = store.notices := by
  obtain ⟨games, lastGameId, h⟩ := store.putGame_frame now record
  rw [h]

theorem putGame_record (now : Instant) (record : GameRecord) :
    (store.putGame now record).1.toGameRecord = record := by
  cases h : store.gameByExternalId? record.externalId with
  | some old => rw [putGame_of_some now h]; rfl
  | none => rw [putGame_of_none now h]; rfl

theorem putGame_games (now : Instant) (record : GameRecord) :
    (store.putGame now record).2.games =
      Table.put GameRow.id (store.putGame now record).1 store.games := by
  cases h : store.gameByExternalId? record.externalId with
  | some old => rw [putGame_of_some now h]
  | none => rw [putGame_of_none now h]

/-- A game is found by its identifier in the feed once it is written. -/
theorem gameByExternalId?_putGame (now : Instant) (record : GameRecord) :
    (store.putGame now record).2.gameByExternalId? record.externalId =
      some (store.putGame now record).1 := by
  have hx : (store.putGame now record).1.externalId = record.externalId :=
    congrArg GameRecord.externalId (putGame_record now record)
  rw [gameByExternalId?, putGame_games, ← hx]
  refine Table.find?_put_column fun old h => ?_
  rw [hx] at h
  rw [putGame_of_some now h]
  rfl

theorem finalizeStale_games (now : Instant) :
    (store.finalizeStale now).2.games =
      Table.updateWhere (·.isStale now) (·.ended now) store.games := rfl

/-- Ending what is stale moves no game. -/
theorem gameByExternalId?_finalizeStale (now : Instant) (externalId : String) :
    (store.finalizeStale now).2.gameByExternalId? externalId =
      (store.gameByExternalId? externalId).map fun game =>
        if game.isStale now then game.ended now else game := by
  have hkept : ∀ game : GameRow, (game.ended now).externalId = game.externalId := fun _ => rfl
  rw [gameByExternalId?, finalizeStale_games]
  exact Table.find?_updateWhere _ _ _ _ hkept externalId

theorem Valid.gameIds_nodup (valid : store.Valid) : (store.games.map GameRow.id).Nodup :=
  valid.gameIds ▸ nodup_numbered _

theorem Valid.gameId_le (valid : store.Valid) {game : GameRow} (h : game ∈ store.games) :
    game.id ≤ store.lastGameId := by
  have hid : game.id ∈ numbered store.games.length := valid.gameIds ▸ List.mem_map_of_mem h
  rw [valid.lastGameId]
  exact (mem_numbered.1 hid).2

/-- The two ways of finding a game agree. -/
theorem Valid.game?_of_gameByExternalId? (valid : store.Valid) {externalId : String}
    {game : GameRow} (h : store.gameByExternalId? externalId = some game) :
    store.game? game.id = some game :=
  Table.find?_of_mem valid.gameIds_nodup (Table.mem_of_find? h)

/-- Writing a game changes no other game. -/
theorem Valid.gameByExternalId?_putGame_of_ne (valid : store.Valid) (now : Instant)
    {record : GameRecord} {externalId : String} (h : record.externalId ≠ externalId) :
    (store.putGame now record).2.gameByExternalId? externalId =
      store.gameByExternalId? externalId := by
  have hrow : (store.putGame now record).1.externalId = record.externalId :=
    congrArg GameRecord.externalId (putGame_record now record)
  rw [gameByExternalId?, putGame_games]
  refine Table.find?_put_column_of_ne (by rwa [hrow]) fun other hmem hid => ?_
  cases hold : store.gameByExternalId? record.externalId with
  | some old =>
    -- the row with this number is the one that is written over
    rw [putGame_of_some now hold] at hid
    have hother : other = old :=
      Table.eq_of_mem_of_key valid.gameIds_nodup hmem (Table.mem_of_find? hold) hid
    rw [hother, Table.key_of_find? hold]
    exact h
  | none =>
    -- no row has the next number
    rw [putGame_of_none now hold] at hid
    have hle := valid.gameId_le hmem
    have hnext : other.id = store.lastGameId + 1 := hid
    omega

/-! ## The invariant is kept -/

theorem Valid.putTeam (valid : store.Valid) (now : Instant) (record : TeamRecord) :
    (store.putTeam now record).Valid :=
  { valid with teamKeys := Table.nodup_map_put _ valid.teamKeys }

/-- A column of the games stays as it is when a game is written over and does not change in it. -/
theorem Valid.map_putGame (valid : store.Valid) (now : Instant) {β : Type} {record : GameRecord}
    {old : GameRow} (h : store.gameByExternalId? record.externalId = some old)
    (column : GameRow → β) (agree : column (old.overwrite record now) = column old) :
    (store.putGame now record).2.games.map column = store.games.map column := by
  have hfind : Table.find? GameRow.id (old.overwrite record now).id store.games = some old :=
    valid.game?_of_gameByExternalId? h
  rw [putGame_of_some now h]
  exact Table.map_put_of_find? hfind column agree

/-- A new game goes to the end. -/
theorem Valid.putGame_games_of_none (valid : store.Valid) (now : Instant) {record : GameRecord}
    (h : store.gameByExternalId? record.externalId = none) :
    (store.putGame now record).2.games = store.games ++ [store.nextRow record now] := by
  rw [putGame_of_none now h]
  refine Table.put_of_find?_none (Table.find?_eq_none_iff.2 fun game hmem hid => ?_)
  have hle := valid.gameId_le hmem
  have hnext : game.id = store.lastGameId + 1 := hid
  omega

theorem Valid.putGame (valid : store.Valid) (now : Instant) (record : GameRecord) :
    (store.putGame now record).2.Valid := by
  cases h : store.gameByExternalId? record.externalId with
  | some old =>
    have hids := valid.map_putGame now h GameRow.id rfl
    have hxs := valid.map_putGame now h (·.externalId) (Table.key_of_find? h).symm
    have hlen : (store.putGame now record).2.games.length = store.games.length := by
      simpa using congrArg List.length hids
    rw [putGame_of_some now h] at hids hxs hlen ⊢
    exact { valid with
      gameIds := by rw [hids, hlen, valid.gameIds]
      lastGameId := by rw [hlen, valid.lastGameId]
      externalIds := by rw [hxs]; exact valid.externalIds }
  | none =>
    -- the new row goes to the end, with the next number
    have hgames := valid.putGame_games_of_none now h
    have hnew : ∀ game ∈ store.games, game.externalId ≠ record.externalId :=
      Table.find?_eq_none_iff.1 h
    rw [putGame_of_none now h] at hgames ⊢
    dsimp only at hgames
    exact { valid with
      gameIds := by
        rw [hgames, List.length_append, List.length_singleton, numbered_succ, List.map_append,
          valid.gameIds, ← valid.lastGameId]
        rfl
      lastGameId := by simp [hgames, valid.lastGameId]
      externalIds := by
        rw [hgames, List.map_append, List.nodup_append]
        refine ⟨valid.externalIds, by simp, ?_⟩
        intro x hx y hy
        obtain ⟨game, hmem, rfl⟩ := List.mem_map.1 hx
        rw [List.mem_singleton.1 hy]
        exact hnew game hmem }

theorem Valid.finalizeStale (valid : store.Valid) (now : Instant) :
    (store.finalizeStale now).2.Valid := by
  have hmap : ∀ {β : Type} (column : GameRow → β),
      (∀ game, column (game.ended now) = column game) →
        (store.finalizeStale now).2.games.map column = store.games.map column :=
    fun column kept => Table.map_updateWhere _ _ _ column kept
  have hlen : (store.finalizeStale now).2.games.length = store.games.length := by
    simpa using congrArg List.length (hmap GameRow.id fun _ => rfl)
  exact { valid with
    gameIds := by rw [hmap _ fun _ => rfl, hlen, valid.gameIds]
    lastGameId := by rw [hlen]; exact valid.lastGameId
    externalIds := by rw [hmap _ fun _ => rfl]; exact valid.externalIds }

theorem Valid.openLog (valid : store.Valid) (now : Instant) (mode : SyncMode)
    (league : Option League) : (store.openLog now mode league).2.Valid :=
  { valid with
    logIds := by
      simp only [Store.openLog, List.map_append, List.length_append, List.length_singleton,
        numbered_succ, valid.logIds]
      rfl }

theorem Valid.closeLog (valid : store.Valid) (now : Instant) (log : SyncLog) (processed : Int)
    (success : Bool) (message : Option String) :
    (store.closeLog now log processed success message).2.Valid := by
  have hids : (store.closeLog now log processed success message).2.logs.map SyncLog.id =
      store.logs.map SyncLog.id := Table.map_replace ..
  have hlen : (store.closeLog now log processed success message).2.logs.length =
      store.logs.length := by
    simpa using congrArg List.length hids
  exact { valid with logIds := by rw [hids, hlen, valid.logIds] }

theorem Valid.refreshGrids (valid : store.Valid) (gameId : Int) :
    (store.refreshGrids gameId).2.Valid := by
  cases h : (store.game? gameId).bind store.teamsOf? with
  | none =>
    rw [refreshGrids_of_none h]
    exact valid
  | some teams =>
    have hgrids := Table.map_updateWhere (fun grid => grid.follows gameId)
      (fun grid => grid.withNames teams.1 teams.2) store.grids Grid.id fun _ => rfl
    have hcolours := Table.map_updateWhere (store.coloursFollow gameId)
      (fun colours => colours.fill teams.1 teams.2) store.colours GridColours.gridId fun _ => rfl
    rw [refreshGrids_of_some h]
    exact { valid with
      gridIds := hgrids ▸ valid.gridIds
      colourIds := hcolours ▸ valid.colourIds }

/-- No request breaks the invariant. -/
theorem Valid.perform (valid : store.Valid) (now : Instant) (r : Request) :
    (store.perform now r).2.Valid :=
  perform_elim (motive := Store.Valid) store now r valid
    (fun record _ => valid.putTeam now record)
    (fun record _ => valid.putGame now record)
    (fun _ => valid.finalizeStale now)
    (fun mode league _ => valid.openLog now mode league)
    (fun log processed success message _ => valid.closeLog now log processed success message)
    (fun gameId _ => valid.refreshGrids gameId)

theorem Valid.notify (valid : store.Valid) (gameId : Int) : (store.notify gameId).Valid :=
  { valid with }

theorem Valid.putPool (valid : store.Valid) (pool : Pool) : (store.putPool pool).Valid :=
  { valid with poolIds := Table.nodup_map_put _ valid.poolIds }

theorem Valid.putGrid (valid : store.Valid) (grid : Grid) : (store.putGrid grid).Valid :=
  { valid with gridIds := Table.nodup_map_put _ valid.gridIds }

theorem Valid.putColours (valid : store.Valid) (colours : GridColours) :
    (store.putColours colours).Valid :=
  { valid with colourIds := Table.nodup_map_put _ valid.colourIds }

theorem Valid.putNumberSet (valid : store.Valid) (set : NumberSet) :
    (store.putNumberSet set).Valid := by
  refine { valid with setKeys := ?_ }
  rw [Store.putNumberSet, List.map_append, List.nodup_append]
  refine ⟨valid.setKeys.sublist (List.filter_sublist.map _), by simp, ?_⟩
  intro k hk k' hk'
  obtain ⟨other, hother, rfl⟩ := List.mem_map.1 hk
  have hkept := (List.mem_filter.1 hother).2
  rw [List.mem_singleton.1 hk']
  intro same
  rw [Prod.mk.injEq] at same
  simp [same.1, same.2] at hkept

end Store

end SquarePool
