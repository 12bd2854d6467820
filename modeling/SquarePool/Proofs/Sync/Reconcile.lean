import SquarePool.Proofs.Store.Invariant
import SquarePool.Rehearsal.World
import SquarePool.Sync.Reconcile

/-!
# What reconciling a game does to a store

Reconciling a game is a walk through requests to a store that may fail at each of them. Against a
store in memory that answers, the walk has one outcome, which is a function of the store, the time
and whether announcements work. Main statements: that function is what the walk does, and of the
table of games it writes one row at most, which is known beforehand.
-/

namespace SquarePool

theorem GameRecord.teamsDiffer_iff {old new : GameRecord} :
    old.teamsDiffer new = true ↔
      old.homeTeamId ≠ new.homeTeamId ∨ old.awayTeamId ≠ new.awayTeamId := by
  simp only [teamsDiffer, Bool.or_eq_true, decide_eq_true_eq]

/-- A report that a game is over is never outranked. -/
theorem GameRow.not_outranks_of_final (old : GameRow) {record : GameRecord}
    (h : record.progress.status = .final) : old.outranks record = false := by
  simp [outranks, h, GameStatus.isFinal]

namespace Store

/-- Keeps a game that is over, and writes its teams if they changed. -/
def keepFinal (store : Store) (now : Instant) (old : GameRow) (record : GameRecord) :
    Outcome × Store :=
  if old.teamsDiffer record then
    let written := store.putGame now (old.toGameRecord.withTeamsOf record)
    let refreshed := written.2.refreshGrids written.1.id
    (.keptFinal old.id refreshed.1, refreshed.2)
  else
    (.keptFinal old.id 0, store)

/-- Announces that a game changed, if that is so. -/
def announceIf (store : Store) (changed : Bool) (gameId : Int) : Store :=
  if changed then store.notify gameId else store

/-- Brings the grids of a game up to date, if they are not. -/
def refreshIf (store : Store) (outdated : Bool) (gameId : Int) : Nat × Store :=
  if outdated then store.refreshGrids gameId else (0, store)

/-- Writes a game, announces a change of its score unless announcements fail, and brings its grids
up to date if it is new or its teams changed. -/
def applyGame (store : Store) (now : Instant) (mute : Bool) (old : Option GameRow)
    (record : GameRecord) : Outcome × Store :=
  let written := store.putGame now record
  let notified := old.any (·.scoreDiffers record) && !mute
  let announced := written.2.announceIf notified written.1.id
  let refreshed :=
    announced.refreshIf (old.all (·.teamsDiffer written.1.toGameRecord)) written.1.id
  (.applied written.1.id old.isNone notified refreshed.1, refreshed.2)

/-- Writes both teams of a game. -/
def putTeamsOf (store : Store) (now : Instant) (league : League) (game : Game) : Store :=
  (store.putTeam now (.ofFeed league game.home.team)).putTeam now (.ofFeed league game.away.team)

/-- Brings the store up to date with a game from the feed. -/
def reconcile (store : Store) (now : Instant) (mute : Bool) (league : League) (game : Game) :
    Outcome × Store :=
  let record := GameRecord.ofFeed league game
  let teamed := store.putTeamsOf now league game
  match teamed.gameByExternalId? game.id with
  | some old =>
    if old.outranks record then teamed.keepFinal now old record
    else teamed.applyGame now mute (some old) record
  | none => teamed.applyGame now mute none record

end Store

namespace Action

variable {σ ε δ α : Type} {x : Action σ ε α} {s t : σ}

theorem mapError_of_ok {a : α} (h : x s = (.ok a, t)) (f : ε → δ) :
    x.mapError f s = (.ok a, t) := by
  rw [mapError, h]
  rfl

theorem mapError_of_error {e : ε} (h : x s = (.error e, t)) (f : ε → δ) :
    x.mapError f s = (.error (f e), t) := by
  rw [mapError, h]
  rfl

end Action

namespace World

/-- The world with another store in it. -/
def holding (world : World) (store : Store) : World := { world with store }

variable {α β : Type} {world : World} {feed : Feed}

/-- With `store` in the world, the step gives `a` and leaves `next` in it; all else stays. -/
def Does (world : World) (x : Sync.Step World α) (store : Store) (a : α) (next : Store) : Prop :=
  x (world.holding store) = (.ok a, world.holding next)

theorem Does.pure (store : Store) (a : α) : world.Does (pure a) store a store := rfl

theorem Does.bind {x : Sync.Step World α} {f : α → Sync.Step World β} {s t u : Store} {a : α}
    {b : β} (hx : world.Does x s a t) (hf : world.Does (f a) t b u) :
    world.Does (x >>= f) s b u := by
  rw [Does, Action.bind_of_ok hx]
  exact hf

/-! ## The walk -/

theorem does_store (healthy : world.failing = false) (r : Request) (store : Store) :
    world.Does (Sync.store (services feed) r) store
      (store.perform world.now r).1 (store.perform world.now r).2 := by
  have hrequest : request r (world.holding store) =
      (.ok (store.perform world.now r).1, world.holding (store.perform world.now r).2) := by
    simp [request, holding, healthy]
  exact Action.mapError_of_ok hrequest SyncError.store

theorem does_announce (changed : Bool) (gameId : Int) (store : Store) :
    world.Does (Sync.announce (services feed) changed gameId) store
      (changed && !world.mute) (store.announceIf (changed && !world.mute) gameId) := by
  cases changed with
  | false => exact .pure _ _
  | true =>
    cases hm : world.mute with
    | false =>
      have hnotify : notify gameId (world.holding store) =
          (.ok (), world.holding (store.notify gameId)) := by
        simp [notify, holding, hm]
      exact Action.bind_of_ok
        (Sync.recover_of_ok (Action.mapError_of_ok hnotify SyncError.store)) _
    | true =>
      have hnotify : notify gameId (world.holding store) =
          (.error (.database (.invalidData "notification channel closed")),
            world.holding store) := by
        simp [notify, holding, hm]
      -- the failure is no stop, so the walk goes on without a notice
      exact Action.bind_of_ok
        (Sync.recover_of_failure (Action.mapError_of_error hnotify SyncError.store) rfl) _

theorem does_refreshGrids (healthy : world.failing = false) (outdated : Bool) (gameId : Int)
    (store : Store) :
    world.Does (Sync.refreshGrids (services feed) outdated gameId) store
      (store.refreshIf outdated gameId).1 (store.refreshIf outdated gameId).2 := by
  cases outdated with
  | false => exact .pure _ _
  | true =>
    show world.Does (Sync.store (services feed) (.refreshGrids gameId)) store _ _
    exact does_store healthy _ _

theorem does_keepFinal (healthy : world.failing = false) (old : GameRow) (record : GameRecord)
    (store : Store) :
    world.Does (Sync.keepFinal (services feed) old record) store
      (store.keepFinal world.now old record).1 (store.keepFinal world.now old record).2 := by
  unfold Sync.keepFinal Store.keepFinal
  by_cases h : old.teamsDiffer record = true
  · rw [if_pos h, if_pos h]
    exact (does_store healthy _ _).bind ((does_store healthy _ _).bind (.pure _ _))
  · rw [if_neg h, if_neg h]
    exact .pure _ _

theorem does_applyGame (healthy : world.failing = false) (old : Option GameRow)
    (record : GameRecord) (store : Store) :
    world.Does (Sync.applyGame (services feed) old record) store
      (store.applyGame world.now world.mute old record).1
      (store.applyGame world.now world.mute old record).2 :=
  (does_store healthy (.putGame record) store).bind <|
    (does_announce _ _ _).bind <| (does_refreshGrids healthy _ _ _).bind (.pure _ _)

variable {scope : SyncScope}

/-- **Reconciling a game** in a store that answers. -/
theorem processGame_of_healthy (healthy : world.failing = false) (live : scope.dryRun = false)
    (league : League) (game : Game) :
    Sync.processGame (services feed) scope league game world =
      (.ok (world.store.reconcile world.now world.mute league game).1,
        world.holding (world.store.reconcile world.now world.mute league game).2) := by
  unfold Sync.processGame
  rw [if_neg (by simp [live])]
  have hhome : world.Does (Sync.store (services feed) (.putTeam (.ofFeed league game.home.team)))
      world.store () (world.store.putTeam world.now (.ofFeed league game.home.team)) :=
    does_store healthy _ _
  have haway : world.Does (Sync.store (services feed) (.putTeam (.ofFeed league game.away.team)))
      (world.store.putTeam world.now (.ofFeed league game.home.team)) ()
      (world.store.putTeamsOf world.now league game) :=
    does_store healthy _ _
  refine hhome.bind (haway.bind ?_)
  unfold Store.reconcile
  dsimp only
  generalize world.store.putTeamsOf world.now league game = teamed
  have hread : world.Does (Sync.store (services feed) (.gameByExternalId game.id)) teamed
      (teamed.gameByExternalId? game.id) teamed :=
    does_store healthy _ _
  refine hread.bind ?_
  cases teamed.gameByExternalId? game.id with
  | none => exact does_applyGame healthy none _ _
  | some old =>
    by_cases h : old.outranks (.ofFeed league game) = true
    · simp only [h, if_true]
      exact does_keepFinal healthy old _ _
    · simp only [h]
      exact does_applyGame healthy (some old) _ _

theorem processGame_eq_of_failing (failing : world.failing = true) (live : scope.dryRun = false)
    (league : League) (game : Game) :
    Sync.processGame (services feed) scope league game world =
      (.error (.store (.database (.invalidData "forced memory store error"))), world) := by
  have hput : Sync.store (services feed) (.putTeam (.ofFeed league game.home.team)) world =
      (.error (.store (.database (.invalidData "forced memory store error"))), world) :=
    Action.mapError_of_error (request_of_failing failing _) SyncError.store
  unfold Sync.processGame
  rw [if_neg (by simp [live]), Action.bind_of_error hput]

theorem processGame_of_dryRun (dry : scope.dryRun = true) (league : League) (game : Game) :
    Sync.processGame (services feed) scope league game world = (.ok .skipped, world) := by
  unfold Sync.processGame
  rw [if_pos dry]
  rfl

/-- A store that fails is left alone. -/
theorem processGame_of_failing (failing : world.failing = true) (league : League) (game : Game) :
    (Sync.processGame (services feed) scope league game world).2 = world := by
  cases dry : scope.dryRun with
  | true => rw [processGame_of_dryRun dry]
  | false => rw [processGame_eq_of_failing failing dry]

/-- Whatever the scope and the faults, the world stays as it is or its store is reconciled. -/
theorem processGame_leaves (world : World) (feed : Feed) (scope : SyncScope) (league : League)
    (game : Game) :
    (Sync.processGame (services feed) scope league game world).2 = world ∨
      (Sync.processGame (services feed) scope league game world).2 =
        world.holding (world.store.reconcile world.now world.mute league game).2 := by
  cases dry : scope.dryRun with
  | true => exact .inl (by rw [processGame_of_dryRun dry])
  | false =>
    cases failing : world.failing with
    | true => exact .inl (processGame_of_failing failing league game)
    | false => exact .inr (by rw [processGame_of_healthy failing dry])

end World

/-! ## The effect -/

namespace Store

variable {store : Store} {now : Instant} {mute : Bool} {league : League} {game : Game}

/-- Writing teams touches no game. -/
theorem putTeamsOf_putGame (record : GameRecord) :
    ((store.putTeamsOf now league game).putGame now record).1 = (store.putGame now record).1 ∧
      ((store.putTeamsOf now league game).putGame now record).2.games =
        (store.putGame now record).2.games := by
  have hfind : (store.putTeamsOf now league game).gameByExternalId? record.externalId =
      store.gameByExternalId? record.externalId := rfl
  cases h : store.gameByExternalId? record.externalId with
  | some old =>
    rw [putGame_of_some now h, putGame_of_some now (hfind.trans h)]
    exact ⟨rfl, rfl⟩
  | none =>
    rw [putGame_of_none now h, putGame_of_none now (hfind.trans h)]
    exact ⟨rfl, rfl⟩

theorem announceIf_games (changed : Bool) (gameId : Int) :
    (store.announceIf changed gameId).games = store.games := by
  cases changed <;> rfl

theorem announceIf_notices (changed : Bool) (gameId : Int) :
    (store.announceIf changed gameId).notices =
      if changed then store.notices ++ [gameId] else store.notices := by
  cases changed <;> rfl

theorem refreshIf_games (outdated : Bool) (gameId : Int) :
    (store.refreshIf outdated gameId).2.games = store.games := by
  cases outdated with
  | true => exact refreshGrids_games gameId
  | false => rfl

theorem refreshIf_notices (outdated : Bool) (gameId : Int) :
    (store.refreshIf outdated gameId).2.notices = store.notices := by
  cases outdated with
  | true => exact refreshGrids_notices gameId
  | false => rfl

theorem reconcile_of_outranks {old : GameRow} (h : store.gameByExternalId? game.id = some old)
    (kept : old.outranks (.ofFeed league game) = true) :
    store.reconcile now mute league game =
      (store.putTeamsOf now league game).keepFinal now old (.ofFeed league game) := by
  have h' : (store.putTeamsOf now league game).gameByExternalId? game.id = some old := h
  simp only [reconcile, h', kept, if_true]

theorem reconcile_of_not_outranks
    (h : ∀ old, store.gameByExternalId? game.id = some old →
      old.outranks (.ofFeed league game) = false) :
    store.reconcile now mute league game =
      (store.putTeamsOf now league game).applyGame now mute (store.gameByExternalId? game.id)
        (.ofFeed league game) := by
  have h' : (store.putTeamsOf now league game).gameByExternalId? game.id =
      store.gameByExternalId? game.id := rfl
  cases hold : store.gameByExternalId? game.id with
  | none => simp only [reconcile, h', hold]
  | some old => simp only [reconcile, h', hold, h old hold, Bool.false_eq_true, if_false]

theorem keepFinal_notices (old : GameRow) (record : GameRecord) :
    (store.keepFinal now old record).2.notices = store.notices := by
  unfold keepFinal
  split
  · rw [refreshGrids_notices, putGame_notices]
  · rfl

theorem keepFinal_games_of_differ {old : GameRow} {record : GameRecord}
    (h : old.teamsDiffer record = true) :
    (store.keepFinal now old record).2.games =
      (store.putGame now (old.toGameRecord.withTeamsOf record)).2.games := by
  rw [keepFinal, if_pos h]
  exact refreshGrids_games _

theorem keepFinal_of_not_differ {old : GameRow} {record : GameRecord}
    (h : old.teamsDiffer record = false) :
    store.keepFinal now old record = (.keptFinal old.id 0, store) := by
  rw [keepFinal, if_neg (by simp [h])]

theorem keepFinal_outcome (old : GameRow) (record : GameRecord) :
    ∃ grids, (store.keepFinal now old record).1 = .keptFinal old.id grids := by
  unfold keepFinal
  split <;> exact ⟨_, rfl⟩

theorem applyGame_games (old : Option GameRow) (record : GameRecord) :
    (store.applyGame now mute old record).2.games = (store.putGame now record).2.games := by
  simp only [applyGame, refreshIf_games, announceIf_games]

theorem applyGame_notices (old : Option GameRow) (record : GameRecord) :
    (store.applyGame now mute old record).2.notices =
      if old.any (·.scoreDiffers record) && !mute then
        store.notices ++ [(store.putGame now record).1.id]
      else store.notices := by
  simp only [applyGame, refreshIf_notices, announceIf_notices, putGame_notices]

theorem applyGame_outcome (old : Option GameRow) (record : GameRecord) :
    ∃ grids, (store.applyGame now mute old record).1 =
      .applied (store.putGame now record).1.id old.isNone
        (old.any (·.scoreDiffers record) && !mute) grids := ⟨_, rfl⟩

/-! ## The invariant -/

theorem Valid.putTeamsOf (valid : store.Valid) (now : Instant) (league : League) (game : Game) :
    (store.putTeamsOf now league game).Valid :=
  (valid.putTeam now _).putTeam now _

theorem Valid.keepFinal (valid : store.Valid) (now : Instant) (old : GameRow)
    (record : GameRecord) : (store.keepFinal now old record).2.Valid := by
  unfold Store.keepFinal
  split
  · exact (valid.putGame now _).refreshGrids _
  · exact valid

theorem Valid.announceIf (valid : store.Valid) (changed : Bool) (gameId : Int) :
    (store.announceIf changed gameId).Valid := by
  cases changed with
  | true => exact valid.notify gameId
  | false => exact valid

theorem Valid.refreshIf (valid : store.Valid) (outdated : Bool) (gameId : Int) :
    (store.refreshIf outdated gameId).2.Valid := by
  cases outdated with
  | true => exact valid.refreshGrids gameId
  | false => exact valid

theorem Valid.applyGame (valid : store.Valid) (now : Instant) (mute : Bool)
    (old : Option GameRow) (record : GameRecord) :
    (store.applyGame now mute old record).2.Valid :=
  ((valid.putGame now record).announceIf _ _).refreshIf _ _

theorem Valid.reconcile (valid : store.Valid) (now : Instant) (mute : Bool) (league : League)
    (game : Game) : (store.reconcile now mute league game).2.Valid := by
  have hteams := valid.putTeamsOf now league game
  simp only [Store.reconcile]
  split
  · split
    · exact hteams.keepFinal now _ _
    · exact hteams.applyGame now mute _ _
  · exact hteams.applyGame now mute _ _

/-! ## The row of a game -/

theorem gameByExternalId?_of_games {a b : Store} (h : a.games = b.games) (externalId : String) :
    a.gameByExternalId? externalId = b.gameByExternalId? externalId := by
  rw [gameByExternalId?, gameByExternalId?, h]

theorem externalId_of_gameByExternalId? {externalId : String} {row : GameRow}
    (h : store.gameByExternalId? externalId = some row) : row.externalId = externalId :=
  @Table.key_of_find? _ _ _ (fun row : GameRow => row.externalId) _ _ _ h

/-- A stored game is final and the feed says otherwise, or there is none such. -/
theorem outranks_or_not (store : Store) (league : League) (game : Game) :
    (∃ old, store.gameByExternalId? game.id = some old ∧
      old.outranks (.ofFeed league game) = true) ∨
      ∀ old, store.gameByExternalId? game.id = some old →
        old.outranks (.ofFeed league game) = false := by
  cases h : store.gameByExternalId? game.id with
  | none => exact .inr fun old hold => nomatch hold
  | some row =>
    cases kept : row.outranks (.ofFeed league game) with
    | true => exact .inl ⟨row, rfl, kept⟩
    | false => exact .inr fun old hold => Option.some.inj hold ▸ kept

/-- The stored game is the only one that could outrank a report. -/
theorem not_outranks_of_some {externalId : String} {old : GameRow} {record : GameRecord}
    (h : store.gameByExternalId? externalId = some old) (applied : old.outranks record = false) :
    ∀ row, store.gameByExternalId? externalId = some row → row.outranks record = false := by
  intro row hrow
  rwa [← Option.some.inj (h.symm.trans hrow)]

/-- A final game of which the feed says that it is not over keeps its row, up to its teams. -/
theorem row_of_outranks {old : GameRow} (h : store.gameByExternalId? game.id = some old)
    (kept : old.outranks (.ofFeed league game) = true) :
    (store.reconcile now mute league game).2.gameByExternalId? game.id =
      some (if old.teamsDiffer (.ofFeed league game) then
        { old with
          homeTeamId := game.home.team.id
          awayTeamId := game.away.team.id
          modified := now
          synced := now }
      else old) := by
  have hx : old.externalId = game.id := externalId_of_gameByExternalId? h
  rw [reconcile_of_outranks h kept]
  cases hd : old.teamsDiffer (.ofFeed league game) with
  | true =>
    -- the record that is written has the identifier of the row that is kept
    have hold : (store.putTeamsOf now league game).gameByExternalId?
        (old.toGameRecord.withTeamsOf (.ofFeed league game)).externalId = some old := by
      rw [← h, ← hx]
      rfl
    have hput := @gameByExternalId?_putGame (store.putTeamsOf now league game) now
      (old.toGameRecord.withTeamsOf (.ofFeed league game))
    rw [gameByExternalId?_of_games (keepFinal_games_of_differ hd), ← hx]
    rw [putGame_of_some now hold] at hput ⊢
    exact hput
  | false =>
    rw [keepFinal_of_not_differ hd]
    exact h

/-- Any other game gets the row of its record. -/
theorem row_of_not_outranks
    (h : ∀ old, store.gameByExternalId? game.id = some old →
      old.outranks (.ofFeed league game) = false) :
    (store.reconcile now mute league game).2.gameByExternalId? game.id =
      some (store.putGame now (.ofFeed league game)).1 := by
  rw [reconcile_of_not_outranks h,
    gameByExternalId?_of_games ((applyGame_games _ _).trans (putTeamsOf_putGame _).2)]
  exact gameByExternalId?_putGame now (.ofFeed league game)

/-- No other game is touched. -/
theorem Valid.row_of_ne (valid : store.Valid) {externalId : String} (h : game.id ≠ externalId) :
    (store.reconcile now mute league game).2.gameByExternalId? externalId =
      store.gameByExternalId? externalId := by
  have hteams := valid.putTeamsOf now league game
  rcases outranks_or_not store league game with ⟨old, hold, kept⟩ | hnone
  · have hx : old.externalId ≠ externalId := by
      rwa [externalId_of_gameByExternalId? hold]
    rw [reconcile_of_outranks hold kept]
    cases hd : old.teamsDiffer (.ofFeed league game) with
    | true =>
      rw [gameByExternalId?_of_games (keepFinal_games_of_differ hd)]
      exact hteams.gameByExternalId?_putGame_of_ne now hx
    | false =>
      rw [keepFinal_of_not_differ hd]
      rfl
  · rw [reconcile_of_not_outranks hnone, gameByExternalId?_of_games (applyGame_games _ _)]
    exact hteams.gameByExternalId?_putGame_of_ne now h

end Store

end SquarePool
