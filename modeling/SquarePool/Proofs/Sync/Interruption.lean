import SquarePool.Proofs.Session
import SquarePool.Proofs.Store.Timeless
import SquarePool.Proofs.Sync.Settled

/-!
# Interruptions

Reconciling a game is a walk through several requests without a transaction around them. When the
store refuses one of them, what went before stays done, and the game is reconciled again later. Main
statement: the second walk brings the store to where an unbroken one would have brought it, unless
it was the grids that were refused. Those stay as they were, because the game in the store is by
then the one that is reported, and grids are brought up to date only if its teams change.
-/

namespace SquarePool

namespace Store

variable {store : Store} {now : Instant} {mute : Bool} {league : League} {game : Game}

/-! ## Halfway -/

/-- The store with the grids and colours of another one. -/
def withGridsOf (store other : Store) : Store :=
  { store with grids := other.grids, colours := other.colours }

/-- The two stores have the same grids and colours. -/
structure SameGrids (a b : Store) : Prop where
  grids : b.grids = a.grids
  colours : b.colours = a.colours

theorem sameGrids_putGame (record : GameRecord) :
    store.SameGrids (store.putGame now record).2 := by
  obtain ⟨games, lastGameId, h⟩ := store.putGame_frame now record
  rw [h]
  exact ⟨rfl, rfl⟩

theorem SameGrids.announceIf {other : Store} (same : other.SameGrids store) (changed : Bool)
    (gameId : Int) : other.SameGrids (store.announceIf changed gameId) := by
  cases changed <;> exact ⟨same.grids, same.colours⟩

/-- With the grids from before, nothing is left of bringing them up to date. -/
theorem SameGrids.refreshGrids_withGridsOf {other : Store} (same : other.SameGrids store)
    (gameId : Int) : (store.refreshGrids gameId).2.withGridsOf other = store := by
  obtain ⟨grids, colours, h⟩ := store.refreshGrids_frame gameId
  rw [h, withGridsOf, ← same.grids, ← same.colours]

theorem SameGrids.refreshIf_withGridsOf {other : Store} (same : other.SameGrids store)
    (outdated : Bool) (gameId : Int) :
    (store.refreshIf outdated gameId).2.withGridsOf other = store := by
  cases outdated with
  | true => exact same.refreshGrids_withGridsOf gameId
  | false =>
    show store.withGridsOf other = store
    rw [withGridsOf, ← same.grids, ← same.colours]

end Store

/-- The request brings grids up to date. -/
def Request.refreshesGrids : Request → Bool
  | .refreshGrids _ => true
  | _ => false

/-- What is in the store when a request is refused while a game is reconciled: some of the teams are
written, or all is done but the grids. -/
inductive Store.HalfDone (store : Store) (now : Instant) (mute : Bool) (league : League)
    (game : Game) : Request → Store → Prop where
  | untouched {r : Request} (h : r.refreshesGrids = false) :
    HalfDone store now mute league game r store
  | oneTeam {r : Request} (h : r.refreshesGrids = false) :
    HalfDone store now mute league game r (store.putTeam now (.ofFeed league game.home.team))
  | bothTeams {r : Request} (h : r.refreshesGrids = false) :
    HalfDone store now mute league game r (store.putTeamsOf now league game)
  | allButGrids (gameId : Int) :
    HalfDone store now mute league game (.refreshGrids gameId)
      ((store.reconcile now mute league game).2.withGridsOf store)

/-! ## The second walk -/

namespace Store

variable {store : Store} {now : Instant} {mute : Bool} {league : League} {game : Game}

/-- What is in the store matters to a game only once its teams are written. -/
theorem reconcile_congr {a b : Store}
    (h : a.putTeamsOf now league game = b.putTeamsOf now league game) :
    a.reconcile now mute league game = b.reconcile now mute league game := by
  simp only [reconcile, h]

theorem Settled.withGridsOf (settled : store.Settled now league game) (other : Store) :
    (store.withGridsOf other).Settled now league game :=
  ⟨settled.teams, settled.row⟩

/-- What is half done is completed by reconciling the game again, but for the grids. -/
theorem HalfDone.timeless_reconcile {r : Request} {half : Store}
    (halfDone : store.HalfDone now mute league game r half) (later : Instant) (mute' : Bool) :
    (half.reconcile later mute' league game).2.timeless =
      if r.refreshesGrids then (store.reconcile now mute league game).2.timeless.withGridsOf store
      else (store.reconcile now mute league game).2.timeless := by
  cases halfDone with
  | untouched h =>
    rw [h, if_neg (by simp), Store.timeless_reconcile, Store.timeless_reconcile]
  | oneTeam h =>
    rw [h, if_neg (by simp), Store.timeless_reconcile, Store.timeless_reconcile, timeless_putTeam,
      reconcile_congr putTeamsOf_putTeam]
  | bothTeams h =>
    rw [h, if_neg (by simp), Store.timeless_reconcile, Store.timeless_reconcile,
      timeless_putTeamsOf, reconcile_congr putTeamsOf_putTeamsOf]
  | allButGrids gameId =>
    -- the game is settled, so that its grids are not looked at again
    have settled := (@settled_reconcile store.timeless .epoch true league game).withGridsOf store
    rw [← @Store.timeless_reconcile store now mute league game] at settled
    have grids : (Request.refreshGrids gameId).refreshesGrids = true := rfl
    rw [if_pos grids, Store.timeless_reconcile]
    exact settled.reconcile

end Store

/-! ## The broken walk -/

/-- A world in which the store refuses one of the requests made to it. -/
structure Interrupted where
  world : World
  /-- How many requests were made. -/
  sent : Nat := 0
  /-- The one that was refused. -/
  refused : Option Request := none

namespace Interrupted

variable {α β : Type} {world : World} {feed : Feed} {due : Nat} {cause : StoreError}

/-- Asks the store, which refuses the request that comes after `due` others and is not changed by
it. -/
def request (due : Nat) (cause : StoreError) (r : Request) :
    Action Interrupted StoreError r.Answer := fun s =>
  if s.sent = due then
    (.error cause, { s with sent := s.sent + 1, refused := some r })
  else
    let (answer, world) := World.request r s.world
    (answer, { s with world, sent := s.sent + 1 })

/-- The services of a world whose store refuses a request. -/
def services (feed : Feed) (due : Nat) (cause : StoreError) : Services Interrupted where
  ask q := (World.ask feed q).within Interrupted.world fun s world => { s with world }
  store := request due cause
  notify gameId := (World.notify gameId).within Interrupted.world fun s world => { s with world }
  now s := s.world.now
  isStopped s := s.world.stopped

/-- With `store` in the world, the step gives `a` and leaves `next` in it, or else a request is
refused and ends it, at a point that `halts` describes. -/
def Walks (world : World) (cause : StoreError) (halts : Request → Store → Prop)
    (x : Sync.Step Interrupted α) (store : Store) (a : α) (next : Store) : Prop :=
  ∀ sent, ∃ sent',
    x { world := world.holding store, sent } =
        (.ok a, { world := world.holding next, sent := sent' }) ∨
      ∃ r half, halts r half ∧
        x { world := world.holding store, sent } =
          (.error (.store cause),
            { world := world.holding half, sent := sent', refused := some r })

variable {halts : Request → Store → Prop}

theorem Walks.pure (store : Store) (a : α) : Walks world cause halts (pure a) store a store :=
  fun sent => ⟨sent, .inl rfl⟩

theorem Walks.bind {x : Sync.Step Interrupted α} {f : α → Sync.Step Interrupted β} {s t u : Store}
    {a : α} {b : β} (hx : Walks world cause halts x s a t)
    (hf : Walks world cause halts (f a) t b u) : Walks world cause halts (x >>= f) s b u := by
  intro sent
  obtain ⟨sent', hdone | ⟨r, half, hhalt, hrefused⟩⟩ := hx sent
  · obtain ⟨sent'', h⟩ := hf sent'
    rw [Action.bind_of_ok hdone]
    exact ⟨sent'', h⟩
  · rw [Action.bind_of_error hrefused]
    exact ⟨sent', .inr ⟨r, half, hhalt, rfl⟩⟩

theorem walks_store (healthy : world.failing = false) (r : Request) {store : Store}
    (hhalt : halts r store) :
    Walks world cause halts (Sync.store (services feed due cause) r) store
      (store.perform world.now r).1 (store.perform world.now r).2 := by
  intro sent
  refine ⟨sent + 1, ?_⟩
  by_cases h : sent = due
  · have hrequest : request due cause r { world := world.holding store, sent } =
        (.error cause, { world := world.holding store, sent := sent + 1, refused := some r }) := by
      simp [request, h]
    exact .inr ⟨r, store, hhalt, Action.mapError_of_error hrequest SyncError.store⟩
  · have hrequest : request due cause r { world := world.holding store, sent } =
        (.ok (store.perform world.now r).1,
          { world := world.holding (store.perform world.now r).2, sent := sent + 1 }) := by
      simp [request, World.request, World.holding, healthy, h]
    exact .inl (Action.mapError_of_ok hrequest SyncError.store)

/-- An announcement is made as in the world itself. -/
theorem announce_apply (changed : Bool) (gameId : Int) (s : Interrupted) :
    Sync.announce (services feed due cause) changed gameId s =
      ((Sync.announce (World.services feed) changed gameId s.world).1,
        { s with world := (Sync.announce (World.services feed) changed gameId s.world).2 }) := by
  cases changed with
  | false => rfl
  | true =>
    simp only [Sync.announce, if_true, Action.bind_apply, Sync.recover, Action.mapError, services,
      World.services, Action.within]
    rcases World.notify gameId s.world with ⟨failure | sent, world⟩
    · cases failure <;> rfl
    · rfl

theorem walks_announce (changed : Bool) (gameId : Int) (store : Store) :
    Walks world cause halts (Sync.announce (services feed due cause) changed gameId) store
      (changed && !world.mute) (store.announceIf (changed && !world.mute) gameId) := by
  intro sent
  have h : Sync.announce (World.services feed) changed gameId (world.holding store) = _ :=
    World.does_announce changed gameId store
  refine ⟨sent, .inl ?_⟩
  rw [announce_apply, h]

theorem walks_refreshGrids (healthy : world.failing = false) (outdated : Bool) (gameId : Int)
    {store : Store} (grids : halts (.refreshGrids gameId) store) :
    Walks world cause halts (Sync.refreshGrids (services feed due cause) outdated gameId) store
      (store.refreshIf outdated gameId).1 (store.refreshIf outdated gameId).2 := by
  cases outdated with
  | false => exact .pure _ _
  | true =>
    show Walks world cause halts (Sync.store (services feed due cause) _) store _ _
    exact walks_store healthy (.refreshGrids gameId) grids

theorem walks_keepFinal (healthy : world.failing = false) (old : GameRow) (record : GameRecord)
    {store : Store} (write : ∀ record, halts (.putGame record) store)
    (grids : ∀ gameId,
      halts (.refreshGrids gameId) ((store.keepFinal world.now old record).2.withGridsOf store)) :
    Walks world cause halts (Sync.keepFinal (services feed due cause) old record) store
      (store.keepFinal world.now old record).1 (store.keepFinal world.now old record).2 := by
  unfold Sync.keepFinal
  by_cases h : old.teamsDiffer record = true
  · rw [Store.keepFinal, if_pos h] at grids ⊢
    rw [if_pos h]
    have same : store.SameGrids
        (store.putGame world.now (old.toGameRecord.withTeamsOf record)).2 :=
      Store.sameGrids_putGame _
    refine (walks_store healthy _ (write _)).bind ((walks_store healthy _ ?_).bind (.pure _ _))
    exact same.refreshGrids_withGridsOf _ ▸ grids _
  · rw [Store.keepFinal, if_neg h, if_neg h]
    exact .pure _ _

theorem walks_applyGame (healthy : world.failing = false) (old : Option GameRow)
    (record : GameRecord) {store : Store} (write : halts (.putGame record) store)
    (grids : ∀ gameId, halts (.refreshGrids gameId)
      ((store.applyGame world.now world.mute old record).2.withGridsOf store)) :
    Walks world cause halts (Sync.applyGame (services feed due cause) old record) store
      (store.applyGame world.now world.mute old record).1
      (store.applyGame world.now world.mute old record).2 := by
  have same : store.SameGrids (store.putGame world.now record).2 := Store.sameGrids_putGame _
  have announced := same.announceIf (old.any (·.scoreDiffers record) && !world.mute)
    (store.putGame world.now record).1.id
  refine (walks_store healthy (.putGame record) write).bind <| (walks_announce _ _ _).bind <|
    (walks_refreshGrids healthy _ _ ?_).bind (.pure _ _)
  exact announced.refreshIf_withGridsOf _ _ ▸ grids _

/-- **The broken walk** reconciles the game, or leaves it half done. -/
theorem walks_processGame (healthy : world.failing = false) {scope : SyncScope}
    (live : scope.dryRun = false) (league : League) (game : Game) :
    Walks world cause (world.store.HalfDone world.now world.mute league game)
      (Sync.processGame (services feed due cause) scope league game) world.store
      (world.store.reconcile world.now world.mute league game).1
      (world.store.reconcile world.now world.mute league game).2 := by
  let halts := world.store.HalfDone world.now world.mute league game
  let teamed := world.store.putTeamsOf world.now league game
  let asks := Sync.store (services feed due cause)
  have hhome : Walks world cause halts (asks (.putTeam (.ofFeed league game.home.team)))
      world.store () (world.store.putTeam world.now (.ofFeed league game.home.team)) :=
    walks_store healthy _ (.untouched rfl)
  have haway : Walks world cause halts (asks (.putTeam (.ofFeed league game.away.team)))
      (world.store.putTeam world.now (.ofFeed league game.home.team)) () teamed :=
    walks_store healthy _ (.oneTeam rfl)
  have hread : Walks world cause halts (asks (.gameByExternalId game.id)) teamed
      (world.store.gameByExternalId? game.id) teamed :=
    walks_store healthy _ (.bothTeams rfl)
  have grids := @Store.HalfDone.allButGrids world.store world.now world.mute league game
  unfold Sync.processGame
  rw [if_neg (by simp [live])]
  refine hhome.bind (haway.bind (hread.bind ?_))
  rcases Store.outranks_or_not world.store league game with ⟨old, hold, kept⟩ | applied
  · rw [Store.reconcile_of_outranks hold kept] at grids ⊢
    simp only [hold, kept, if_true]
    exact walks_keepFinal healthy old _ (fun _ => .bothTeams rfl) grids
  · rw [Store.reconcile_of_not_outranks applied] at grids ⊢
    have happly : Walks world cause halts (Sync.applyGame (services feed due cause) _ _) teamed
        _ _ := walks_applyGame healthy _ _ (.bothTeams rfl) grids
    cases hold : world.store.gameByExternalId? game.id with
    | none =>
      rw [hold] at happly
      exact happly
    | some old =>
      rw [hold] at happly
      simp only [applied old hold]
      exact happly

end Interrupted

namespace World

/-- **A second walk repairs all but the grids.** When the store refuses one of the requests that
reconcile a game, the walk fails. Reconciling the game again at any later time leaves, up to times,
what an unbroken walk would have left; but if it was the grids that were refused, grids and colours
stay as they were before. -/
theorem second_walk_repairs_all_but_grids {world : World} (healthy : world.failing = false)
    {scope : SyncScope} (live : scope.dryRun = false) (feed : Feed) (league : League) (game : Game)
    (due : Nat) (cause : StoreError) {r : Request}
    (refused : (Sync.processGame (Interrupted.services feed due cause) scope league game
      { world }).2.refused = some r) (later : Instant) (mute : Bool) :
    ∃ broken outcome repaired outcome' single,
      Sync.processGame (Interrupted.services feed due cause) scope league game { world } =
        (.error (.store cause), broken) ∧
      Sync.processGame (services feed) scope league game
        { broken.world with now := later, mute } = (.ok outcome, repaired) ∧
      Sync.processGame (services feed) scope league game world = (.ok outcome', single) ∧
      repaired.store.timeless =
        if r.refreshesGrids then single.store.timeless.withGridsOf world.store
        else single.store.timeless := by
  obtain ⟨sent, hdone | ⟨r', half, halfDone, hrefused⟩⟩ :=
    @Interrupted.walks_processGame world feed due cause healthy scope live league game 0
  · have hwalk : Sync.processGame (Interrupted.services feed due cause) scope league game
      { world } = _ := hdone
    rw [hwalk] at refused
    exact nomatch refused
  · have hwalk : Sync.processGame (Interrupted.services feed due cause) scope league game
      { world } = _ := hrefused
    rw [hwalk] at refused
    obtain rfl := Option.some.inj refused
    have hsecond := @processGame_of_healthy { world.holding half with now := later, mute } feed
      scope healthy live league game
    refine ⟨_, _, _, _, _, hwalk, hsecond, processGame_of_healthy healthy live league game, ?_⟩
    exact halfDone.timeless_reconcile later mute

/-- The second team of a new game is refused, and the game is stored an hour later. -/
theorem second_walk_stores_a_refused_team :
    let home : Side := { team := { id := "12", fullName := "Kansas City Chiefs" } }
    let away : Side := { team := { id := "8", fullName := "Detroit Lions" } }
    let game : Game := { id := "401", start := .epoch, home, away }
    let feed : Feed := fun _ _ => { answer := .error .cancelled }
    let scope : SyncScope := { leagues := [.nfl] }
    let cause : StoreError := .database (.refused "deadlock detected")
    let world : World := { now := .epoch }
    ∃ broken outcome repaired outcome' single,
      Sync.processGame (Interrupted.services feed 1 cause) scope .nfl game { world } =
        (.error (.store cause), broken) ∧
      Sync.processGame (services feed) scope .nfl game
        { broken.world with now := Instant.epoch.addSeconds 3600, mute := false } =
          (.ok outcome, repaired) ∧
      Sync.processGame (services feed) scope .nfl game world = (.ok outcome', single) ∧
      repaired.store.timeless = single.store.timeless := by
  intro home away game feed scope cause world
  exact second_walk_repairs_all_but_grids rfl rfl feed .nfl game 1 cause
    (r := .putTeam (.ofFeed .nfl game.away.team)) rfl (Instant.epoch.addSeconds 3600) false

/-- The teams of a game were swapped, and its grid was refused. It keeps the old names after the
second walk, where an unbroken one gives it the new ones. -/
theorem second_walk_leaves_a_refused_grid :
    let chiefs : Side := { team := { id := "12", fullName := "Kansas City Chiefs" } }
    let lions : Side := { team := { id := "8", fullName := "Detroit Lions" } }
    let announced : Game := { id := "401", start := .epoch, home := chiefs, away := lions }
    let swapped : Game := { id := "401", start := .epoch, home := lions, away := chiefs }
    let feed : Feed := fun _ _ => { answer := .error .cancelled }
    let scope : SyncScope := { leagues := [.nfl] }
    let cause : StoreError := .database (.refused "deadlock detected")
    let session : List Operation :=
      [.putPool { id := 1 }, .putGrid { id := 10, poolId := 1, gameId := some 1 },
        .process feed scope .nfl announced]
    let world : World := ({ now := .epoch } : World).after session
    let broken : Interrupted :=
      (Sync.processGame (Interrupted.services feed 4 cause) scope .nfl swapped { world }).2
    let second := Sync.processGame (services feed) scope .nfl swapped broken.world
    let single := Sync.processGame (services feed) scope .nfl swapped world
    broken.refused = some (.refreshGrids 1) ∧
      second.1 = .ok (.applied 1 false false 0) ∧
      second.2.store.grids.map (·.homeTeamName) = [some "Kansas City Chiefs"] ∧
      single.2.store.grids.map (·.homeTeamName) = [some "Detroit Lions"] := by
  refine ⟨?refused, ?second, ?kept, ?renamed⟩
  all_goals rfl

end World

end SquarePool
