import SquarePool.Proofs.Session
import SquarePool.Proofs.Sync.Notices

/-!
# Lost notices

An announcement that fails is not made up for. By then the row is written, so whoever looks for a
change the next time compares the report with itself. Main statement: after a change whose
announcement failed, the game is not announced as long as the feed reports it as it did, however
often that is and whatever happens to other games.
-/

namespace SquarePool

/-- The operation has nothing new about a game: where the game is reported, its score display is
that of the earlier report. A run may bring anything, and so may a write past the reconciliation. -/
def Operation.HasNothingNew (game : Game) (gameId : Int) : Operation → Prop
  | .process _ _ _ reported => reported.id = game.id → reported.progress = game.progress
  | .run .. => False
  | .request r => r.writesGame = false ∧ r ≠ .finalizeStale
  | .notify other => other ≠ gameId
  | _ => True

namespace Store

variable {store : Store} {now : Instant} {mute : Bool} {league : League} {game : Game}
  {externalId : String} {gameId : Int} {progress : Progress}

/-- The game has a row with this number, and this is its score display. -/
def Shows (store : Store) (externalId : String) (gameId : Int) (progress : Progress) : Prop :=
  ∃ row, store.gameByExternalId? externalId = some row ∧ row.id = gameId ∧
    row.progress = progress

/-- Rows of different games have different numbers. -/
theorem Valid.id_ne (valid : store.Valid) {externalId' : String} {row row' : GameRow}
    (h : store.gameByExternalId? externalId = some row)
    (h' : store.gameByExternalId? externalId' = some row') (ne : externalId ≠ externalId') :
    row.id ≠ row'.id := by
  intro hid
  have hrow : row = row' := Table.eq_of_mem_of_key valid.gameIds_nodup (Table.mem_of_find? h)
    (Table.mem_of_find? h') hid
  apply ne
  rw [← externalId_of_gameByExternalId? h, ← externalId_of_gameByExternalId? h', hrow]

/-- A game that shows what is reported of it shows it afterwards, and is not announced. -/
theorem Shows.reconcile (shows : store.Shows game.id gameId game.progress) :
    (store.reconcile now mute league game).2.Shows game.id gameId game.progress ∧
      (store.reconcile now mute league game).2.notices = store.notices := by
  obtain ⟨old, hold, rfl, hprogress⟩ := shows
  have hsame : old.progress = (GameRecord.ofFeed league game).progress := hprogress
  have kept : old.outranks (.ofFeed league game) = false := by
    rw [GameRow.outranks, hsame]
    exact Bool.and_not_self _
  have applied := not_outranks_of_some hold kept
  constructor
  · refine ⟨_, row_of_not_outranks applied, ?_, ?_⟩
    · rw [@putGame_of_some store (.ofFeed league game) old now hold]
      rfl
    · exact congrArg GameRecord.progress (putGame_record now _)
  · obtain ⟨row, -, -, hnotices, hnotified⟩ :=
      @notices_of_not_outranks store now mute league game applied
    have unchanged : ¬ (store.ShowsOtherThan game.id game.progress ∧ mute = false) := by
      rintro ⟨⟨other, hother, differs⟩, -⟩
      rw [← Option.some.inj (hold.symm.trans hother), Progress.differsVisibly_iff] at differs
      exact differs hprogress
    rw [hnotices, if_neg (mt hnotified.1 unchanged)]

/-- Another game may be announced, by its own number. -/
theorem Shows.reconcile_of_ne (shows : store.Shows externalId gameId progress)
    (valid : store.Valid) (ne : game.id ≠ externalId) :
    (store.reconcile now mute league game).2.Shows externalId gameId progress ∧
      (store.reconcile now mute league game).2.notices.count gameId =
        store.notices.count gameId := by
  obtain ⟨row, hrow, rfl, hprogress⟩ := shows
  have hkept : (store.reconcile now mute league game).2.gameByExternalId? externalId = some row :=
    (valid.row_of_ne ne).trans hrow
  refine ⟨⟨row, hkept, rfl, hprogress⟩, ?_⟩
  obtain ⟨other, hother, hnotices, -⟩ := store.notices_reconcile now mute league game
  have hid : other.id ≠ row.id := (valid.reconcile now mute league game).id_ne hother hkept ne
  rw [hnotices]
  split
  · rw [List.count_append, List.count_singleton, if_neg (by simpa using hid), Nat.add_zero]
  · rfl

/-- Requests other than these two leave games and notices alone. -/
theorem perform_of_not_writesGame {r : Request} (h : r.writesGame = false)
    (h' : r ≠ .finalizeStale) :
    (store.perform now r).2.games = store.games ∧
      (store.perform now r).2.notices = store.notices := by
  refine perform_elim (motive := fun next => next.games = store.games ∧
    next.notices = store.notices) store now r ⟨rfl, rfl⟩ ?_ ?_ ?_ ?_ ?_ ?_
  · exact fun _ _ => ⟨rfl, rfl⟩
  · rintro record rfl
    exact nomatch h
  · exact fun stale => absurd stale h'
  · exact fun _ _ _ => ⟨rfl, rfl⟩
  · exact fun _ _ _ _ _ => ⟨rfl, rfl⟩
  · exact fun gameId _ => ⟨refreshGrids_games gameId, refreshGrids_notices gameId⟩

theorem Shows.of_games {other : Store} (shows : store.Shows externalId gameId progress)
    (h : other.games = store.games) : other.Shows externalId gameId progress := by
  obtain ⟨row, hrow, rest⟩ := shows
  exact ⟨row, (gameByExternalId?_of_games h externalId).trans hrow, rest⟩

end Store

namespace World

variable {world : World} {game : Game} {gameId : Int}

/-- **One operation** that has nothing new leaves the game as it is and does not announce it. -/
theorem shows_step (valid : world.store.Valid)
    (shows : world.store.Shows game.id gameId game.progress) {op : Operation}
    (h : op.HasNothingNew game gameId) :
    (world.step op).store.Shows game.id gameId game.progress ∧
      (world.step op).store.notices.count gameId = world.store.notices.count gameId := by
  cases op with
  | process feed scope league reported =>
    have hleaves : world.step (.process feed scope league reported) = world ∨
        world.step (.process feed scope league reported) = world.holding _ :=
      processGame_leaves world feed scope league reported
    rcases hleaves with hsame | hnext
    · rw [hsame]
      exact ⟨shows, rfl⟩
    · rw [hnext]
      by_cases hid : reported.id = game.id
      · rw [← hid, ← h hid] at shows ⊢
        obtain ⟨hshows, hnotices⟩ := shows.reconcile
        exact ⟨hshows, congrArg _ hnotices⟩
      · exact shows.reconcile_of_ne valid hid
  | run => exact h.elim
  | request r =>
    obtain ⟨hgames, hnotices⟩ := @Store.perform_of_not_writesGame world.store world.now r h.1 h.2
    show (request r world).2.store.Shows _ _ _ ∧ (request r world).2.store.notices.count _ = _
    unfold request
    split
    · exact ⟨shows, rfl⟩
    · exact ⟨shows.of_games hgames, congrArg _ hnotices⟩
  | notify other =>
    show (notify other world).2.store.Shows _ _ _ ∧ (notify other world).2.store.notices.count _ = _
    unfold notify
    split
    · exact ⟨shows, rfl⟩
    · have hne : other ≠ gameId := h
      refine ⟨shows, ?_⟩
      show (world.store.notices ++ [other]).count gameId = _
      rw [List.count_append, List.count_singleton, if_neg (by simpa using hne), Nat.add_zero]
  | setClock | setFailing | setMute | putPool | putGrid | putColours | putNumberSet =>
    exact ⟨shows, rfl⟩

/-- **Operations in turn** that have nothing new do not announce the game. -/
theorem count_notices_after (valid : world.store.Valid)
    (shows : world.store.Shows game.id gameId game.progress) {ops : List Operation}
    (h : ∀ op ∈ ops, op.HasNothingNew game gameId) :
    (world.after ops).store.notices.count gameId = world.store.notices.count gameId := by
  induction ops generalizing world with
  | nil => rfl
  | cons op rest ih =>
    obtain ⟨hshows, hcount⟩ := shows_step valid shows (h op (by simp))
    have hrest : ∀ op ∈ rest, op.HasNothingNew game gameId := fun op hop => h op (by simp [hop])
    exact (ih (valid.step op) hshows hrest).trans hcount

/-- **A lost notice is never made up for.** A report of a stored game is applied while announcements
fail. The row then shows what is reported, whether that is a change or not, and from then on nothing
that has nothing new about the game announces it, with announcements working or not. -/
theorem lost_notice_stays_lost {world : World} (reachable : world.store.Reachable)
    (healthy : world.failing = false) (mute : world.mute = true) {scope : SyncScope}
    (live : scope.dryRun = false) (feed : Feed) {league : League} {game : Game} {old : GameRow}
    (stored : world.store.gameByExternalId? game.id = some old)
    (applied : old.outranks (.ofFeed league game) = false) :
    ∃ grids next,
      Sync.processGame (services feed) scope league game world =
        (.ok (.applied old.id false false grids), next) ∧
      next.store.Shows game.id old.id game.progress ∧
      ∀ later : List Operation, (∀ op ∈ later, op.HasNothingNew game old.id) →
        (next.after later).store.notices.count old.id = world.store.notices.count old.id := by
  have valid := reachable.valid
  have hnone := Store.not_outranks_of_some stored applied
  have hput := @Store.putGame_of_some world.store (.ofFeed league game) old world.now stored
  -- the row has its number and shows the report
  have shows : (world.store.reconcile world.now world.mute league game).2.Shows game.id old.id
      game.progress := by
    refine ⟨_, Store.row_of_not_outranks hnone, ?_, ?_⟩
    · rw [hput]
      rfl
    · rw [hput]
      rfl
  obtain ⟨grids, happly⟩ := @Store.applyGame_outcome
    (world.store.putTeamsOf world.now league game) world.now world.mute (some old)
    (.ofFeed league game)
  have houtcome : (world.store.reconcile world.now world.mute league game).1 =
      .applied old.id false false grids := by
    rw [Store.reconcile_of_not_outranks hnone, stored, happly, (Store.putTeamsOf_putGame _).1, hput,
      mute, Bool.not_true, Bool.and_false]
    rfl
  obtain ⟨row, -, -, hnotices, -⟩ :=
    @Store.notices_of_not_outranks world.store world.now world.mute league game hnone
  rw [houtcome] at hnotices
  refine ⟨grids, world.holding (world.store.reconcile world.now world.mute league game).2, ?_,
    shows, ?_⟩
  · rw [processGame_of_healthy healthy live, houtcome]
  · intro later hlater
    rw [count_notices_after (valid.reconcile world.now world.mute league game) shows hlater]
    exact congrArg _ hnotices

/-- A touchdown is not announced, nor is it when it is reported again. -/
theorem lost_touchdown_stays_lost :
    let kickoff : Game := { id := "401", start := .epoch, status := .inProgress, period := 1 }
    let touchdown : Game := { kickoff with home := { points := { total := some 6 } } }
    let feed : Feed := fun _ _ => { answer := .error .cancelled }
    let scope : SyncScope := { leagues := [.nfl] }
    let session : List Operation := [.process feed scope .nfl kickoff, .setMute true]
    let world : World := ({ now := .epoch } : World).after session
    let old : GameRow :=
      { GameRecord.ofFeed .nfl kickoff with
        id := 1, created := .epoch, modified := .epoch, synced := .epoch }
    old.progress.DiffersVisibly touchdown.progress ∧
    ∃ grids next,
      Sync.processGame (services feed) scope .nfl touchdown world =
        (.ok (.applied 1 false false grids), next) ∧
      (next.after [.setMute false, .process feed scope .nfl touchdown]).store.notices.count 1 =
        0 := by
  intro kickoff touchdown feed scope session world old
  obtain ⟨grids, next, hrun, -, lost⟩ := @lost_notice_stays_lost world ⟨.epoch, session, rfl⟩ rfl
    rfl scope rfl feed .nfl touchdown old rfl rfl
  refine ⟨Progress.differsVisibly_iff.2 (by decide), grids, next, hrun, ?_⟩
  rw [lost [.setMute false, .process feed scope .nfl touchdown]]
  · rfl
  · simp [Operation.HasNothingNew]

/-- The second report of a touchdown comes while announcements work and leaves no notice, because
the row has it already. -/
theorem second_report_of_lost_touchdown :
    let kickoff : Game := { id := "401", start := .epoch, status := .inProgress, period := 1 }
    let touchdown : Game := { kickoff with home := { points := { total := some 6 } } }
    let feed : Feed := fun _ _ => { answer := .error .cancelled }
    let scope : SyncScope := { leagues := [.nfl] }
    let world : World :=
      ({ now := .epoch } : World).after [.process feed scope .nfl kickoff, .setMute true]
    let first := Sync.processGame (services feed) scope .nfl touchdown world
    let second := Sync.processGame (services feed) scope .nfl touchdown
      (first.2.step (.setMute false))
    world.store.ShowsOtherThan "401" touchdown.progress ∧
      first.1 = .ok (.applied 1 false false 0) ∧ second.1 = .ok (.applied 1 false false 0) ∧
      second.2.store.notices = [] := by
  refine ⟨?changed, ?first, ?second, ?notices⟩
  case changed => exact ⟨_, rfl, Progress.differsVisibly_iff.2 (by decide)⟩
  all_goals rfl

end World

end SquarePool
