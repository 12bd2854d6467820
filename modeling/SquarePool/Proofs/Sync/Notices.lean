import SquarePool.Proofs.Sync.Reconcile

/-!
# Notices

When a game is announced. The detector of changes compares the stored row with the record that is
about to be written, while whoever reads the announcement compares the stored row with the one that
replaces it. Main statement: seen by such a reader, a reconciled game is announced once if its score
display changed and not at all otherwise.
-/

namespace SquarePool

/-- One of the sixteen parts of a score display differs. -/
def Progress.DiffersVisibly (a b : Progress) : Prop :=
  a.status ≠ b.status ∨ a.home.total ≠ b.home.total ∨ a.away.total ≠ b.away.total ∨
    a.period ≠ b.period ∨ a.clock ≠ b.clock ∨ a.detail ≠ b.detail ∨
    a.home.lines.q1 ≠ b.home.lines.q1 ∨ a.away.lines.q1 ≠ b.away.lines.q1 ∨
    a.home.lines.q2 ≠ b.home.lines.q2 ∨ a.away.lines.q2 ≠ b.away.lines.q2 ∨
    a.home.lines.q3 ≠ b.home.lines.q3 ∨ a.away.lines.q3 ≠ b.away.lines.q3 ∨
    a.home.lines.q4 ≠ b.home.lines.q4 ∨ a.away.lines.q4 ≠ b.away.lines.q4 ∨
    a.home.lines.ot ≠ b.home.lines.ot ∨ a.away.lines.ot ≠ b.away.lines.ot

/-- Two score displays that agree in all sixteen parts are equal. -/
theorem Progress.eq_of_not_differsVisibly {a b : Progress} (h : ¬ a.DiffersVisibly b) : a = b := by
  obtain ⟨_, _, _, _, ⟨_, ⟨_, _, _, _, _⟩⟩, ⟨_, ⟨_, _, _, _, _⟩⟩⟩ := a
  obtain ⟨_, _, _, _, ⟨_, ⟨_, _, _, _, _⟩⟩, ⟨_, ⟨_, _, _, _, _⟩⟩⟩ := b
  simp only [DiffersVisibly, ne_eq, not_or, Classical.not_not] at h
  simp only [Progress.mk.injEq, Points.mk.injEq, LineScores.mk.injEq]
  simp only [h, and_self]

theorem Progress.differsVisibly_iff {a b : Progress} : a.DiffersVisibly b ↔ a ≠ b := by
  constructor
  · rintro h rfl
    simp [DiffersVisibly] at h
  · exact fun h => Classical.byContradiction fun same => h (eq_of_not_differsVisibly same)

theorem GameRecord.scoreDiffers_iff {old new : GameRecord} :
    old.scoreDiffers new = true ↔ old.progress.DiffersVisibly new.progress := by
  rw [Progress.differsVisibly_iff]
  simp [scoreDiffers]

/-- The outcome says that the change was announced. -/
def Outcome.saysNotified : Outcome → Bool
  | .applied _ _ notified _ => notified
  | _ => false

namespace Store

variable {store : Store} {now : Instant} {mute : Bool} {league : League} {game : Game}

/-- The game has a row, and its display differs visibly from another one. -/
def ShowsOtherThan (store : Store) (externalId : String) (progress : Progress) : Prop :=
  ∃ old, store.gameByExternalId? externalId = some old ∧ old.progress.DiffersVisibly progress

/-- The detector of changes sees what a reader sees. -/
theorem any_scoreDiffers_iff {record : GameRecord} :
    (store.gameByExternalId? record.externalId).any (·.scoreDiffers record) = true ↔
      store.ShowsOtherThan record.externalId record.progress := by
  cases h : store.gameByExternalId? record.externalId with
  | none => simp [ShowsOtherThan, h]
  | some old => simp [ShowsOtherThan, h, GameRecord.scoreDiffers_iff]

/-- A final game that is kept shows what it showed. -/
theorem notices_of_outranks {old : GameRow} (h : store.gameByExternalId? game.id = some old)
    (kept : old.outranks (.ofFeed league game) = true) :
    ∃ row, (store.reconcile now mute league game).2.gameByExternalId? game.id = some row ∧
      ¬ store.ShowsOtherThan game.id row.progress ∧
      (store.reconcile now mute league game).2.notices = store.notices ∧
      (store.reconcile now mute league game).1.saysNotified = false := by
  refine ⟨_, row_of_outranks h kept, ?_, ?_, ?_⟩
  · rintro ⟨other, hother, differs⟩
    obtain rfl : old = other := Option.some.inj (h.symm.trans hother)
    rw [Progress.differsVisibly_iff] at differs
    split at differs <;> exact differs rfl
  · rw [reconcile_of_outranks h kept, keepFinal_notices]
    rfl
  · obtain ⟨grids, houtcome⟩ := @keepFinal_outcome (store.putTeamsOf now league game) now old
      (.ofFeed league game)
    rw [reconcile_of_outranks h kept, houtcome]
    rfl

/-- Any other game shows its record, and what is announced is what the detector sees. -/
theorem notices_of_not_outranks
    (h : ∀ old, store.gameByExternalId? game.id = some old →
      old.outranks (.ofFeed league game) = false) :
    ∃ row, (store.reconcile now mute league game).2.gameByExternalId? game.id = some row ∧
      row.progress = game.progress ∧
      (store.reconcile now mute league game).2.notices =
        (if (store.reconcile now mute league game).1.saysNotified then store.notices ++ [row.id]
          else store.notices) ∧
      ((store.reconcile now mute league game).1.saysNotified = true ↔
        store.ShowsOtherThan game.id game.progress ∧ mute = false) := by
  have hrow := @putGame_record store now (.ofFeed league game)
  have hput := (@putTeamsOf_putGame store now league game (.ofFeed league game)).1
  refine ⟨_, row_of_not_outranks h, congrArg GameRecord.progress hrow, ?_⟩
  obtain ⟨grids, houtcome⟩ := @applyGame_outcome (store.putTeamsOf now league game) now mute
    (store.gameByExternalId? game.id) (.ofFeed league game)
  rw [reconcile_of_not_outranks h, applyGame_notices, houtcome, hput]
  refine ⟨rfl, ?_⟩
  simp only [Outcome.saysNotified, Bool.and_eq_true, Bool.not_eq_true']
  exact and_congr_left' any_scoreDiffers_iff

/-- What is announced, and when, seen by a reader of the two rows. -/
theorem notices_reconcile (store : Store) (now : Instant) (mute : Bool) (league : League)
    (game : Game) :
    ∃ row, (store.reconcile now mute league game).2.gameByExternalId? game.id = some row ∧
      (store.reconcile now mute league game).2.notices =
        (if (store.reconcile now mute league game).1.saysNotified then store.notices ++ [row.id]
          else store.notices) ∧
      ((store.reconcile now mute league game).1.saysNotified = true ↔
        store.ShowsOtherThan game.id row.progress ∧ mute = false) := by
  rcases outranks_or_not store league game with ⟨old, hold, kept⟩ | hnone
  · obtain ⟨row, hrow, same, hnotices, hnotified⟩ :=
      @notices_of_outranks store now mute league game old hold kept
    refine ⟨row, hrow, ?_, ?_⟩
    · rw [hnotices, hnotified]
      rfl
    · simp [hnotified, same]
  · obtain ⟨row, hrow, hprogress, hnotices, hnotified⟩ :=
      @notices_of_not_outranks store now mute league game hnone
    exact ⟨row, hrow, hnotices, hprogress ▸ hnotified⟩

end Store

namespace World

/-- **One notice for each visible change.** A game that is reconciled with a store that answers is
announced if and only if it had a row, the row that it has now shows something else, and
announcements work. Then its number is announced once, and the outcome says so; otherwise nothing
is announced, and the outcome does not say that anything was. -/
theorem notice_iff_visible_change {world : World} (healthy : world.failing = false)
    {scope : SyncScope} (live : scope.dryRun = false) (feed : Feed) (league : League)
    (game : Game) :
    ∃ outcome row next,
      Sync.processGame (services feed) scope league game world = (.ok outcome, next) ∧
      next.store.gameByExternalId? game.id = some row ∧
      (next.store.notices ≠ world.store.notices ↔
        world.store.ShowsOtherThan game.id row.progress ∧ world.mute = false) ∧
      (world.store.ShowsOtherThan game.id row.progress ∧ world.mute = false →
        next.store.notices = world.store.notices ++ [row.id] ∧ outcome.saysNotified = true) ∧
      (¬ (world.store.ShowsOtherThan game.id row.progress ∧ world.mute = false) →
        next.store.notices = world.store.notices ∧ outcome.saysNotified = false) := by
  obtain ⟨row, hrow, hnotices, hnotified⟩ :=
    world.store.notices_reconcile world.now world.mute league game
  rcases hafter : world.store.reconcile world.now world.mute league game with ⟨outcome, after⟩
  rw [hafter] at hrow hnotices hnotified
  have hstore : (world.holding after).store = after := rfl
  refine ⟨outcome, row, world.holding after, ?_, hrow, ?_⟩
  · rw [processGame_of_healthy healthy live, hafter]
  · rw [hstore, ← hnotified, hnotices]
    cases outcome.saysNotified <;> simp

/-- A stored game of unknown score is announced when its home side has zero points: unknown differs
from zero. -/
theorem notice_when_score_becomes_known :
    let known : Game :=
      { id := "401", start := .epoch, home := { points := { total := some 0 } } }
    let feed : Feed := fun _ _ => { answer := .error .cancelled }
    let scope : SyncScope := { leagues := [.nba] }
    let world : World :=
      { now := .epoch, store := (({} : Store).reconcile .epoch false .nba
          { id := "401", start := .epoch }).2 }
    ∃ outcome next, Sync.processGame (services feed) scope .nba known world = (.ok outcome, next) ∧
      next.store.notices = [1] ∧ outcome.saysNotified = true := by
  intro known feed scope world
  obtain ⟨outcome, row, next, hrun, hrow, -, announced, -⟩ :=
    @notice_iff_visible_change world rfl scope rfl feed .nba known
  have hnext : next = (Sync.processGame (services feed) scope .nba known world).2 := by rw [hrun]
  have hafter : next.store.gameByExternalId? "401" =
      some { GameRecord.ofFeed .nba known with
        id := 1, created := .epoch, modified := .epoch, synced := .epoch } := by
    rw [hnext]
    rfl
  obtain rfl := Option.some.inj (hrow.symm.trans hafter)
  have before : world.store.gameByExternalId? "401" =
      some { GameRecord.ofFeed .nba { id := "401", start := .epoch } with
        id := 1, created := .epoch, modified := .epoch, synced := .epoch } := rfl
  exact ⟨outcome, next, hrun,
    announced ⟨⟨_, before, Progress.differsVisibly_iff.2 (by decide)⟩, rfl⟩⟩

end World

end SquarePool
