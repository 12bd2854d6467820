import SquarePool.Proofs.Session

/-!
# Finality

A game that is over stays over. Whatever happens to a pool, the row of a final game stays in the
store under its number, and a feed that takes the end of the game back moves nothing in it but its
teams. Main statement: this holds at every later point of a session.
-/

namespace SquarePool

namespace Store

/-! ## Final rows across a write -/

/-- The row of each final game is still there, still final, with its number and the time at which
it came. -/
def KeepsFinals (before after : Store) : Prop :=
  ∀ (externalId : String) (old : GameRow), before.gameByExternalId? externalId = some old →
    old.progress.status = .final →
      ∃ row, after.gameByExternalId? externalId = some row ∧ row.progress.status = .final ∧
        row.id = old.id ∧ row.created = old.created

theorem KeepsFinals.trans {a b c : Store} (hab : a.KeepsFinals b) (hbc : b.KeepsFinals c) :
    a.KeepsFinals c := by
  intro externalId old hold final
  obtain ⟨row, hrow, rowFinal, hid, hcreated⟩ := hab externalId old hold final
  obtain ⟨next, hnext, nextFinal, hid', hcreated'⟩ := hbc externalId row hrow rowFinal
  exact ⟨next, hnext, nextFinal, hid'.trans hid, hcreated'.trans hcreated⟩

/-- A write that does not concern games. -/
theorem KeepsFinals.of_games {a b : Store} (h : b.games = a.games) : a.KeepsFinals b :=
  fun _ old hold final =>
    ⟨old, (gameByExternalId?_of_games h _).trans hold, final, rfl, rfl⟩

variable {store : Store} {now : Instant} {mute : Bool} {league : League} {game : Game}

/-- What is final is not stale. -/
theorem keepsFinals_finalizeStale : store.KeepsFinals (store.finalizeStale now).2 := by
  intro externalId old hold final
  have hfresh : old.isStale now = false := by
    simp [GameRow.isStale, final, GameStatus.isFinal]
  refine ⟨old, ?_, final, rfl, rfl⟩
  rw [gameByExternalId?_finalizeStale, hold, Option.map_some, hfresh]
  rfl

/-- A final game is written over by a final record, or keeps its score. -/
theorem Valid.keepsFinals_reconcile (valid : store.Valid) :
    store.KeepsFinals (store.reconcile now mute league game).2 := by
  intro externalId old hold final
  by_cases hx : game.id = externalId
  · subst hx
    rcases outranks_or_not store league game with ⟨kept, hkept, outranks⟩ | hnone
    · obtain rfl : kept = old := Option.some.inj (hkept.symm.trans hold)
      refine ⟨_, row_of_outranks hold outranks, ?_⟩
      split
      · exact ⟨final, rfl, rfl⟩
      · exact ⟨final, rfl, rfl⟩
    · -- only a final record is written over a final row
      have reported : (GameRecord.ofFeed league game).progress.status = .final := by
        have h := hnone old hold
        simpa [GameRow.outranks, final, GameStatus.isFinal] using h
      refine ⟨_, row_of_not_outranks hnone, ?_⟩
      rw [putGame_of_some now hold]
      exact ⟨reported, rfl, rfl⟩
  · exact ⟨old, (valid.row_of_ne hx).trans hold, final, rfl, rfl⟩

theorem keepsFinals_perform {r : Request} (hr : r.writesGame = false) :
    store.KeepsFinals (store.perform now r).2 := by
  refine perform_elim (motive := store.KeepsFinals) store now r (.of_games rfl) ?_ ?_ ?_ ?_ ?_ ?_
  · exact fun record _ => .of_games rfl
  · rintro record rfl
    exact nomatch hr
  · exact fun _ => keepsFinals_finalizeStale
  · exact fun mode league _ => .of_games rfl
  · exact fun log processed success message _ => .of_games rfl
  · exact fun gameId _ => .of_games (refreshGrids_games gameId)

/-! ## Final rows across a session -/

/-- Valid tables stay valid and keep their final games. -/
def KeepsValidFinals (before after : Store) : Prop :=
  before.Valid → after.Valid ∧ before.KeepsFinals after

instance : IsPreorder Store KeepsValidFinals where
  refl _ valid := ⟨valid, .of_games rfl⟩
  trans _ _ _ hab hbc valid :=
    have hb := hab valid
    have hc := hbc hb.1
    ⟨hc.1, hb.2.trans hc.2⟩

theorem keepsValidFinals_survives : Survives KeepsValidFinals where
  perform _ now r hr valid := ⟨valid.perform now r, keepsFinals_perform hr⟩
  reconcile _ now mute league game valid :=
    ⟨valid.reconcile now mute league game, valid.keepsFinals_reconcile⟩
  notify _ gameId valid := ⟨valid.notify gameId, .of_games rfl⟩
  putPool _ pool valid := ⟨valid.putPool pool, .of_games rfl⟩
  putGrid _ grid valid := ⟨valid.putGrid grid, .of_games rfl⟩
  putColours _ colours valid := ⟨valid.putColours colours, .of_games rfl⟩
  putNumberSet _ set valid := ⟨valid.putNumberSet set, .of_games rfl⟩

/-- A feed that takes the end of a game back changes its teams at most, and nothing is announced. -/
theorem Valid.reconcile_unfinished (valid : store.Valid) {externalId : String} {old : GameRow}
    (hold : store.gameByExternalId? externalId = some old) (final : old.progress.status = .final)
    (unfinished : game.status ≠ .final) :
    ∃ row, (store.reconcile now mute league game).2.gameByExternalId? externalId = some row ∧
      (row = old ∨
        (old.homeTeamId ≠ game.home.team.id ∨ old.awayTeamId ≠ game.away.team.id) ∧
          row = { old with
            homeTeamId := game.home.team.id
            awayTeamId := game.away.team.id
            modified := now
            synced := now }) ∧
      (game.id = externalId →
        (store.reconcile now mute league game).2.notices = store.notices) := by
  by_cases hx : game.id = externalId
  · subst hx
    have kept : old.outranks (.ofFeed league game) = true := by
      have reported : (GameRecord.ofFeed league game).progress.status ≠ .final := unfinished
      simp [GameRow.outranks, final, GameStatus.isFinal, reported]
    refine ⟨_, row_of_outranks hold kept, ?_, fun _ => ?_⟩
    · split
      · rename_i hd
        exact .inr ⟨GameRecord.teamsDiffer_iff.1 hd, rfl⟩
      · exact .inl rfl
    · rw [reconcile_of_outranks hold kept, keepFinal_notices]
      rfl
  · exact ⟨old, (valid.row_of_ne hx).trans hold, .inl rfl, fun h => absurd h hx⟩

end Store

namespace World

/-- **Final is for good.** Once the row of a game is final it stays in the store for the rest of the
session, final, under its number and with the time at which it came. A report that the game is still
played changes nothing in it but its teams, with the two times that go along, and announces
nothing. -/
theorem final_row_is_absorbing {world : World} (reachable : world.store.Reachable)
    (earlier later : List Operation) (reconciled : ∀ op ∈ later, op.writesGame = false)
    {externalId : String} {old : GameRow}
    (stored : (world.after earlier).store.gameByExternalId? externalId = some old)
    (final : old.progress.status = .final) :
    (∃ row, (world.after (earlier ++ later)).store.gameByExternalId? externalId = some row ∧
      row.progress.status = .final ∧ row.id = old.id ∧ row.created = old.created) ∧
    ∀ (feed : Feed) (scope : SyncScope) (league : League) (game : Game),
      game.status ≠ .final →
        let next := (world.after earlier).step (.process feed scope league game)
        ∃ row, next.store.gameByExternalId? externalId = some row ∧
          (row = old ∨
            (old.homeTeamId ≠ game.home.team.id ∨ old.awayTeamId ≠ game.away.team.id) ∧
              row = { old with
                homeTeamId := game.home.team.id
                awayTeamId := game.away.team.id
                modified := (world.after earlier).now
                synced := (world.after earlier).now }) ∧
          (game.id = externalId → next.store.notices = (world.after earlier).store.notices) := by
  have valid : (world.after earlier).store.Valid := reachable.valid.after earlier
  constructor
  · have kept := Store.keepsValidFinals_survives.after (world.after earlier) reconciled
    rw [after_append]
    exact (kept valid).2 externalId old stored final
  · intro feed scope league game unfinished
    have hnext : (world.after earlier).step (.process feed scope league game) =
          world.after earlier ∨
        (world.after earlier).step (.process feed scope league game) =
          (world.after earlier).holding _ :=
      processGame_leaves (world.after earlier) feed scope league game
    dsimp only
    rcases hnext with hnext | hnext
    · rw [hnext]
      exact ⟨old, stored, .inl rfl, fun _ => rfl⟩
    · rw [hnext]
      exact valid.reconcile_unfinished stored final unfinished

/-- A game that ended is reported as being played, with its teams swapped. -/
theorem final_row_when_taken_back :
    let home : Side := { team := { id := "12" }, points := { total := some 27 } }
    let away : Side := { team := { id := "8" }, points := { total := some 20 } }
    let finished : Game :=
      { id := "401", start := .epoch, status := .final, period := 4, home, away }
    let swapped : Game :=
      { id := "401", start := .epoch, status := .inProgress, period := 3
        home := away, away := home }
    let feed : Feed := fun _ _ => { answer := .error .cancelled }
    let scope : SyncScope := { leagues := [.nfl] }
    let opening : World := { now := .epoch }
    let earlier : List Operation := [.process feed scope .nfl finished]
    let later : List Operation :=
      [.process feed scope .nfl swapped, .setClock (.ofSeconds 172800 0), .request .finalizeStale,
        .run feed scope SyncMode.all false]
    (∃ row, (opening.after (earlier ++ later)).store.gameByExternalId? "401" = some row ∧
      row.progress.status = .final ∧ row.id = 1 ∧ row.created = .epoch) ∧
    ∃ row, ((opening.after earlier).step (.process feed scope .nfl swapped)).store.gameByExternalId?
      "401" = some row ∧ row.progress = finished.progress := by
  intro home away finished swapped feed scope opening earlier later
  have reachable : opening.store.Reachable := ⟨.epoch, [], rfl⟩
  have reconciled : ∀ op ∈ later, op.writesGame = false := by
    simp [later, Operation.writesGame, Request.writesGame]
  have stored : (opening.after earlier).store.gameByExternalId? "401" =
      some { GameRecord.ofFeed .nfl finished with
        id := 1, created := .epoch, modified := .epoch, synced := .epoch } := rfl
  obtain ⟨kept, single⟩ := final_row_is_absorbing reachable earlier later reconciled stored rfl
  obtain ⟨row, hrow, same, -⟩ := single feed scope .nfl swapped nofun
  refine ⟨kept, row, hrow, ?_⟩
  rcases same with rfl | ⟨-, rfl⟩ <;> rfl

end World

end SquarePool
