import SquarePool.Proofs.Sync.Reconcile

/-!
# Stores without their times

Two stores that went through the same writes at different times differ in the times at which their
rows were touched. Here those are taken out, and with them what was announced. Main statement:
reconciling a game goes through this, because no decision on the way looks at a time.
-/

namespace SquarePool

/-- The team without the times at which it was touched. -/
def TeamRow.timeless (team : TeamRow) : TeamRow :=
  { team with created := .epoch, modified := .epoch }

/-- The game without the times at which it was touched. -/
def GameRow.timeless (game : GameRow) : GameRow :=
  { game with created := .epoch, modified := .epoch, synced := .epoch }

namespace Store

/-- The store without the times at which teams and games were touched, and without what was
announced. -/
def timeless (store : Store) : Store :=
  { store with
    teams := store.teams.map TeamRow.timeless
    games := store.games.map GameRow.timeless
    notices := [] }

variable {store : Store} {now : Instant} {mute : Bool} {league : League} {game : Game}

/-! ## Reading -/

theorem timeless_team? (id : String) (league : League) :
    store.timeless.team? id league = (store.team? id league).map TeamRow.timeless :=
  Table.find?_map (fun _ => rfl) _ _

theorem timeless_game? (id : Int) :
    store.timeless.game? id = (store.game? id).map GameRow.timeless :=
  Table.find?_map (fun _ => rfl) _ _

theorem timeless_gameByExternalId? (externalId : String) :
    store.timeless.gameByExternalId? externalId =
      (store.gameByExternalId? externalId).map GameRow.timeless :=
  Table.find?_map (fun _ => rfl) _ _

theorem timeless_teamsOf? (row : GameRow) :
    store.timeless.teamsOf? row.timeless =
      (store.teamsOf? row).map fun teams => (teams.1.timeless, teams.2.timeless) := by
  have hhome := @timeless_team? store row.homeTeamId row.league
  have haway := @timeless_team? store row.awayTeamId row.league
  show (store.timeless.team? row.homeTeamId row.league).bind _ = _
  rw [hhome]
  unfold teamsOf?
  cases store.team? row.homeTeamId row.league with
  | none => rfl
  | some home =>
    show (store.timeless.team? row.awayTeamId row.league).bind _ = _
    rw [haway]
    cases store.team? row.awayTeamId row.league <;> rfl

/-! ## Writing -/

theorem map_timeless_put_team (row : TeamRow) (rows : List TeamRow) :
    (Table.put TeamRow.key row rows).map TeamRow.timeless =
      Table.put TeamRow.key row.timeless (rows.map TeamRow.timeless) :=
  have kept : ∀ row : TeamRow, row.timeless.key = row.key := fun _ => rfl
  Table.map_put kept row rows

theorem map_timeless_put_game (row : GameRow) (rows : List GameRow) :
    (Table.put GameRow.id row rows).map GameRow.timeless =
      Table.put GameRow.id row.timeless (rows.map GameRow.timeless) :=
  have kept : ∀ row : GameRow, row.timeless.id = row.id := fun _ => rfl
  Table.map_put kept row rows

theorem timeless_putTeam (record : TeamRecord) :
    (store.putTeam now record).timeless = store.timeless.putTeam .epoch record := by
  have hteam := @timeless_team? store record.id record.league
  cases h : store.team? record.id record.league with
  | none =>
    rw [h] at hteam
    rw [putTeam_of_none now h, putTeam_of_none .epoch hteam]
    simp only [timeless, map_timeless_put_team]
    rfl
  | some old =>
    rw [h] at hteam
    rw [putTeam_of_some now h, putTeam_of_some .epoch hteam]
    simp only [timeless, map_timeless_put_team]
    rfl

theorem timeless_putGame (record : GameRecord) :
    (store.putGame now record).1.id = (store.timeless.putGame .epoch record).1.id ∧
      (store.putGame now record).2.timeless = (store.timeless.putGame .epoch record).2 := by
  have hgame := @timeless_gameByExternalId? store record.externalId
  cases h : store.gameByExternalId? record.externalId with
  | none =>
    rw [h] at hgame
    rw [putGame_of_none now h, putGame_of_none .epoch hgame]
    simp only [timeless, map_timeless_put_game]
    exact ⟨rfl, rfl⟩
  | some old =>
    rw [h] at hgame
    rw [putGame_of_some now h, putGame_of_some .epoch hgame]
    simp only [timeless, map_timeless_put_game]
    exact ⟨rfl, rfl⟩

theorem timeless_refreshGrids (gameId : Int) :
    (store.refreshGrids gameId).2.timeless = (store.timeless.refreshGrids gameId).2 := by
  have hteams : (store.timeless.game? gameId).bind store.timeless.teamsOf? =
      ((store.game? gameId).bind store.teamsOf?).map
        fun teams => (teams.1.timeless, teams.2.timeless) := by
    rw [timeless_game?]
    cases store.game? gameId with
    | none => rfl
    | some row => exact timeless_teamsOf? row
  cases h : (store.game? gameId).bind store.teamsOf? with
  | none =>
    rw [h] at hteams
    rw [refreshGrids_of_none h, refreshGrids_of_none hteams]
  | some teams =>
    rw [h] at hteams
    rw [refreshGrids_of_some h, refreshGrids_of_some hteams]
    rfl

theorem timeless_announceIf (changed : Bool) (gameId : Int) :
    (store.announceIf changed gameId).timeless = store.timeless := by
  cases changed <;> rfl

theorem timeless_refreshIf (outdated : Bool) (gameId : Int) :
    (store.refreshIf outdated gameId).2.timeless = (store.timeless.refreshIf outdated gameId).2 := by
  cases outdated with
  | true => exact timeless_refreshGrids gameId
  | false => rfl

/-! ## Reconciling -/

theorem timeless_putTeamsOf :
    (store.putTeamsOf now league game).timeless = store.timeless.putTeamsOf .epoch league game := by
  simp only [putTeamsOf, timeless_putTeam]

theorem timeless_keepFinal (old : GameRow) (record : GameRecord) :
    (store.keepFinal now old record).2.timeless =
      (store.timeless.keepFinal .epoch old.timeless record).2 := by
  have hdiffer : old.timeless.teamsDiffer record = old.teamsDiffer record := rfl
  cases h : old.teamsDiffer record with
  | false => rw [keepFinal_of_not_differ h, keepFinal_of_not_differ (hdiffer.trans h)]
  | true =>
    obtain ⟨hid, hput⟩ := @timeless_putGame store now (old.toGameRecord.withTeamsOf record)
    rw [keepFinal, keepFinal, if_pos h, if_pos (hdiffer.trans h)]
    dsimp only
    rw [timeless_refreshGrids, hput, hid]
    rfl

/-- Nothing is announced in the right-hand store, whether the left-hand one announces or not. -/
theorem timeless_applyGame (old : Option GameRow) (record : GameRecord) :
    (store.applyGame now mute old record).2.timeless =
      (store.timeless.applyGame .epoch true (old.map GameRow.timeless) record).2 := by
  obtain ⟨hid, hput⟩ := @timeless_putGame store now record
  have hdiffer : (old.map GameRow.timeless).all (·.teamsDiffer record) =
      old.all (·.teamsDiffer record) := by
    cases old <;> rfl
  simp only [applyGame, timeless_refreshIf, timeless_announceIf, putGame_record, hput, hid, hdiffer,
    Bool.not_true, Bool.and_false]
  rfl

/-- **Reconciling goes through** taking out the times. -/
theorem timeless_reconcile :
    (store.reconcile now mute league game).2.timeless =
      (store.timeless.reconcile .epoch true league game).2 := by
  have hgame := @timeless_gameByExternalId? store game.id
  rcases outranks_or_not store league game with ⟨old, hold, kept⟩ | applied
  · rw [hold] at hgame
    rw [reconcile_of_outranks hold kept, timeless_keepFinal, timeless_putTeamsOf,
      reconcile_of_outranks hgame kept]
  · have applied' : ∀ old, store.timeless.gameByExternalId? game.id = some old →
        old.outranks (.ofFeed league game) = false := by
      intro old' hold'
      rw [hgame] at hold'
      obtain ⟨old, hold, rfl⟩ := Option.map_eq_some_iff.1 hold'
      exact applied old hold
    rw [reconcile_of_not_outranks applied, timeless_applyGame, timeless_putTeamsOf,
      reconcile_of_not_outranks applied', hgame]

end Store

end SquarePool
