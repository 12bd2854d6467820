import SquarePool.Proofs.Sync.Reconcile

/-!
# Games reconciled again

What is written is written in full, or gives way to what is there in a fixed order, so writing it
again at the same time changes nothing. Main statements: a game that was reconciled is settled, and
to reconcile a settled game leaves the store as it is.
-/

namespace SquarePool

/-! ## Teams written again -/

theorem TeamRow.overwrite_overwrite (old : TeamRow) (record : TeamRecord) (now : Instant) :
    (old.overwrite record now).overwrite record now = old.overwrite record now := by
  simp [overwrite, Option.or_self, ← Option.or_assoc]

theorem TeamRecord.overwrite_row (record : TeamRecord) (now : Instant) :
    (record.row now).overwrite record now = record.row now := by
  simp [TeamRow.overwrite, row, Option.or_self]

/-- A value that gave way to a second one gives way to it again. -/
theorem or_in_turn {α : Type} {old first second : Option α} (h : first.or old = old) :
    second.or (first.or (second.or old)) = second.or old := by
  cases second with
  | some a => rfl
  | none => simpa using h

/-- Two records written in turn leave what they left the first time. -/
theorem TeamRow.overwrite_in_turn {old : TeamRow} {first second : TeamRecord} {now : Instant}
    (h : old.overwrite first now = old) :
    ((old.overwrite second now).overwrite first now).overwrite second now =
      old.overwrite second now := by
  have hlocation : first.location.or old.location = old.location :=
    congrArg TeamRecord.location (congrArg TeamRow.toTeamRecord h)
  have hcolor : first.color.or old.color = old.color :=
    congrArg TeamRecord.color (congrArg TeamRow.toTeamRecord h)
  have halternate : first.alternateColor.or old.alternateColor = old.alternateColor :=
    congrArg TeamRecord.alternateColor (congrArg TeamRow.toTeamRecord h)
  have hconference : first.conference.or old.conference = old.conference :=
    congrArg TeamRecord.conference (congrArg TeamRow.toTeamRecord h)
  have hdivision : first.division.or old.division = old.division :=
    congrArg TeamRecord.division (congrArg TeamRow.toTeamRecord h)
  simp only [overwrite, or_in_turn hlocation, or_in_turn hcolor, or_in_turn halternate,
    or_in_turn hconference, or_in_turn hdivision]

/-- A row that is written over at once is replaced. -/
theorem TeamRow.put_overwrite_put (row : TeamRow) (record : TeamRecord) (now : Instant)
    (rows : List TeamRow) :
    Table.put TeamRow.key (row.overwrite record now) (Table.put TeamRow.key row rows) =
      Table.put TeamRow.key (row.overwrite record now) rows :=
  have kept : row.key = (row.overwrite record now).key := rfl
  Table.put_put kept rows

theorem GameRecord.scoreDiffers_self (record : GameRecord) : record.scoreDiffers record = false := by
  simp [scoreDiffers]

theorem GameRecord.teamsDiffer_self (record : GameRecord) : record.teamsDiffer record = false := by
  simp [teamsDiffer]

namespace Store

variable {store : Store} {now : Instant} {mute : Bool} {league : League} {game : Game}

/-- The team has a row, in which its record changes nothing. -/
def HasTeam (store : Store) (now : Instant) (record : TeamRecord) : Prop :=
  ∃ row, store.team? record.id record.league = some row ∧ row.overwrite record now = row

theorem HasTeam.putTeam {record : TeamRecord} (h : store.HasTeam now record) :
    store.putTeam now record = store := by
  obtain ⟨row, hrow, same⟩ := h
  have hkey : row.key = (record.id, record.league) := Table.key_of_find? hrow
  have hput : Table.put TeamRow.key row store.teams = store.teams :=
    Table.put_of_find?_self (hkey ▸ hrow)
  rw [putTeam_of_some now hrow, same, hput]

/-- After a team is written, its key finds what was written. -/
theorem team?_putTeam_of_some {record : TeamRecord} {old : TeamRow}
    (h : store.team? record.id record.league = some old) :
    (store.putTeam now record).team? record.id record.league = some (old.overwrite record now) := by
  have hkey : old.key = (record.id, record.league) := Table.key_of_find? h
  rw [putTeam_of_some now h, team?, ← hkey]
  exact Table.find?_put_self TeamRow.key (old.overwrite record now) store.teams

theorem hasTeam_putTeam (now : Instant) (record : TeamRecord) :
    (store.putTeam now record).HasTeam now record := by
  cases h : store.team? record.id record.league with
  | some old => exact ⟨_, team?_putTeam_of_some h, old.overwrite_overwrite record now⟩
  | none =>
    refine ⟨record.row now, ?_, record.overwrite_row now⟩
    rw [putTeam_of_none now h]
    exact Table.find?_put_self TeamRow.key (record.row now) store.teams

/-- A team with another key stays as it is. -/
theorem team?_putTeam_of_ne {record : TeamRecord} {id : String} {league : League}
    (h : (record.id, record.league) ≠ (id, league)) :
    (store.putTeam now record).team? id league = store.team? id league := by
  cases hold : store.team? record.id record.league with
  | some old =>
    have hkey : old.key = (record.id, record.league) := Table.key_of_find? hold
    rw [putTeam_of_some now hold]
    exact @Table.find?_put_of_ne _ _ _ TeamRow.key (old.overwrite record now) _ (hkey ▸ h) _
  | none =>
    rw [putTeam_of_none now hold]
    exact @Table.find?_put_of_ne _ _ _ TeamRow.key (record.row now) _ h _

/-- What a key finds after a team is written. -/
theorem team?_putTeam (record : TeamRecord) (id : String) (league : League) :
    (store.putTeam now record).team? id league =
      if (record.id, record.league) = (id, league) then
        some ((store.team? id league).elim (record.row now) (·.overwrite record now))
      else store.team? id league := by
  by_cases own : (record.id, record.league) = (id, league)
  · obtain ⟨rfl, rfl⟩ := Prod.mk.inj own
    rw [if_pos own]
    cases h : store.team? record.id record.league with
    | some old => exact team?_putTeam_of_some h
    | none =>
      rw [putTeam_of_none now h]
      exact Table.find?_put_self TeamRow.key (record.row now) store.teams
  · rw [if_neg own, team?_putTeam_of_ne own]

/-- Two teams written twice in turn, be they different or one and the same. -/
theorem putTeam_in_turn (first second : TeamRecord) :
    (((store.putTeam now first).putTeam now second).putTeam now first).putTeam now second =
      (store.putTeam now first).putTeam now second := by
  have hfirst := @hasTeam_putTeam store now first
  generalize store.putTeam now first = written at hfirst ⊢
  have hsecond := @hasTeam_putTeam written now second
  obtain ⟨row, hrow, same⟩ := hfirst
  by_cases h : (second.id, second.league) = (first.id, first.league)
  · -- all four writes go to one row
    obtain ⟨hid, hleague⟩ := Prod.mk.inj h
    have hrow₁ : (written.putTeam now second).team? first.id first.league =
        some (row.overwrite second now) := by
      rw [← hid, ← hleague] at hrow ⊢
      exact team?_putTeam_of_some hrow
    have hrow₂ : ((written.putTeam now second).putTeam now first).team? second.id second.league =
        some ((row.overwrite second now).overwrite first now) := by
      rw [hid, hleague]
      exact team?_putTeam_of_some hrow₁
    rw [← hid, ← hleague] at hrow
    rw [putTeam_of_some now hrow₂, putTeam_of_some now hrow₁, putTeam_of_some now hrow]
    dsimp only
    rw [TeamRow.put_overwrite_put (row.overwrite second now) first, TeamRow.put_overwrite_put,
      row.overwrite_in_turn same]
  · -- the second write leaves the row of the first one alone
    have hkept : (written.putTeam now second).HasTeam now first :=
      ⟨row, (team?_putTeam_of_ne h).trans hrow, same⟩
    rw [hkept.putTeam, hsecond.putTeam]

theorem putTeamsOf_putTeamsOf :
    (store.putTeamsOf now league game).putTeamsOf now league game =
      store.putTeamsOf now league game :=
  putTeam_in_turn _ _

theorem putTeamsOf_putTeam :
    (store.putTeam now (.ofFeed league game.home.team)).putTeamsOf now league game =
      store.putTeamsOf now league game := by
  unfold putTeamsOf
  rw [(hasTeam_putTeam now _).putTeam]

theorem putTeam_teams_congr {a b : Store} (h : a.teams = b.teams) (record : TeamRecord) :
    (a.putTeam now record).teams = (b.putTeam now record).teams := by
  simp only [putTeam, team?, h]

theorem putTeamsOf_teams_congr {a b : Store} (h : a.teams = b.teams) :
    (a.putTeamsOf now league game).teams = (b.putTeamsOf now league game).teams :=
  putTeam_teams_congr (putTeam_teams_congr h _) _

/-! ## Games reconciled again -/

theorem putGame_teams (record : GameRecord) : (store.putGame now record).2.teams = store.teams := by
  obtain ⟨games, lastGameId, h⟩ := store.putGame_frame now record
  rw [h]

theorem refreshGrids_teams (gameId : Int) : (store.refreshGrids gameId).2.teams = store.teams := by
  obtain ⟨grids, colours, h⟩ := store.refreshGrids_frame gameId
  rw [h]

theorem announceIf_teams (changed : Bool) (gameId : Int) :
    (store.announceIf changed gameId).teams = store.teams := by
  cases changed <;> rfl

theorem refreshIf_teams (outdated : Bool) (gameId : Int) :
    (store.refreshIf outdated gameId).2.teams = store.teams := by
  cases outdated with
  | true => exact refreshGrids_teams gameId
  | false => rfl

theorem keepFinal_teams (old : GameRow) (record : GameRecord) :
    (store.keepFinal now old record).2.teams = store.teams := by
  unfold keepFinal
  split
  · rw [refreshGrids_teams, putGame_teams]
  · rfl

theorem applyGame_teams (old : Option GameRow) (record : GameRecord) :
    (store.applyGame now mute old record).2.teams = store.teams := by
  simp only [applyGame, refreshIf_teams, announceIf_teams, putGame_teams]

theorem reconcile_teams :
    (store.reconcile now mute league game).2.teams = (store.putTeamsOf now league game).teams := by
  simp only [reconcile]
  split
  · split
    · exact keepFinal_teams _ _
    · exact applyGame_teams _ _
  · exact applyGame_teams _ _

/-- The row of a game has the form that its record gives it. -/
theorem putGame_overwrite (record : GameRecord) :
    (store.putGame now record).1.overwrite record now = (store.putGame now record).1 := by
  cases h : store.gameByExternalId? record.externalId with
  | some old => rw [putGame_of_some now h]; rfl
  | none => rw [putGame_of_none now h]; rfl

/-- The teams and the row of the game are as reconciling it at this time leaves them. -/
structure Settled (store : Store) (now : Instant) (league : League) (game : Game) : Prop where
  teams : (store.putTeamsOf now league game).teams = store.teams
  row : ∃ row, store.gameByExternalId? game.id = some row ∧
    row.teamsDiffer (.ofFeed league game) = false ∧
    (row.outranks (.ofFeed league game) = true ∨
      row.overwrite (.ofFeed league game) now = row ∧ store.game? row.id = some row)

/-- What is settled does not change any more. -/
theorem Settled.reconcile (settled : store.Settled now league game) :
    (store.reconcile now mute league game).2 = store := by
  have teamed : store.putTeamsOf now league game = store := by
    show { store with teams := (store.putTeamsOf now league game).teams } = store
    rw [settled.teams]
  obtain ⟨row, hrow, sameTeams, written⟩ := settled.row
  cases kept : row.outranks (.ofFeed league game) with
  | true => rw [reconcile_of_outranks hrow kept, keepFinal_of_not_differ sameTeams, teamed]
  | false =>
    obtain ⟨same, found⟩ := written.resolve_left (by simp [kept])
    have hrecord : row.toGameRecord = .ofFeed league game :=
      (congrArg GameRow.toGameRecord same).symm
    have applied := not_outranks_of_some hrow kept
    have hput : store.putGame now (.ofFeed league game) = (row, store) := by
      rw [putGame_of_some now hrow, same, Table.put_of_find?_self found]
    rw [reconcile_of_not_outranks applied, teamed, hrow]
    simp [applyGame, hput, hrecord, announceIf, refreshIf, GameRecord.scoreDiffers_self,
      GameRecord.teamsDiffer_self]

/-- A game that was reconciled is settled. -/
theorem settled_reconcile : (store.reconcile now mute league game).2.Settled now league game := by
  refine ⟨?teams, ?row⟩
  case teams =>
    rw [putTeamsOf_teams_congr reconcile_teams, putTeamsOf_putTeamsOf, reconcile_teams]
  case row =>
    rcases outranks_or_not store league game with ⟨old, hold, kept⟩ | applied
    · refine ⟨_, row_of_outranks hold kept, ?_, .inl ?_⟩
      · cases hd : old.teamsDiffer (.ofFeed league game) with
        | true => exact GameRecord.teamsDiffer_self _
        | false => exact hd
      · cases old.teamsDiffer (.ofFeed league game) <;> exact kept
    · have hrecord := @putGame_record store now (.ofFeed league game)
      have hgames : (store.reconcile now mute league game).2.games =
          (store.putGame now (.ofFeed league game)).2.games := by
        rw [reconcile_of_not_outranks applied, applyGame_games, (putTeamsOf_putGame _).2]
      refine ⟨_, row_of_not_outranks applied, ?_, .inr ⟨?_, ?_⟩⟩
      · rw [hrecord]
        exact GameRecord.teamsDiffer_self _
      · exact putGame_overwrite _
      · rw [game?, hgames, putGame_games]
        exact Table.find?_put_self GameRow.id _ _

end Store

end SquarePool
