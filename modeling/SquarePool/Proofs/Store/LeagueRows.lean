import SquarePool.Proofs.Store.Merged
import SquarePool.Proofs.Store.Timeless

/-!
# The teams of one league

All leagues share one table of teams, in which a key holds the league. Main statements: a team that
is written joins the rows of its own league as if there were no others, the rows of the other
leagues stay as they are, and two tables with the same rows for each league are the same up to their
order.
-/

namespace SquarePool

namespace Store

/-- The rows of the teams of a league, in the order in which they first came. -/
def rowsOf (store : Store) (league : League) : List TeamRow :=
  store.teams.filter (·.league = league)

/-- The store with nothing in it but the teams of a league. -/
def onlyTeamsOf (store : Store) (league : League) : Store := { teams := store.rowsOf league }

variable {store a b : Store} {now : Instant} {record : TeamRecord} {records : List TeamRecord}
  {league : League}

theorem putTeam_teams (store : Store) (now : Instant) (record : TeamRecord) :
    (store.putTeam now record).teams =
      Table.put TeamRow.key ((store.team? record.id record.league).elim (record.row now)
        (·.overwrite record now)) store.teams := by
  cases h : store.team? record.id record.league with
  | none => rw [putTeam_of_none now h]; rfl
  | some old => rw [putTeam_of_some now h]; rfl

theorem team?_onlyTeamsOf (store : Store) (id : String) (league : League) :
    (store.onlyTeamsOf league).team? id league = store.team? id league := by
  refine Table.find?_filter (fun row hkey => ?_) store.teams
  exact decide_eq_true (congrArg Prod.snd hkey)

/-! ## Writing -/

/-- The row that a write leaves is of the league of the record. -/
theorem key_of_put (store : Store) (now : Instant) (record : TeamRecord) :
    ((store.team? record.id record.league).elim (record.row now)
      (·.overwrite record now)).key = record.key := by
  cases h : store.team? record.id record.league with
  | none => rfl
  | some old =>
    have hkey : old.key = record.key := Table.key_of_find? h
    exact hkey

/-- A team joins the rows of its league as if there were no others. -/
theorem rowsOf_putTeam (store : Store) (now : Instant) (record : TeamRecord) :
    (store.putTeam now record).rowsOf record.league =
      ((store.onlyTeamsOf record.league).putTeam now record).teams := by
  have hkey := store.key_of_put now record
  rw [rowsOf, putTeam_teams, putTeam_teams, team?_onlyTeamsOf]
  refine Table.filter_put_of_true ?_ ?_ store.teams
  · exact decide_eq_true (congrArg Prod.snd hkey)
  · intro other hother
    exact decide_eq_true ((congrArg Prod.snd hother).trans (congrArg Prod.snd hkey))

/-- A team leaves the rows of every other league alone. -/
theorem rowsOf_putTeam_of_ne (h : record.league ≠ league) :
    (store.putTeam now record).rowsOf league = store.rowsOf league := by
  have hkey := store.key_of_put now record
  have hrow := congrArg Prod.snd hkey
  rw [rowsOf, putTeam_teams]
  refine Table.filter_put (decide_eq_false fun e => h (hrow.symm.trans e)) ?_
  intro old _ hold
  exact decide_eq_false fun e => h (hrow.symm.trans ((congrArg Prod.snd hold).symm.trans e))

/-- **Teams of one league**, written in turn, join its rows as if there were no others. -/
theorem rowsOf_putTeams (own : ∀ record ∈ records, record.league = league) :
    (store.putTeams now records).rowsOf league =
      ((store.onlyTeamsOf league).putTeams now records).teams := by
  induction records generalizing store with
  | nil => rfl
  | cons record rest ih =>
    have hfirst : record.league = league := own record (by simp)
    have hrest : ((store.putTeam now record).putTeams now rest).rowsOf league =
        (((store.putTeam now record).onlyTeamsOf league).putTeams now rest).teams :=
      ih fun r hr => own r (by simp [hr])
    have hteams : (store.putTeam now record).rowsOf league =
        ((store.onlyTeamsOf league).putTeam now record).teams := by
      rw [← hfirst]
      exact store.rowsOf_putTeam now record
    show ((store.putTeam now record).putTeams now rest).rowsOf league =
      (((store.onlyTeamsOf league).putTeam now record).putTeams now rest).teams
    rw [hrest, onlyTeamsOf, hteams]
    rfl

/-- **Teams of one league** leave the rows of every other league alone. -/
theorem rowsOf_putTeams_of_ne (other : ∀ record ∈ records, record.league ≠ league) :
    (store.putTeams now records).rowsOf league = store.rowsOf league := by
  induction records generalizing store with
  | nil => rfl
  | cons record rest ih =>
    have hrest : ((store.putTeam now record).putTeams now rest).rowsOf league =
        (store.putTeam now record).rowsOf league := ih fun r hr => other r (by simp [hr])
    exact hrest.trans (rowsOf_putTeam_of_ne (other record (by simp)))

/-! ## Two tables -/

theorem timeless_putTeams (store : Store) (now : Instant) (records : List TeamRecord) :
    (store.putTeams now records).timeless = store.timeless.putTeams .epoch records := by
  induction records generalizing store with
  | nil => rfl
  | cons record rest ih =>
    show ((store.putTeam now record).putTeams now rest).timeless =
      (store.timeless.putTeam .epoch record).putTeams .epoch rest
    rw [ih, timeless_putTeam]

theorem rowsOf_timeless (store : Store) (league : League) :
    store.timeless.rowsOf league = (store.rowsOf league).map TeamRow.timeless := by
  rw [rowsOf, rowsOf, timeless, List.filter_map]
  rfl

/-- **Tables of teams** with the same rows for each league are the same up to their order. -/
theorem teams_perm_of_rowsOf (h : ∀ league, a.rowsOf league = b.rowsOf league) :
    a.teams.Perm b.teams := by
  refine List.perm_iff_count.2 fun row => ?_
  have hcount : ∀ store : Store, store.teams.count row = (store.rowsOf row.league).count row :=
    fun store => (List.count_filter (by simp)).symm
  rw [hcount, hcount, h]

end Store

end SquarePool
