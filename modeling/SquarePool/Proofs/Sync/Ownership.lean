import SquarePool.Proofs.Sync.Journal
import SquarePool.Proofs.Sync.Reconcile
import SquarePool.Proofs.Sync.Turns

/-!
# What belongs to the owner of a pool

A run reaches into the tables of the owner of a pool for one purpose: a grid shows the names of the
teams of its game, and its settings hold their colours. Main statement: whatever the faults and
however a run ends, at no moment of it does anything else change in these tables. Pools and numbers
stay; no grid and no settings come or go; the names of a grid change only if it is in use and its
game is stored; and a colour is filled in where there is none, from the team on its side.
-/

namespace SquarePool

/-- The teams that a grid is about, home first: those of its game, if the grid is in use and the
game and both teams are stored. -/
def Store.playersOf? (store : Store) (grid : Grid) : Option (TeamRow × TeamRow) :=
  if grid.active then (grid.gameId.bind store.game?).bind store.teamsOf? else none

/-- A colour is left as it is, or it was not set and is now that of the team, with a number sign. -/
def FilledFrom (teamColour old new : Option String) : Prop :=
  new = old ∨ old = none ∧ ∃ c, teamColour = some c ∧ new = some ("#" ++ c)

/-- Each of the four colours is left as it is or filled in: those of a side from the team on that
side, the first one from its colour and the second one from its alternate colour. -/
structure GridColours.FilledBy (home away : TeamRow) (old new : GridColours) : Prop where
  gridId : new.gridId = old.gridId
  home1 : FilledFrom home.color old.home1 new.home1
  home2 : FilledFrom home.alternateColor old.home2 new.home2
  away1 : FilledFrom away.color old.away1 new.away1
  away2 : FilledFrom away.alternateColor old.away2 new.away2

/-- The grid is left as it is, or it has a stored game and gets the names of its teams. -/
def Grid.Renamed (store : Store) (old new : Grid) : Prop :=
  new = old ∨ ∃ home away, store.playersOf? old = some (home, away) ∧ new = old.withNames home away

/-- The settings are left as they are, or their grid has a stored game and they are filled in. -/
def GridColours.Refilled (store : Store) (old new : GridColours) : Prop :=
  new = old ∨ ∃ grid ∈ store.grids, grid.id = old.gridId ∧
    ∃ home away, store.playersOf? grid = some (home, away) ∧ FilledBy home away old new

/-- From one store to the next the tables of the owner of a pool change at most as games ask for. -/
structure Store.SparesOwner (a b : Store) : Prop where
  pools : b.pools = a.pools
  numberSets : b.numberSets = a.numberSets
  grids : List.Forall₂ (Grid.Renamed a) a.grids b.grids
  colours : List.Forall₂ (GridColours.Refilled a) a.colours b.colours

/-! ## One dealing -/

theorem filledFrom_fillColour (slot teamColour : Option String) :
    FilledFrom teamColour slot (fillColour slot teamColour) := by
  cases slot with
  | some c => exact .inl rfl
  | none =>
    cases teamColour with
    | none => exact .inl rfl
    | some c => exact .inr ⟨rfl, c, rfl, rfl⟩

theorem GridColours.filledBy_fill (home away : TeamRow) (colours : GridColours) :
    FilledBy home away colours (colours.fill home away) where
  gridId := rfl
  home1 := filledFrom_fillColour _ _
  home2 := filledFrom_fillColour _ _
  away1 := filledFrom_fillColour _ _
  away2 := filledFrom_fillColour _ _

/-- Rewritten rows are related to what they were as soon as those that are chosen are. -/
theorem Table.forall₂_updateWhere {α : Type} {R : α → α → Prop} (same : ∀ row, R row row)
    {chosen : α → Bool} {f : α → α} {rows : List α}
    (h : ∀ row ∈ rows, chosen row = true → R row (f row)) :
    List.Forall₂ R rows (updateWhere chosen f rows) := by
  refine List.forall₂_map_right_iff.2 (List.forall₂_same.2 fun row hrow => ?_)
  by_cases hchosen : chosen row = true
  · rw [if_pos hchosen]
    exact h row hrow hchosen
  · rw [if_neg hchosen]
    exact same row

namespace Store

variable {a b c : Store}

theorem SparesOwner.of_tables (pools : b.pools = a.pools) (numberSets : b.numberSets = a.numberSets)
    (grids : b.grids = a.grids) (colours : b.colours = a.colours) : a.SparesOwner b where
  pools := pools
  numberSets := numberSets
  grids := grids ▸ List.forall₂_same.2 fun _ _ => .inl rfl
  colours := colours ▸ List.forall₂_same.2 fun _ _ => .inl rfl

theorem SparesOwner.refl (a : Store) : a.SparesOwner a := .of_tables rfl rfl rfl rfl

/-- A grid that follows a game is about its teams. -/
theorem playersOf?_of_follows {grid : Grid} {gameId : Int} (h : grid.follows gameId = true) :
    a.playersOf? grid = (a.game? gameId).bind a.teamsOf? := by
  obtain ⟨hactive, hgame⟩ := Bool.and_eq_true_iff.1 h
  rw [playersOf?, if_pos hactive, eq_of_beq hgame]
  rfl

theorem sparesOwner_refreshGrids (gameId : Int) : a.SparesOwner (a.refreshGrids gameId).2 := by
  cases hteams : (a.game? gameId).bind a.teamsOf? with
  | none =>
    rw [refreshGrids_of_none hteams]
    exact .refl a
  | some teams =>
    rw [refreshGrids_of_some hteams]
    refine ⟨rfl, rfl, Table.forall₂_updateWhere (fun _ => .inl rfl) ?grids,
      Table.forall₂_updateWhere (fun _ => .inl rfl) ?colours⟩
    case grids =>
      intro grid _ hfollows
      exact .inr ⟨_, _, (playersOf?_of_follows hfollows).trans hteams, rfl⟩
    case colours =>
      intro colours _ hfollow
      obtain ⟨grid, hgrid, h⟩ := List.any_eq_true.1 hfollow
      obtain ⟨hid, hfollows⟩ := Bool.and_eq_true_iff.1 h
      exact .inr ⟨grid, hgrid, eq_of_beq hid, _, _,
        (playersOf?_of_follows hfollows).trans hteams, colours.filledBy_fill _ _⟩

/-- **A request** changes nothing else of what belongs to the owner. -/
theorem sparesOwner_perform (now : Instant) (r : Request) :
    a.SparesOwner (a.perform now r).2 := by
  refine perform_elim a now r (.refl a) ?putTeam ?putGame ?finalizeStale ?openLog ?closeLog
    ?refreshGrids
  case putGame =>
    intro record _
    obtain ⟨games, lastGameId, h⟩ := a.putGame_frame now record
    rw [h]
    exact .of_tables rfl rfl rfl rfl
  case refreshGrids => exact fun gameId _ => sparesOwner_refreshGrids gameId
  -- the other writes concern teams, games and logs
  all_goals
    intros
    exact .of_tables rfl rfl rfl rfl

end Store

/-! ## From the start of a run to its end -/

/-- The grid is as it was, but that it may have other names if it is in use and linked to a game. -/
def Grid.Kept (old new : Grid) : Prop :=
  new = old ∨ old.active = true ∧ old.gameId ≠ none ∧
    new = { old with homeTeamName := new.homeTeamName, awayTeamName := new.awayTeamName }

theorem Grid.Renamed.kept {store : Store} {old new : Grid} (h : old.Renamed store new) :
    old.Kept new := by
  obtain rfl | ⟨home, away, hplayers, rfl⟩ := h
  · exact .inl rfl
  · -- a grid that is about teams is in use and linked to a game
    rw [Store.playersOf?] at hplayers
    split at hplayers
    · rename_i hactive
      refine .inr ⟨hactive, fun hnone => ?_, rfl⟩
      rw [hnone] at hplayers
      exact nomatch hplayers
    · exact nomatch hplayers

theorem Grid.Kept.trans {first second third : Grid} (h : first.Kept second)
    (h' : second.Kept third) : first.Kept third := by
  obtain rfl | ⟨hactive, hgame, hsecond⟩ := h
  · exact h'
  · obtain rfl | ⟨-, -, hthird⟩ := h'
    · exact .inr ⟨hactive, hgame, hsecond⟩
    · refine .inr ⟨hactive, hgame, ?_⟩
      rw [hthird, hsecond]

/-- A colour that is set stays. -/
def KeepsSet (old new : Option String) : Prop := ∀ c, old = some c → new = some c

/-- The settings are of the same grid, and every colour that is set stays. -/
structure GridColours.Kept (old new : GridColours) : Prop where
  gridId : new.gridId = old.gridId
  home1 : KeepsSet old.home1 new.home1
  home2 : KeepsSet old.home2 new.home2
  away1 : KeepsSet old.away1 new.away1
  away2 : KeepsSet old.away2 new.away2

theorem FilledFrom.keepsSet {teamColour old new : Option String}
    (h : FilledFrom teamColour old new) : KeepsSet old new := by
  rintro c rfl
  exact h.elim id fun ⟨hnone, _⟩ => nomatch hnone

theorem GridColours.Kept.refl (colours : GridColours) : colours.Kept colours :=
  ⟨rfl, fun _ => id, fun _ => id, fun _ => id, fun _ => id⟩

theorem GridColours.Kept.trans {first second third : GridColours} (h : first.Kept second)
    (h' : second.Kept third) : first.Kept third where
  gridId := h'.gridId.trans h.gridId
  home1 := fun c hc => h'.home1 c (h.home1 c hc)
  home2 := fun c hc => h'.home2 c (h.home2 c hc)
  away1 := fun c hc => h'.away1 c (h.away1 c hc)
  away2 := fun c hc => h'.away2 c (h.away2 c hc)

theorem GridColours.Refilled.kept {store : Store} {old new : GridColours}
    (h : old.Refilled store new) : old.Kept new := by
  obtain rfl | ⟨grid, -, -, home, away, -, hfilled⟩ := h
  · exact .refl new
  · exact ⟨hfilled.gridId, hfilled.home1.keepsSet, hfilled.home2.keepsSet, hfilled.away1.keepsSet,
      hfilled.away2.keepsSet⟩

/-- From one store to another one, however much later, the owner's tables have the same rows: the
same pools and numbers, grids that differ in names at most, and settings that keep their colours. -/
structure Store.KeepsOwned (a b : Store) : Prop where
  pools : b.pools = a.pools
  numberSets : b.numberSets = a.numberSets
  grids : List.Forall₂ Grid.Kept a.grids b.grids
  colours : List.Forall₂ GridColours.Kept a.colours b.colours

theorem Store.KeepsOwned.refl (a : Store) : a.KeepsOwned a where
  pools := rfl
  numberSets := rfl
  grids := List.forall₂_same.2 fun _ _ => .inl rfl
  colours := List.forall₂_same.2 fun colours _ => .refl colours

/-- Rows that are related one by one to rows in between are related to those after them. -/
theorem forall₂_trans {α : Type} {R R' R'' : α → α → Prop}
    (step : ∀ a b c, R a b → R' b c → R'' a c) {first second third : List α}
    (h : List.Forall₂ R first second) (h' : List.Forall₂ R' second third) :
    List.Forall₂ R'' first third := by
  induction h generalizing third with
  | nil =>
    cases h'
    exact .nil
  | cons hrow _ ih =>
    cases h' with
    | cons hrow' hrest' => exact .cons (step _ _ _ hrow hrow') (ih hrest')

/-- One more step before. -/
theorem Store.SparesOwner.keepsOwned {a b c : Store} (h : a.SparesOwner b) (h' : b.KeepsOwned c) :
    a.KeepsOwned c where
  pools := h'.pools.trans h.pools
  numberSets := h'.numberSets.trans h.numberSets
  grids := forall₂_trans (fun _ _ _ renamed => renamed.kept.trans) h.grids h'.grids
  colours := forall₂_trans (fun _ _ _ refilled => refilled.kept.trans) h.colours h'.colours

namespace Recorded

variable {R : Store → Store → Prop} {feed : Feed} {scope : SyncScope}

/-- The stores in some entries lead from one store to another one, each related to the one before.
-/
def Leads (R : Store → Store → Prop) : Store → List Entry → Store → Prop
  | a, [], b => b = a
  | a, entry :: rest, b => R a entry.store ∧ Leads R entry.store rest b

theorem Leads.append {a b c : Store} {first second : List Entry} (h : Leads R a first b)
    (h' : Leads R b second c) : Leads R a (first ++ second) c := by
  induction first generalizing a with
  | nil => exact h ▸ h'
  | cons entry rest ih => exact ⟨h.1, ih h.2⟩

/-- What leaves the owner alone step by step does so from its start to its end. -/
theorem Leads.keepsOwned {a b : Store} {entries : List Entry}
    (h : Leads Store.SparesOwner a entries b) : a.KeepsOwned b := by
  induction entries generalizing a with
  | nil => exact h ▸ .refl a
  | cons entry rest ih => exact h.1.keepsOwned (ih h.2)

/-- It is told of the way from one world to another that the stores in between lead along it. -/
def Leading (R : Store → Store → Prop) : Telling := fun a _ b entries =>
  Leads R a.store entries b.store

theorem leading_sparesOwner : (Leading Store.SparesOwner).TellsStore where
  nothing _ _ := rfl
  append := Leads.append
  requested r a _ := by
    refine ⟨?_, rfl⟩
    unfold World.request
    split
    · exact .refl _
    · exact Store.sparesOwner_perform a.now r
  announced gameId a _ := by
    refine ⟨?_, rfl⟩
    unfold World.notify
    split
    · exact .refl _
    · exact .of_tables rfl rfl rfl rfl

/-- Asking the feed leaves the store as it is. -/
theorem relatesAll_leading :
    Sync.RelatesAll (services feed) (World.services feed) scope
      (Tracks (Leading Store.SparesOwner)) where
  toRelatesLogs := relatesLogs_tracks leading_sparesOwner
  ask q := fun s => ⟨[_], rfl, .refl _, rfl⟩
  recentGames league := by
    -- the two scoreboards are two questions, between which the store stays as it is, too
    intro s
    rw [Sync.recentGames_apply, Sync.recentGames_apply]
    refine ⟨[_, _], by rw [List.append_cons]; rfl, ?_⟩
    exact ⟨.refl _, .refl _, rfl⟩

/-- **A run leaves the owner of a pool alone.** Whatever the store holds, the feed does and the run
is asked to do, dry or not, the run does the same with a journal, and the stores in the journal lead
from the first one to the last one with nothing changing on the way in what belongs to the owner but
names and colours that games ask for. So the owner has the same pools, numbers, grids and settings
in the end, grids with other names at most, and no colour that was set is another one. -/
theorem runs_spare_the_owner (feed : Feed) (scope : SyncScope) (world : World)
    (modes : List SyncMode) :
    ∃ result next journal,
      Sync.run (World.services feed) scope modes world = (result, next) ∧
      Sync.run (services feed) scope modes { world } = (result, { world := next, journal }) ∧
      Leads Store.SparesOwner world.store journal next.store ∧
      world.store.KeepsOwned next.store := by
  obtain ⟨journal, hrecorded, hleads⟩ := relatesAll_leading.run modes ({ world } : Recorded)
  exact ⟨_, _, journal, rfl, hrecorded, hleads, hleads.keepsOwned⟩

end Recorded

end SquarePool
