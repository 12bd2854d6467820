import Mathlib.Data.List.Forall2
import SquarePool.Proofs.Store.Invariant

/-!
# Grids brought up to date

A grid takes the names of the teams of its game, and its settings take their colours where they have
none. Main statement: bringing the grids of a game up to date does this to every active grid that is
linked to the game and to nothing else, counts the grids and the settings that it changes, and finds
nothing to do when it is asked again.
-/

namespace SquarePool

/-- A colour becomes that of the team, with a number sign, if there was none and the team has one.
Otherwise it stays as it was. -/
def Completes (teamColour old new : Option String) : Prop :=
  match old, teamColour with
  | none, some c => new = some ("#" ++ c)
  | _, _ => new = old

/-- Each of the four colours is completed: those of a side from the team on that side, the first one
from its colour and the second one from its alternate colour. -/
structure GridColours.Completed (home away : TeamRow) (old new : GridColours) : Prop where
  gridId : new.gridId = old.gridId
  home1 : Completes home.color old.home1 new.home1
  home2 : Completes home.alternateColor old.home2 new.home2
  away1 : Completes away.color old.away1 new.away1
  away2 : Completes away.alternateColor old.away2 new.away2

/-- The names that a grid shows, home first. -/
def Grid.names (grid : Grid) : Option String × Option String :=
  (grid.homeTeamName, grid.awayTeamName)

/-- The four colours, those of the home team first. -/
def GridColours.all (colours : GridColours) : List (Option String) :=
  [colours.home1, colours.home2, colours.away1, colours.away2]

theorem completes_fillColour (slot teamColour : Option String) :
    Completes teamColour slot (fillColour slot teamColour) := by
  cases slot with
  | some c => rfl
  | none => cases teamColour <;> rfl

theorem GridColours.completed_fill (home away : TeamRow) (colours : GridColours) :
    Completed home away colours (colours.fill home away) where
  gridId := rfl
  home1 := completes_fillColour _ _
  home2 := completes_fillColour _ _
  away1 := completes_fillColour _ _
  away2 := completes_fillColour _ _

/-- A grid changes where its names do. -/
theorem Grid.withNames_eq_self_of_names (home away : TeamRow) (grid : Grid)
    (h : (grid.withNames home away).names = grid.names) : grid.withNames home away = grid := by
  obtain ⟨hhome, haway⟩ := Prod.mk.inj h
  cases grid
  simp only [withNames] at hhome haway ⊢
  rw [hhome, haway]

/-- Settings change where a colour does. -/
theorem GridColours.fill_eq_self_of_all (home away : TeamRow) (colours : GridColours)
    (h : (colours.fill home away).all = colours.all) : colours.fill home away = colours := by
  cases colours
  simp only [all, fill, List.cons.injEq, and_true] at h
  obtain ⟨home1, home2, away1, away2⟩ := h
  simp only [fill, home1, home2, away1, away2]

theorem Grid.follows_iff {grid : Grid} {gameId : Int} :
    grid.follows gameId = true ↔ grid.active = true ∧ grid.gameId = some gameId := by
  rw [follows, Bool.and_eq_true, beq_iff_eq]

namespace Store

variable {store : Store} {gameId : Int}

theorem coloursFollow_iff {colours : GridColours} :
    store.coloursFollow gameId colours = true ↔
      ∃ grid ∈ store.grids, grid.id = colours.gridId ∧ grid.active = true ∧
        grid.gameId = some gameId := by
  simp only [coloursFollow, List.any_eq_true, Bool.and_eq_true, beq_iff_eq, Grid.follows_iff]

theorem teamsOf?_eq_none {game : GameRow}
    (h : store.team? game.homeTeamId game.league = none ∨
      store.team? game.awayTeamId game.league = none) : store.teamsOf? game = none := by
  rcases h with h | h
  · simp [teamsOf?, h]
  · simp [teamsOf?, h]

section Players

variable {home away : TeamRow}
  (players : (store.game? gameId).bind store.teamsOf? = some (home, away))

include players

/-- Each grid that follows the game gets the names of its teams, and no other grid changes. -/
theorem forall₂_grids_refreshGrids :
    List.Forall₂ (fun old new => if old.active = true ∧ old.gameId = some gameId
        then new = { old with
          homeTeamName := some home.fullName, awayTeamName := some away.fullName }
        else new = old)
      store.grids (store.refreshGrids gameId).2.grids := by
  rw [refreshGrids_of_some players]
  refine List.forall₂_map_right_iff.2 (List.forall₂_same.2 fun grid _ => ?_)
  by_cases h : grid.follows gameId = true
  · rw [if_pos (Grid.follows_iff.1 h), if_pos h]
    rfl
  · rw [if_neg (mt Grid.follows_iff.2 h), if_neg h]

/-- The settings of each such grid are completed, and no others change. -/
theorem forall₂_colours_refreshGrids :
    List.Forall₂ (fun old new =>
        if ∃ grid ∈ store.grids, grid.id = old.gridId ∧ grid.active = true ∧
          grid.gameId = some gameId
        then GridColours.Completed home away old new
        else new = old)
      store.colours (store.refreshGrids gameId).2.colours := by
  rw [refreshGrids_of_some players]
  refine List.forall₂_map_right_iff.2 (List.forall₂_same.2 fun colours _ => ?_)
  by_cases h : store.coloursFollow gameId colours = true
  · rw [if_pos (coloursFollow_iff.1 h), if_pos h]
    exact colours.completed_fill home away
  · rw [if_neg (mt coloursFollow_iff.2 h), if_neg h]

/-- What is counted is what changes. -/
theorem count_refreshGrids :
    let after := (store.refreshGrids gameId).2
    (store.refreshGrids gameId).1 =
      (store.grids.zip after.grids).countP (fun (old, new) => new.names ≠ old.names) +
        (store.colours.zip after.colours).countP (fun (old, new) => new.all ≠ old.all) := by
  have named := Table.length_filter_changed (·.follows gameId) Grid.names
    (Grid.withNames_eq_self_of_names home away) store.grids
  have filled := Table.length_filter_changed (store.coloursFollow gameId) GridColours.all
    (GridColours.fill_eq_self_of_all home away) store.colours
  intro after
  simp only [after, refreshGrids, players]
  exact congrArg₂ (· + ·) named filled

/-- A grid that gets other names keeps its link, so settings belong to the games that they belonged
to. -/
theorem coloursFollow_refreshGrids (colours : GridColours) :
    (store.refreshGrids gameId).2.coloursFollow gameId colours =
      store.coloursFollow gameId colours := by
  rw [refreshGrids_of_some players, coloursFollow, coloursFollow, Table.updateWhere, List.any_map]
  congr 1
  funext grid
  by_cases h : grid.follows gameId = true
  · rw [Function.comp, if_pos h]
    rfl
  · rw [Function.comp, if_neg h]

/-- Where the grids show their names and the settings are completed, there is nothing to do. -/
theorem refreshGrids_of_fixed
    (grids : ∀ grid ∈ store.grids, grid.follows gameId = true → grid.withNames home away = grid)
    (colours : ∀ colours ∈ store.colours, store.coloursFollow gameId colours = true →
      colours.fill home away = colours) :
    store.refreshGrids gameId = (0, store) := by
  simp only [refreshGrids, players, Table.filter_changed_of_fixed grids,
    Table.filter_changed_of_fixed colours, Table.updateWhere_of_fixed grids,
    Table.updateWhere_of_fixed colours]
  rfl

/-- Asked again, there is nothing to do. -/
theorem refreshGrids_refreshGrids :
    (store.refreshGrids gameId).2.refreshGrids gameId = (0, (store.refreshGrids gameId).2) := by
  have hfollow := coloursFollow_refreshGrids players
  have players' : ((store.refreshGrids gameId).2.game? gameId).bind
      (store.refreshGrids gameId).2.teamsOf? = some (home, away) := by
    obtain ⟨grids, colours, h⟩ := store.refreshGrids_frame gameId
    rw [h]
    exact players
  refine refreshGrids_of_fixed players' ?grids ?colours
  case grids =>
    rw [refreshGrids_of_some players]
    exact fun _ => Table.fixed_of_mem_updateWhere fun grid => grid.withNames_withNames home away
  case colours =>
    intro colours hcolours
    rw [hfollow]
    rw [refreshGrids_of_some players] at hcolours
    exact Table.fixed_of_mem_updateWhere (fun colours => colours.fill_fill home away) hcolours

end Players

/-- **Grids are brought up to date** exactly and once. As long as the game or a team of it is not
stored, nothing changes. Otherwise every active grid that is linked to the game gets the full names
of its two teams; in the settings of such a grid each colour that is open takes that of the team, if
the team has one; and nothing else changes. What is counted is the grids with other names than before
and the settings with another colour. Asked again at once, nothing changes. -/
theorem refresh_completes_linked_grids (store : Store) (now : Instant) (gameId : Int) :
    let result := store.perform now (.refreshGrids gameId)
    let after := result.2
    (store.game? gameId = none → result = (0, store)) ∧
    (∀ game, store.game? gameId = some game →
      store.team? game.homeTeamId game.league = none ∨
        store.team? game.awayTeamId game.league = none → result = (0, store)) ∧
    (∀ game home away, store.game? gameId = some game →
      store.team? game.homeTeamId game.league = some home →
      store.team? game.awayTeamId game.league = some away →
        List.Forall₂ (fun old new => if old.active = true ∧ old.gameId = some gameId
            then new = { old with
              homeTeamName := some home.fullName, awayTeamName := some away.fullName }
            else new = old)
          store.grids after.grids ∧
        List.Forall₂ (fun old new =>
            if ∃ grid ∈ store.grids, grid.id = old.gridId ∧ grid.active = true ∧
              grid.gameId = some gameId
            then GridColours.Completed home away old new
            else new = old)
          store.colours after.colours ∧
        after = { store with grids := after.grids, colours := after.colours } ∧
        result.1 =
          (store.grids.zip after.grids).countP (fun (old, new) => new.names ≠ old.names) +
            (store.colours.zip after.colours).countP (fun (old, new) => new.all ≠ old.all)) ∧
    ∀ later, after.perform later (.refreshGrids gameId) = (0, after) := by
  intro result after
  have missing : (store.game? gameId).bind store.teamsOf? = none → result = (0, store) :=
    refreshGrids_of_none
  refine ⟨?noGame, ?noTeam, ?stored, ?again⟩
  case noGame =>
    intro hgame
    exact missing (by rw [hgame, Option.bind_none])
  case noTeam =>
    intro game hgame hteam
    exact missing (by rw [hgame, Option.bind_some, teamsOf?_eq_none hteam])
  case stored =>
    intro game home away hgame hhome haway
    have players : (store.game? gameId).bind store.teamsOf? = some (home, away) := by
      rw [hgame, Option.bind_some, teamsOf?_eq_some_iff.2 ⟨hhome, haway⟩]
    obtain ⟨grids, colours, frame⟩ := store.refreshGrids_frame gameId
    have hafter : after = { store with grids, colours } := frame
    refine ⟨forall₂_grids_refreshGrids players, forall₂_colours_refreshGrids players, ?_,
      count_refreshGrids players⟩
    rw [hafter]
  case again =>
    intro later
    cases h : (store.game? gameId).bind store.teamsOf? with
    | none =>
      have hafter : after = store := congrArg Prod.snd (missing h)
      rw [hafter]
      exact refreshGrids_of_none h
    | some players => exact refreshGrids_refreshGrids h

/-- Of four grids one is linked to the game, in use and without names; the others are not in use,
linked to another game, or show the names already. The home team has no alternate colour, and the
first colour of the home side was chosen by the owner. -/
theorem refresh_completes_one_of_four_grids :
    let home : TeamRow :=
      { id := "8", league := .nfl, name := "Lions", fullName := "Detroit Lions"
        abbreviation := "DET", color := some "0076b6", created := .epoch, modified := .epoch }
    let away : TeamRow :=
      { id := "12", league := .nfl, name := "Chiefs", fullName := "Kansas City Chiefs"
        abbreviation := "KC", color := some "e31837", alternateColor := some "ffb612"
        created := .epoch, modified := .epoch }
    let game : GameRow :=
      { externalId := "401", league := .nfl, homeTeamId := "8", awayTeamId := "12", start := .epoch
        season := 2024, postseason := false, id := 1, created := .epoch, modified := .epoch
        synced := .epoch }
    let store : Store :=
      { teams := [away, home]
        games := [game]
        grids := [{ id := 10, poolId := 1, gameId := some 1 },
          { id := 20, poolId := 1, gameId := some 1, active := false },
          { id := 30, poolId := 1, gameId := some 2 },
          { id := 40, poolId := 1, gameId := some 1, homeTeamName := some "Detroit Lions"
            awayTeamName := some "Kansas City Chiefs" }]
        colours := [{ gridId := 20 }, { gridId := 10, home1 := some "#ffffff" }] }
    let result := store.perform .epoch (.refreshGrids 1)
    store.game? 1 = some game ∧
      store.team? game.homeTeamId game.league = some home ∧
      store.team? game.awayTeamId game.league = some away ∧
      result.1 = 2 ∧
      result.2.colours = [{ gridId := 20 },
        { gridId := 10, home1 := some "#ffffff", away1 := some "#e31837"
          away2 := some "#ffb612" }] ∧
      result.2.perform .epoch (.refreshGrids 1) = (0, result.2) := by
  intro home away game store result
  have hgame : store.game? 1 = some game := by decide +kernel
  have hhome : store.team? game.homeTeamId game.league = some home := by decide +kernel
  have haway : store.team? game.awayTeamId game.league = some away := by decide +kernel
  obtain ⟨-, -, stored, again⟩ := store.refresh_completes_linked_grids .epoch 1
  obtain ⟨-, -, -, count⟩ := stored game home away hgame hhome haway
  exact ⟨hgame, hhome, haway, count.trans (by decide +kernel), by decide +kernel, again .epoch⟩

end Store

end SquarePool
