import Mathlib.Algebra.Ring.Int.Defs
import Mathlib.Data.List.Nodup
import SquarePool.Proofs.Store.TeamHistory

/-!
# What is left of the writes of a game

A game is written in full each time, under the identifier that the feed gives it, and the store
numbers it. Main statement: the table of games is a map from identifiers to the last write. A row is
the last record under its identifier, parts that are not known included; its number is the place at
which the identifier first appeared; and it came with the first write.
-/

namespace SquarePool

/-- The row of a game is what some writes, which are all of this game, leave. -/
structure GameRow.LastOf (row : GameRow) (writes : List (Dated GameRecord)) : Prop where
  record : writes.getLast?.map (·.record) = some row.toGameRecord
  created : writes.head?.map (·.time) = some row.created
  modified : writes.getLast?.map (·.time) = some row.modified
  synced : writes.getLast?.map (·.time) = some row.synced

namespace GameRow

variable {row : GameRow} {writes : List (Dated GameRecord)}

/-- The first write of a game. -/
theorem lastOf_nextRow (store : Store) (write : Dated GameRecord) :
    (store.nextRow write.record write.time).LastOf [write] :=
  ⟨rfl, rfl, rfl, rfl⟩

/-- **One more write** of the same game. -/
theorem LastOf.overwrite (last : row.LastOf writes) (write : Dated GameRecord) :
    (row.overwrite write.record write.time).LastOf (writes ++ [write]) := by
  refine ⟨?record, ?created, ?modified, ?synced⟩
  case created =>
    rw [List.head?_append, Option.map_or, last.created]
    rfl
  all_goals
    rw [List.getLast?_append]
    rfl

end GameRow

namespace Store

/-- The store after some games are written in turn, each at its own time. -/
def writeGames (store : Store) (writes : List (Dated GameRecord)) : Store :=
  writes.foldl (fun store write => (store.perform write.time (.putGame write.record)).2) store

variable {store : Store} {writes : List (Dated GameRecord)}

theorem writeGames_append_singleton (store : Store) (write : Dated GameRecord) :
    store.writeGames (writes ++ [write]) =
      ((store.writeGames writes).putGame write.time write.record).2 := by
  rw [writeGames, List.foldl_append]
  rfl

theorem Valid.writeGames (valid : store.Valid) (writes : List (Dated GameRecord)) :
    (store.writeGames writes).Valid := by
  induction writes using List.reverseRecOn with
  | nil => exact valid
  | append_singleton earlier write ih =>
    rw [writeGames_append_singleton]
    exact ih.putGame write.time write.record

/-- **The row of a game** after any writes is the last of its own. -/
theorem gameByExternalId?_writeGames (writes : List (Dated GameRecord)) (externalId : String) :
    let own := writes.filter (·.record.externalId = externalId)
    ((({} : Store).writeGames writes).gameByExternalId? externalId = none ↔ own = []) ∧
      ∀ row, (({} : Store).writeGames writes).gameByExternalId? externalId = some row →
        row.LastOf own := by
  induction writes using List.reverseRecOn with
  | nil => exact ⟨iff_of_true rfl rfl, fun _ h => nomatch h⟩
  | append_singleton earlier write ih =>
    obtain ⟨absent, stored⟩ := ih
    intro own
    rw [writeGames_append_singleton]
    by_cases hid : write.record.externalId = externalId
    · have hown : own = earlier.filter (·.record.externalId = externalId) ++ [write] := by
        simp [own, hid]
      subst hid
      rw [gameByExternalId?_putGame, hown]
      refine ⟨by simp, ?_⟩
      rintro _ ⟨rfl⟩
      cases h : (({} : Store).writeGames earlier).gameByExternalId? write.record.externalId with
      | none =>
        rw [putGame_of_none write.time h, absent.1 h]
        exact GameRow.lastOf_nextRow _ write
      | some old =>
        rw [putGame_of_some write.time h]
        exact (stored old h).overwrite write
    · have hown : own = earlier.filter (·.record.externalId = externalId) := by
        simp [own, hid]
      have valid := Valid.empty.writeGames earlier
      rw [valid.gameByExternalId?_putGame_of_ne write.time hid, hown]
      exact ⟨absent, stored⟩

/-- An identifier that appears again has its place already. -/
theorem eraseDups_append_singleton (ids : List String) (id : String) :
    (ids ++ [id]).eraseDups = if id ∈ ids then ids.eraseDups else ids.eraseDups ++ [id] := by
  rw [List.eraseDups_append]
  by_cases h : id ∈ ids
  · simp [List.removeAll, h]
  · simp [List.removeAll, h, List.eraseDups_cons]

/-- Games stand in the order in which their identifiers first appeared. -/
theorem map_externalId_writeGames (writes : List (Dated GameRecord)) :
    (({} : Store).writeGames writes).games.map (·.externalId) =
      (writes.map (·.record.externalId)).eraseDups := by
  induction writes using List.reverseRecOn with
  | nil => rfl
  | append_singleton earlier write ih =>
    have valid := Valid.empty.writeGames earlier
    have hknown : ((({} : Store).writeGames earlier).gameByExternalId?
        write.record.externalId).isSome = true ↔
          write.record.externalId ∈ earlier.map (·.record.externalId) := by
      rw [← List.mem_eraseDups, ← ih]
      exact Table.isSome_find?_iff
    rw [writeGames_append_singleton, List.map_append, List.map_singleton,
      eraseDups_append_singleton]
    cases h : (({} : Store).writeGames earlier).gameByExternalId? write.record.externalId with
    | some old =>
      rw [h] at hknown
      rw [if_pos (hknown.1 rfl), ← ih]
      exact valid.map_putGame write.time h (·.externalId) (Table.key_of_find? h).symm
    | none =>
      rw [h] at hknown
      have hnew : write.record.externalId ∉ earlier.map (·.record.externalId) :=
        fun hmem => nomatch hknown.2 hmem
      rw [if_neg hnew, valid.putGame_games_of_none write.time h, List.map_append, ih]
      rfl

/-- The number of a game is its place in the table. -/
theorem Valid.id_eq_idxOf (valid : store.Valid) {row : GameRow} (h : row ∈ store.games) :
    row.id = (store.games.map (·.externalId)).idxOf row.externalId + 1 := by
  obtain ⟨i, hi, rfl⟩ := List.getElem_of_mem h
  have hplace := valid.externalIds.idxOf_getElem i (by rwa [List.length_map])
  have hid : (store.games.map GameRow.id)[i]? = (numbered store.games.length)[i]? := by
    rw [valid.gameIds]
  rw [List.getElem_map] at hplace
  rw [hplace]
  simpa [numbered, hi] using hid

/-- Every game is of one of the leagues. -/
theorem sum_length_filter_league (games : List GameRow) :
    (League.all.map fun league => ((games.filter (·.league == league)).length : Int)).sum =
      games.length := by
  induction games with
  | nil => rfl
  | cons game rest ih =>
    rw [List.length_cons, Int.natCast_succ, ← ih]
    cases h : game.league <;> simp [League.all, h] <;> omega

/-- **The table of games maps identifiers to their last write.** After any writes of games, at any
times and in any order, there is a row for an identifier if it was written under. The row is the last
of those records in full, its number is the place at which the identifier first appeared, counted
from one, it came with the first of those writes, and it was last changed and synced by the last. It
is found by its number as well. There are as many games as identifiers, those of the five leagues
taken together are all of them, and each write was answered with the row that is found after it. -/
theorem game_rows_are_their_last_writes (writes : List (Dated GameRecord)) (now : Instant) :
    let store := ({} : Store).writeGames writes
    let order := (writes.map (·.record.externalId)).eraseDups
    let count (scope : Option League) : Int := (store.perform now (.gameCount scope)).1
    (∀ externalId : String,
      let own := writes.filter (·.record.externalId = externalId)
      let answer := (store.perform now (.gameByExternalId externalId)).1
      (answer = none ↔ ∀ write ∈ writes, write.record.externalId ≠ externalId) ∧
      ∀ row, answer = some row →
        row.LastOf own ∧ row.id = order.idxOf externalId + 1 ∧
          (store.perform now (.game row.id)).1 = some row) ∧
    count none = order.length ∧
    (League.all.map fun league => count (some league)).sum = count none ∧
    ∀ before write after, writes = before ++ write :: after →
      let result := (({} : Store).writeGames before).perform write.time (.putGame write.record)
      (result.2.perform now (.gameByExternalId write.record.externalId)).1 = some result.1 ∧
        (result.2.perform now (.game result.1.id)).1 = some result.1 := by
  intro store order count
  have valid : store.Valid := Valid.empty.writeGames writes
  have horder : store.games.map (·.externalId) = order := map_externalId_writeGames writes
  have hall : count none = store.games.length := by
    show ((store.games.filter fun _ => true).length : Int) = _
    rw [List.filter_true]
  refine ⟨?rows, ?number, ?leagues, ?answers⟩
  case rows =>
    intro externalId own answer
    obtain ⟨absent, stored⟩ := gameByExternalId?_writeGames writes externalId
    refine ⟨absent.trans (by simp), fun row hrow => ?_⟩
    have hid := valid.id_eq_idxOf (Table.mem_of_find? hrow)
    rw [horder, externalId_of_gameByExternalId? hrow] at hid
    exact ⟨stored row hrow, hid, valid.game?_of_gameByExternalId? hrow⟩
  case number => rw [hall, ← horder, List.length_map]
  case leagues => exact (sum_length_filter_league store.games).trans hall.symm
  case answers =>
    intro before write after _ result
    have validBefore := Valid.empty.writeGames before
    have hfound : result.2.gameByExternalId? write.record.externalId = some result.1 :=
      gameByExternalId?_putGame write.time write.record
    have validAfter : result.2.Valid := validBefore.putGame write.time write.record
    exact ⟨hfound, validAfter.game?_of_gameByExternalId? hfound⟩

/-- A game is written, then another one, and then the first one again, in another league and without
its venue and week. -/
theorem game_row_loses_its_venue :
    let first : GameRecord :=
      { externalId := "401", league := .nfl, homeTeamId := "8", awayTeamId := "12", start := .epoch
        season := 2024, week := some 3, postseason := false, venue := some "Ford Field" }
    let again : GameRecord := { first with league := .ncaaf, week := none, venue := none }
    let later := Instant.epoch.addSeconds 60
    let writes : List (Dated GameRecord) :=
      [⟨.epoch, { first with externalId := "400" }⟩, ⟨.epoch, first⟩, ⟨later, again⟩]
    let store := ({} : Store).writeGames writes
    let row : GameRow :=
      { again with id := 2, created := .epoch, modified := later, synced := later }
    store.gameByExternalId? "401" = some row ∧
      row.LastOf (writes.filter (·.record.externalId = "401")) ∧
      row.id = ["400", "401"].idxOf "401" + 1 ∧
      store.game? 2 = some row ∧
      (store.perform later (.gameCount none)).1 = 2 ∧
      ((({} : Store).writeGames (writes.take 2)).perform later (.putGame again)).1 = row := by
  intro first again later writes store row
  have hrow : store.gameByExternalId? "401" = some row := by decide +kernel
  have horder : (writes.map (·.record.externalId)).eraseDups = ["400", "401"] := by
    decide +kernel
  obtain ⟨rows, number, -, answers⟩ := game_rows_are_their_last_writes writes later
  obtain ⟨last, hid, hgame⟩ := (rows "401").2 row hrow
  obtain ⟨hfound, -⟩ := answers (writes.take 2) ⟨later, again⟩ [] rfl
  rw [horder] at hid number
  exact ⟨hrow, last, hid, hgame, number, Option.some.inj (hfound.symm.trans hrow)⟩

end Store

end SquarePool
