import Mathlib.Data.List.Induction
import SquarePool.Proofs.Store.Merged

/-!
# What is left of the writes of a team

A team is written many times over, in full or in part. Main statement: its row is the sum of the
writes under its own key, whatever else is written in between. It came with the first of them; names
and abbreviation are those of the last; and each optional part has the value that was given last, so
that a feed, whose empty texts give nothing, takes nothing away.
-/

namespace SquarePool

/-- Something that is written, with the time at which it is. -/
structure Dated (α : Type) where
  time : Instant
  record : α
  deriving DecidableEq, Repr

namespace TeamRecord

/-- The parts of a record that may be left open. -/
def optionalParts : List (TeamRecord → Option String) :=
  [location, color, alternateColor, conference, division]

/-- The optional parts that a feed has a word for, each with that word. -/
def fedParts : List ((TeamRecord → Option String) × (Team → Option String)) :=
  [(location, Team.location), (color, Team.color), (alternateColor, Team.alternateColor)]

/-- The value that some writes give a part, the last one where there are several. -/
def lastGiven (part : TeamRecord → Option String) (writes : List (Dated TeamRecord)) :
    Option String :=
  writes.reverse.findSome? fun write => part write.record

theorem lastGiven_append_singleton (part : TeamRecord → Option String)
    (writes : List (Dated TeamRecord)) (write : Dated TeamRecord) :
    lastGiven part (writes ++ [write]) = (part write.record).or (lastGiven part writes) := by
  rw [lastGiven, List.reverse_append, List.findSome?_append]
  simp [lastGiven]

theorem lastGiven_eq_none_iff {part : TeamRecord → Option String}
    {writes : List (Dated TeamRecord)} :
    lastGiven part writes = none ↔ ∀ write ∈ writes, part write.record = none := by
  simp [lastGiven]

/-- What a feed says of a part counts unless it is empty. -/
theorem part_ofFeed {parts : (TeamRecord → Option String) × (Team → Option String)}
    (h : parts ∈ fedParts) (league : League) (team : Team) :
    parts.1 (ofFeed league team) = nonEmpty (parts.2 team) := by
  simp only [fedParts, List.mem_cons, List.not_mem_nil, or_false] at h
  rcases h with rfl | rfl | rfl <;> rfl

theorem mem_optionalParts_of_mem_fedParts
    {parts : (TeamRecord → Option String) × (Team → Option String)} (h : parts ∈ fedParts) :
    parts.1 ∈ optionalParts := by
  simp only [fedParts, List.mem_cons, List.not_mem_nil, or_false] at h
  rcases h with rfl | rfl | rfl <;> simp [optionalParts]

theorem part_overwrite {part : TeamRecord → Option String} (h : part ∈ optionalParts)
    (old : TeamRow) (record : TeamRecord) (now : Instant) :
    part (old.overwrite record now).toTeamRecord =
      (part record).or (part old.toTeamRecord) := by
  simp only [optionalParts, List.mem_cons, List.not_mem_nil, or_false] at h
  rcases h with rfl | rfl | rfl | rfl | rfl <;> rfl

end TeamRecord

/-- The row of a team is what some writes, which are all of this team, leave. -/
structure TeamRow.SumsUp (row : TeamRow) (writes : List (Dated TeamRecord)) : Prop where
  created : writes.head?.map (·.time) = some row.created
  modified : writes.getLast?.map (·.time) = some row.modified
  name : writes.getLast?.map (·.record.name) = some row.name
  fullName : writes.getLast?.map (·.record.fullName) = some row.fullName
  abbreviation : writes.getLast?.map (·.record.abbreviation) = some row.abbreviation
  optional : ∀ part ∈ TeamRecord.optionalParts,
    part row.toTeamRecord = TeamRecord.lastGiven part writes

namespace TeamRow

variable {row : TeamRow} {writes : List (Dated TeamRecord)}

/-- The first write of a team. -/
theorem sumsUp_row (write : Dated TeamRecord) :
    (write.record.row write.time).SumsUp [write] := by
  refine ⟨rfl, rfl, rfl, rfl, rfl, fun part _ => ?_⟩
  rw [← List.nil_append [write], TeamRecord.lastGiven_append_singleton]
  exact (Option.or_none).symm

/-- **One more write** of the same team. -/
theorem SumsUp.overwrite (sum : row.SumsUp writes) (write : Dated TeamRecord) :
    (row.overwrite write.record write.time).SumsUp (writes ++ [write]) := by
  refine ⟨?created, ?modified, ?name, ?fullName, ?abbreviation, ?optional⟩
  case created =>
    rw [List.head?_append, Option.map_or, sum.created]
    rfl
  case optional =>
    intro part hpart
    rw [TeamRecord.part_overwrite hpart, TeamRecord.lastGiven_append_singleton,
      sum.optional part hpart]
  all_goals
    rw [List.getLast?_append]
    rfl

end TeamRow

namespace Store

/-- The store after some teams are written in turn, each at its own time. -/
def writeTeams (store : Store) (writes : List (Dated TeamRecord)) : Store :=
  writes.foldl (fun store write => (store.perform write.time (.putTeam write.record)).2) store

variable {writes : List (Dated TeamRecord)} {id : String} {league : League}

theorem writeTeams_append_singleton (store : Store) (write : Dated TeamRecord) :
    store.writeTeams (writes ++ [write]) =
      (store.writeTeams writes).putTeam write.time write.record := by
  rw [writeTeams, List.foldl_append]
  rfl

theorem team?_putTeam_of_eq {store : Store} {now : Instant} {record : TeamRecord}
    (h : record.key = (id, league)) :
    (store.putTeam now record).team? id league =
      some ((store.team? id league).elim (record.row now) (·.overwrite record now)) :=
  (team?_putTeam record id league).trans (if_pos h)

/-- **The row of a team** after any writes is the sum of its own. -/
theorem team?_writeTeams (writes : List (Dated TeamRecord)) (id : String) (league : League) :
    let own := writes.filter (·.record.key = (id, league))
    ((({} : Store).writeTeams writes).team? id league = none ↔ own = []) ∧
      ∀ row, (({} : Store).writeTeams writes).team? id league = some row → row.SumsUp own := by
  induction writes using List.reverseRecOn with
  | nil => exact ⟨iff_of_true rfl rfl, fun _ h => nomatch h⟩
  | append_singleton earlier write ih =>
    obtain ⟨absent, stored⟩ := ih
    intro own
    rw [writeTeams_append_singleton]
    -- The last write adds to the sum, or it is of another team.
    by_cases hkey : write.record.key = (id, league)
    · have hown : own = earlier.filter (·.record.key = (id, league)) ++ [write] := by
        simp [own, hkey]
      rw [team?_putTeam_of_eq hkey, hown]
      refine ⟨by simp, ?_⟩
      rintro _ ⟨rfl⟩
      cases h : (({} : Store).writeTeams earlier).team? id league with
      | none =>
        rw [absent.1 h]
        exact TeamRow.sumsUp_row write
      | some old => exact (stored old h).overwrite write
    · have hown : own = earlier.filter (·.record.key = (id, league)) := by
        simp [own, hkey]
      rw [team?_putTeam_of_ne hkey, hown]
      exact ⟨absent, stored⟩

/-- What is stored for an optional part of a team. -/
def teamPart? (store : Store) (id : String) (league : League)
    (part : TeamRecord → Option String) : Option String :=
  (store.team? id league).bind fun row => part row.toTeamRecord

/-- What is stored for a part after a write, also where there was no such team. -/
theorem teamPart?_putTeam {part : TeamRecord → Option String}
    (h : part ∈ TeamRecord.optionalParts) (store : Store) (now : Instant) (record : TeamRecord) :
    (store.putTeam now record).teamPart? id league part =
      if record.key = (id, league) then (part record).or (store.teamPart? id league part)
      else store.teamPart? id league part := by
  rw [teamPart?, teamPart?]
  by_cases own : record.key = (id, league)
  · rw [if_pos own, team?_putTeam_of_eq own]
    cases store.team? id league with
    | none => exact (Option.or_none).symm
    | some old => exact TeamRecord.part_overwrite h old record now
  · rw [if_neg own, team?_putTeam_of_ne own]

/-- A part that a record leaves open stays as it is. -/
theorem teamPart?_putTeam_of_none {part : TeamRecord → Option String}
    (h : part ∈ TeamRecord.optionalParts) (store : Store) (now : Instant) {record : TeamRecord}
    (blank : part record = none) :
    (store.putTeam now record).teamPart? id league part = store.teamPart? id league part := by
  rw [teamPart?_putTeam h, blank, Option.none_or, ite_self]

/-- No record takes away a part that is known. -/
theorem isSome_teamPart?_putTeam {part : TeamRecord → Option String}
    (h : part ∈ TeamRecord.optionalParts) {store : Store} (now : Instant) (record : TeamRecord)
    (known : (store.teamPart? id league part).isSome) :
    ((store.putTeam now record).teamPart? id league part).isSome := by
  rw [teamPart?_putTeam h]
  split
  · rw [Option.isSome_or, known, Bool.or_true]
  · exact known

/-- **The row of a team sums up its writes.** After any writes of teams, at any times and in any
order, there is a row for a key if it was written under. The row came with the first of those writes
and was last changed by the last, from which it has its names and abbreviation; each optional part
has the value that was given last, and is open only if none of them gave one. A team from a feed
leaves conference and division of every team as they are, and takes no location and no colour away:
an empty text changes nothing. -/
theorem team_rows_sum_up_their_writes (writes : List (Dated TeamRecord)) (id : String)
    (league : League) (now : Instant) :
    let store := ({} : Store).writeTeams writes
    let own := writes.filter (·.record.key = (id, league))
    let answer := (store.perform now (.team id league)).1
    (answer = none ↔ ∀ write ∈ writes, write.record.key ≠ (id, league)) ∧
    (∀ row, answer = some row → row.key = (id, league) ∧ row.SumsUp own ∧
      ∀ part ∈ TeamRecord.optionalParts,
        part row.toTeamRecord = none ↔ ∀ write ∈ own, part write.record = none) ∧
    ∀ (before : Store) (time : Instant) (played : League) (team : Team),
      let after := (before.perform time (.putTeam (.ofFeed played team))).2
      (∀ part ∈ [TeamRecord.conference, TeamRecord.division],
        after.teamPart? id league part = before.teamPart? id league part) ∧
      ∀ parts ∈ TeamRecord.fedParts,
        (parts.2 team = none ∨ parts.2 team = some "" →
          after.teamPart? id league parts.1 = before.teamPart? id league parts.1) ∧
        ((before.teamPart? id league parts.1).isSome →
          (after.teamPart? id league parts.1).isSome) := by
  intro store own answer
  obtain ⟨absent, stored⟩ := team?_writeTeams writes id league
  refine ⟨?absent, ?stored, ?fed⟩
  case absent => exact absent.trans (by simp)
  case stored =>
    intro row hrow
    have sum : row.SumsUp own := stored row hrow
    refine ⟨Table.key_of_find? hrow, sum, fun part hpart => ?_⟩
    rw [sum.optional part hpart, TeamRecord.lastGiven_eq_none_iff]
  case fed =>
    intro before time played team after
    constructor
    · intro part hpart
      have optional : part ∈ TeamRecord.optionalParts ∧ part (.ofFeed played team) = none := by
        simp only [List.mem_cons, List.not_mem_nil, or_false] at hpart
        rcases hpart with rfl | rfl
        · exact ⟨by simp [TeamRecord.optionalParts], rfl⟩
        · exact ⟨by simp [TeamRecord.optionalParts], rfl⟩
      exact teamPart?_putTeam_of_none optional.1 before time optional.2
    · intro parts hparts
      have optional := TeamRecord.mem_optionalParts_of_mem_fedParts hparts
      refine ⟨fun blank => ?_, isSome_teamPart?_putTeam optional time _⟩
      refine teamPart?_putTeam_of_none optional before time ?_
      rw [TeamRecord.part_ofFeed hparts]
      rcases blank with h | h <;> rw [h] <;> rfl

/-- A team is written with a location and without a colour, then a team of another league with the
same identifier, and then the first one again from a feed that has an empty location and a colour.
Later the feed has an empty colour too. -/
theorem team_row_keeps_its_location :
    let named : TeamRecord :=
      { id := "8", league := .nfl, name := "Detroit", fullName := "Detroit", abbreviation := "DET"
        location := some "Detroit", division := some "North" }
    let fed : Team :=
      { id := "8", name := "Lions", fullName := "Detroit Lions", abbreviation := "DET"
        location := some "", color := some "0076b6" }
    let later := Instant.epoch.addSeconds 60
    let writes : List (Dated TeamRecord) :=
      [⟨.epoch, named⟩, ⟨.epoch, { named with league := .nba, name := "Pistons" }⟩,
        ⟨later, .ofFeed .nfl fed⟩]
    let store := ({} : Store).writeTeams writes
    let row : TeamRow :=
      { named with
        name := "Lions", fullName := "Detroit Lions", color := some "0076b6"
        created := .epoch, modified := later }
    let after := (store.perform later (.putTeam (.ofFeed .nfl { fed with color := some "" }))).2
    store.team? "8" .nfl = some row ∧
      row.SumsUp (writes.filter (·.record.key = ("8", .nfl))) ∧
      after.teamPart? "8" .nfl TeamRecord.color = store.teamPart? "8" .nfl TeamRecord.color ∧
      after.teamPart? "8" .nfl TeamRecord.division =
        store.teamPart? "8" .nfl TeamRecord.division := by
  intro named fed later writes store row after
  have hrow : store.team? "8" .nfl = some row := by decide +kernel
  obtain ⟨-, stored, keeps⟩ := team_rows_sum_up_their_writes writes "8" .nfl later
  obtain ⟨untouched, kept⟩ := keeps store later .nfl { fed with color := some "" }
  have hcolor : (TeamRecord.color, Team.color) ∈ TeamRecord.fedParts := by
    simp [TeamRecord.fedParts]
  exact ⟨hrow, (stored row hrow).2.1, (kept _ hcolor).1 (.inr rfl),
    untouched TeamRecord.division (by simp)⟩

end Store

end SquarePool
