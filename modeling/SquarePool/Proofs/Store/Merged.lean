import SquarePool.Proofs.Sync.Settled

/-!
# Teams written in a row

Games share teams, so a list of games writes some teams more than once, each time with what that
game says of them. For one team all of it comes down to a single record, in which what was said last
stands and what was left open is filled in from before. Main statement: a table that took in a list
of records takes it in again without a change, except for the time.
-/

namespace SquarePool

/-- The key under which a record is stored. -/
def TeamRecord.key (record : TeamRecord) : String × League := (record.id, record.league)

/-- A record with the open parts filled in from an earlier one. -/
def TeamRecord.over (later earlier : TeamRecord) : TeamRecord :=
  { later with
    location := later.location.or earlier.location
    color := later.color.or earlier.color
    alternateColor := later.alternateColor.or earlier.alternateColor
    conference := later.conference.or earlier.conference
    division := later.division.or earlier.division }

namespace TeamRow

/-- The team without the time of its last write. -/
def undated (team : TeamRow) : TeamRow := { team with modified := .epoch }

/-- A stored team after those of some records that are its own are written over it in turn. -/
def takeIn (row : TeamRow) (records : List TeamRecord) (now : Instant) : TeamRow :=
  records.foldl (fun row record => if record.key = row.key then row.overwrite record now else row)
    row

variable {row : TeamRow} {records : List TeamRecord} {now later : Instant}

theorem takeIn_append (first second : List TeamRecord) :
    row.takeIn (first ++ second) now = (row.takeIn first now).takeIn second now :=
  List.foldl_append

theorem takeIn_singleton_of_eq {record : TeamRecord} (h : record.key = row.key) :
    row.takeIn [record] now = row.overwrite record now := by
  simp only [takeIn, List.foldl_cons, List.foldl_nil, if_pos h]

theorem takeIn_singleton_of_ne {record : TeamRecord} (h : record.key ≠ row.key) :
    row.takeIn [record] now = row := by
  simp only [takeIn, List.foldl_cons, List.foldl_nil, if_neg h]

/-- Two records in turn are one, the second over the first. -/
theorem overwrite_over (first second : TeamRecord) :
    (row.overwrite first now).overwrite second now = row.overwrite (second.over first) now := by
  simp only [overwrite, TeamRecord.over, Option.or_assoc]

/-- For the team of one key, records written in turn are no record or a single one. -/
theorem takeIn_eq (records : List TeamRecord) (key : String × League) :
    (∀ (row : TeamRow) (now : Instant), row.key = key → row.takeIn records now = row) ∨
      ∃ merged : TeamRecord, ∀ (row : TeamRow) (now : Instant), row.key = key →
        row.takeIn records now = row.overwrite merged now := by
  induction records with
  | nil => exact .inl fun _ _ _ => rfl
  | cons record rest ih =>
    by_cases own : record.key = key
    · have hcons : ∀ (row : TeamRow) (now : Instant), row.key = key →
          row.takeIn (record :: rest) now = (row.overwrite record now).takeIn rest now := by
        intro row now hrow
        rw [← List.singleton_append, takeIn_append, takeIn_singleton_of_eq (own.trans hrow.symm)]
      rcases ih with none | ⟨merged, single⟩
      · refine .inr ⟨record, fun row now hrow => ?_⟩
        have hover : (row.overwrite record now).key = key := hrow
        rw [hcons row now hrow, none _ now hover]
      · refine .inr ⟨merged.over record, fun row now hrow => ?_⟩
        have hover : (row.overwrite record now).key = key := hrow
        rw [hcons row now hrow, single _ now hover, overwrite_over]
    · have hcons : ∀ (row : TeamRow) (now : Instant), row.key = key →
          row.takeIn (record :: rest) now = row.takeIn rest now := by
        intro row now hrow
        rw [← List.singleton_append, takeIn_append, takeIn_singleton_of_ne (hrow ▸ own)]
      rcases ih with none | ⟨merged, single⟩
      · exact .inl fun row now hrow => (hcons row now hrow).trans (none row now hrow)
      · exact .inr ⟨merged, fun row now hrow => (hcons row now hrow).trans (single row now hrow)⟩

/-- Records that are all of other teams leave a team alone. -/
theorem takeIn_of_ne (h : ∀ record ∈ records, record.key ≠ row.key) :
    row.takeIn records now = row := by
  induction records with
  | nil => rfl
  | cons record rest ih =>
    have hfirst : record.key ≠ row.key := h record (by simp)
    rw [← List.singleton_append, takeIn_append, takeIn_singleton_of_ne hfirst]
    exact ih fun other hother => h other (by simp [hother])

/-- A team that took in some records takes them in again without a change, except for the time. -/
theorem undated_takeIn_takeIn :
    ((row.takeIn records now).takeIn records later).undated = (row.takeIn records now).undated := by
  rcases takeIn_eq records row.key with none | ⟨merged, single⟩
  · rw [none row now rfl, none row later rfl]
  · have hkey : (row.overwrite merged now).key = row.key := rfl
    rw [single row now rfl, single _ later hkey]
    simp [undated, overwrite, Option.or_self, ← Option.or_assoc]

end TeamRow

namespace Store

/-- Writes teams in turn. -/
def putTeams (store : Store) (now : Instant) (records : List TeamRecord) : Store :=
  records.foldl (fun store record => store.putTeam now record) store

variable {store : Store} {records : List TeamRecord} {now later : Instant}

theorem Valid.putTeams (valid : store.Valid) (now : Instant) (records : List TeamRecord) :
    (store.putTeams now records).Valid := by
  induction records generalizing store with
  | nil => exact valid
  | cons record rest ih => exact ih (valid.putTeam now record)

/-- A write over a stored team, seen as a change of every row. -/
theorem Valid.putTeam_teams_of_some (valid : store.Valid) (now : Instant) {record : TeamRecord}
    {old : TeamRow} (h : store.team? record.id record.league = some old) :
    (store.putTeam now record).teams = store.teams.map (·.takeIn [record] now) := by
  have hkey : old.key = record.key := Table.key_of_find? h
  rw [putTeam_of_some now h]
  dsimp only
  rw [Table.put_of_nodup valid.teamKeys (old.overwrite record now) (Table.mem_of_find? h) rfl]
  refine List.map_congr_left fun row hrow => ?_
  by_cases own : row.key = old.key
  · have hrow : row = old :=
      Table.eq_of_mem_of_key valid.teamKeys hrow (Table.mem_of_find? h) own
    rw [hrow, if_pos rfl, TeamRow.takeIn_singleton_of_eq hkey.symm]
  · have hother : record.key ≠ row.key := fun e => own (e.symm.trans hkey.symm)
    rw [if_neg own, TeamRow.takeIn_singleton_of_ne hother]

/-- Writing teams that are all stored, seen as a change of every row. -/
theorem Valid.putTeams_teams (valid : store.Valid)
    (known : ∀ record ∈ records, record.key ∈ store.teams.map TeamRow.key) :
    (store.putTeams now records).teams = store.teams.map (·.takeIn records now) := by
  induction records generalizing store with
  | nil => exact (List.map_id store.teams).symm
  | cons record rest ih =>
    obtain ⟨old, hold⟩ := Option.isSome_iff_exists.1
      (Table.isSome_find?_iff.2 (known record (by simp)))
    have hteams := valid.putTeam_teams_of_some now hold
    have hkeys := map_putTeam_of_some now hold TeamRow.key rfl
    have hrest := ih (valid.putTeam now record) fun other hother => by
      rw [hkeys]
      exact known other (by simp [hother])
    show ((store.putTeam now record).putTeams now rest).teams = _
    rw [hrest, hteams, List.map_map]
    refine List.map_congr_left fun row _ => ?_
    exact (TeamRow.takeIn_append [record] rest).symm

/-- The table of teams took in some records: it has all their teams, and each of its rows came to be
by writing them over some row in turn. -/
structure TookIn (store : Store) (records : List TeamRecord) (now : Instant) : Prop where
  known : ∀ record ∈ records, record.key ∈ store.teams.map TeamRow.key
  taken : ∀ row ∈ store.teams, ∃ base : TeamRow, base.takeIn records now = row

/-- **One more record** is taken in. -/
theorem TookIn.putTeam (took : store.TookIn records now) (valid : store.Valid)
    (record : TeamRecord) : (store.putTeam now record).TookIn (records ++ [record]) now := by
  cases h : store.team? record.id record.league with
  | some old =>
    have hteams := valid.putTeam_teams_of_some now h
    constructor
    case known =>
      rw [map_putTeam_of_some now h TeamRow.key rfl]
      intro other hother
      rcases List.mem_append.1 hother with hother | hother
      · exact took.known other hother
      · rw [List.mem_singleton.1 hother]
        exact Table.isSome_find?_iff.1 (Option.isSome_of_eq_some h)
    case taken =>
      rw [hteams]
      intro row' hrow'
      obtain ⟨row, hrow, rfl⟩ := List.mem_map.1 hrow'
      obtain ⟨base, rfl⟩ := took.taken row hrow
      exact ⟨base, TeamRow.takeIn_append records [record]⟩
  | none =>
    have hteams := putTeam_teams_of_none now h
    constructor
    case known =>
      rw [hteams, List.map_append]
      intro other hother
      rcases List.mem_append.1 hother with hother | hother
      · exact List.mem_append_left _ (took.known other hother)
      · rw [List.mem_singleton.1 hother]
        exact List.mem_append_right _ (List.mem_singleton_self _)
    case taken =>
      rw [hteams]
      intro row hrow
      rcases List.mem_append.1 hrow with hrow | hrow
      · -- no row that was there before is of this team
        obtain ⟨base, rfl⟩ := took.taken row hrow
        have hother : record.key ≠ (base.takeIn records now).key := fun e =>
          Table.find?_eq_none_iff.1 h _ hrow e.symm
        refine ⟨base, ?_⟩
        rw [TeamRow.takeIn_append, TeamRow.takeIn_singleton_of_ne hother]
      · -- no record before was of this team
        rw [List.mem_singleton.1 hrow]
        have hothers : ∀ other ∈ records, other.key ≠ (record.row now).key := by
          intro other hother same
          obtain ⟨row, hrow, hkey⟩ := List.mem_map.1 (took.known other hother)
          exact Table.find?_eq_none_iff.1 h row hrow (hkey.trans same)
        have hown : record.key = (record.row now).key := rfl
        refine ⟨record.row now, ?_⟩
        rw [TeamRow.takeIn_append, TeamRow.takeIn_of_ne hothers,
          TeamRow.takeIn_singleton_of_eq hown, record.overwrite_row]

/-- **A list of records** is taken in. -/
theorem TookIn.putTeams (took : store.TookIn records now) (valid : store.Valid)
    (more : List TeamRecord) : (store.putTeams now more).TookIn (records ++ more) now := by
  induction more generalizing store records with
  | nil =>
    rw [List.append_nil]
    exact took
  | cons record rest ih =>
    have hrest := ih (took.putTeam valid record) (valid.putTeam now record)
    rwa [List.append_assoc, List.singleton_append] at hrest

theorem Valid.tookIn_putTeams (valid : store.Valid) (now : Instant) (records : List TeamRecord) :
    (store.putTeams now records).TookIn records now := by
  have start : store.TookIn [] now := ⟨by simp, fun row _ => ⟨row, rfl⟩⟩
  exact start.putTeams valid records

/-- **Teams written again** in the same order, even later, change at most in the time of their last
write. -/
theorem Valid.undated_putTeams_putTeams (valid : store.Valid) :
    ((store.putTeams now records).putTeams later records).teams.map TeamRow.undated =
      (store.putTeams now records).teams.map TeamRow.undated := by
  have took := valid.tookIn_putTeams now records
  rw [(valid.putTeams now records).putTeams_teams took.known, List.map_map]
  refine List.map_congr_left fun row hrow => ?_
  obtain ⟨base, rfl⟩ := took.taken row hrow
  exact TeamRow.undated_takeIn_takeIn

end Store

end SquarePool
