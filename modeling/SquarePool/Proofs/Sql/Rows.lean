import SquarePool.Proofs.Sql.Records
import SquarePool.Store.Basic

/-!
# Records and their rows

What a write puts in the columns of a row, and what a read takes from them. A record is first shown
to stand in its columns, each in its own; then whatever else the row holds, the record is read back
from it. Main statement: teams and games come back from their rows as they were written.
-/

namespace SquarePool.Sql

/-! ## What is written -/

section

variable {ρ : Type} {columns : List (Column ρ)} {record : ρ} {row stored : Row} {time : Instant}
  {table name : String} {key touched returned : List String} {assigned : String → Expression}
  {params : List Value} {kept : String → Value}

/-- Each column of a row has its value for the record. -/
def Row.Holds (row : Row) (columns : List (Column ρ)) (record : ρ) : Prop :=
  ∀ column ∈ columns, row.value column.name = column.value record

theorem Row.Holds.select {selection : List String} (h : row.Holds columns record)
    (hnames : ∀ column ∈ columns, column.name ∈ selection) :
    (row.select selection).Holds columns record := fun column hcolumn => by
  rw [Row.value_select (hnames column hcolumn), h column hcolumn]

/-- Cells of other columns, put in front, change nothing. -/
theorem Row.Holds.prepend {cells : Row} (h : row.Holds columns record)
    (hother : ∀ name ∈ columns.map (·.name), name ∉ cells.map (·.1)) :
    Row.Holds (cells ++ row) columns record := fun column hcolumn => by
  rw [Row.value_append_of_notMem (hother _ (List.mem_map_of_mem hcolumn)), h column hcolumn]

/-- A row in which the columns come first, under different names. -/
theorem holds_map_append (hnodup : (columns.map (·.name)).Nodup) :
    Row.Holds (columns.map (fun column => (column.name, column.value record)) ++ row) columns
      record := by
  intro column hcolumn
  induction columns with
  | nil => cases hcolumn
  | cons first others ih =>
    rw [List.map_cons, List.nodup_cons] at hnodup
    rcases List.mem_cons.1 hcolumn with rfl | hcolumn
    · simp [Row.value]
    · have hne : column.name ≠ first.name := fun heq =>
        hnodup.1 (heq ▸ List.mem_map_of_mem hcolumn)
      have hlater := ih hnodup.2 hcolumn
      simp only [Row.value, List.map_cons, List.cons_append, List.lookup_cons,
        beq_false_of_ne hne] at hlater ⊢
      exact hlater

/-- The parameters from a place on are the values from that place on. -/
theorem filterMap_zip_params (record : ρ) (time : Instant) (before : List Value)
    (columns : List (Column ρ)) :
    ((columns.map (·.name)).zip ((List.range columns.length).map fun i =>
        Expression.param (before.length + i + 1))).filterMap (fun (name, e) =>
      (e.value? (before ++ columns.map (·.value record)) time [] []).map (name, ·)) =
    columns.map fun column => (column.name, column.value record) := by
  induction columns generalizing before with
  | nil => rfl
  | cons column others ih =>
    have hothers := ih (before ++ [column.value record])
    have hfirst : param? (before ++ column.value record :: others.map (·.value record))
        (before.length + 0 + 1) = some (column.value record) := by simp [param?]
    have hplaces : (fun i => Expression.param ((before ++ [column.value record]).length + i + 1)) =
        (fun i => Expression.param (before.length + i + 1)) ∘ Nat.succ := by
      funext i
      simp only [List.length_append, List.length_singleton, Function.comp_apply,
        Nat.succ_eq_add_one, Expression.param.injEq]
      omega
    rw [List.append_assoc, List.singleton_append, hplaces] at hothers
    rw [List.length_cons, List.range_succ_eq_map, List.map_cons, List.map_cons, List.map_cons,
      List.map_cons, List.map_map, List.zip_cons_cons, List.filterMap_cons, hothers]
    simp only [Expression.value?, hfirst, Option.map_some]

theorem proposal_writing :
    (writing table columns key touched assigned returned).proposal (columns.map (·.value record))
        time =
      columns.map (fun column => (column.name, column.value record)) ++
        ("created" :: touched).map (·, toValue time) := by
  have hlength : (columns.map (·.name)).length = (paramsFor columns).length := by
    simp [paramsFor]
  have hparams := filterMap_zip_params record time [] columns
  simp only [List.length_nil, Nat.zero_add, List.nil_append] at hparams
  have htimes : (("created" :: touched).zip
      (("created" :: touched).map fun _ => Expression.now)).filterMap (fun (name, e) =>
        (e.value? (columns.map (·.value record)) time [] []).map (name, ·)) =
      ("created" :: touched).map (·, toValue time) := by
    rw [← List.map_prod_left_eq_zip, List.filterMap_map]
    exact congrFun List.filterMap_eq_map _
  rw [Upsert.proposal, writing, List.zip_append hlength, List.filterMap_append, htimes]
  exact congrArg (· ++ _) hparams

/-- **A row that is inserted** has the record in its columns. -/
theorem holds_proposal (hnodup : (columns.map (·.name)).Nodup) :
    ((writing table columns key touched assigned returned).proposal (columns.map (·.value record))
      time).Holds columns record := by
  rw [proposal_writing]
  exact holds_map_append hnodup

/-- The columns outside the key are assigned first, then the times at which the row was touched. -/
theorem merge_writing
    (hassigned : ∀ name, (assigned name).value? params time
      ((writing table columns key touched assigned returned).proposal params time) stored =
        some (kept name)) :
    (writing table columns key touched assigned returned).merge params time stored =
      ((columns.map (·.name)).filter (· ∉ key)).map (fun name => (name, kept name)) ++
        (touched.map (·, toValue time) ++ stored) := by
  let value? (cell : String × Expression) := (cell.2.value? params time
    ((writing table columns key touched assigned returned).proposal params time) stored).map
      (cell.1, ·)
  have hkept : value? ∘ (fun name => (name, assigned name)) =
      some ∘ fun name => (name, kept name) := by
    funext name
    simp only [Function.comp_apply, value?, hassigned, Option.map_some]
  have htouched : value? ∘ (fun name => (name, Expression.now)) =
      some ∘ fun name => (name, toValue time) := rfl
  show List.filterMap value? (_ ++ _) ++ stored = _
  rw [List.filterMap_append, List.filterMap_map, List.filterMap_map, hkept, htouched,
    List.filterMap_eq_map, List.filterMap_eq_map, List.append_assoc]

/-- What a merge does to a column: it is assigned, or is a time at which the row was touched, or
stays as it was. -/
theorem value_merge_writing (kept : String → Value)
    (hassigned : ∀ name, (assigned name).value? params time
      ((writing table columns key touched assigned returned).proposal params time) stored =
        some (kept name)) (name : String) :
    ((writing table columns key touched assigned returned).merge params time stored).value name =
      if name ∈ columns.map (·.name) ∧ name ∉ key then kept name
      else if name ∈ touched then toValue time else stored.value name := by
  rw [merge_writing hassigned]
  split
  · next h => exact Row.value_map_append kept (by simpa [List.mem_filter] using h)
  · next h =>
    rw [Row.value_append_of_notMem (by simpa [List.mem_filter] using h)]
    split
    · next htouched => exact Row.value_map_append (fun _ => toValue time) htouched
    · next htouched => exact Row.value_append_of_notMem (by simpa using htouched)

theorem mem_assignments_writing {e : Expression} :
    (name, e) ∈ (writing table columns key touched assigned returned).assignments ↔
      (name ∈ columns.map (·.name) ∧ name ∉ key ∧ e = assigned name) ∨
        (name ∈ touched ∧ e = .now) := by
  rw [writing, List.mem_append]
  refine or_congr ⟨fun h => ?_, fun ⟨hname, hkey, he⟩ => ?_⟩ ⟨fun h => ?_, fun ⟨hname, he⟩ => ?_⟩
  · obtain ⟨_, hmem, rfl, rfl⟩ := by simpa only [List.mem_map, Prod.mk.injEq] using h
    exact ⟨(List.mem_filter.1 hmem).1, by simpa using (List.mem_filter.1 hmem).2, rfl⟩
  · exact List.mem_map.2 ⟨name, List.mem_filter.2 ⟨hname, by simpa using hkey⟩, by rw [he]⟩
  · obtain ⟨_, hmem, rfl, rfl⟩ := by simpa only [List.mem_map, Prod.mk.injEq] using h
    exact ⟨hmem, rfl⟩
  · exact List.mem_map.2 ⟨name, hname, by rw [he]⟩

end

/-! ## What is read -/

section

variable {row : Row} {column : String}

theorem read_of_value {α : Type} [Datum α] [LawfulDatum α] {a : α}
    (h : row.value column = toValue a) : row.read column = .ok a := by
  rw [Row.read, h, read_toValue]

theorem readWord_of_value {α : Type} {ofText : String → Except Invalid α} {text : String} {a : α}
    (h : row.value column = toValue text) (hread : ofText text = .ok a) :
    row.readWord column ofText = .ok a := by
  simp only [Row.readWord, read_of_value h, bind, Except.bind, hread]

/-- **Every league** that is written reads back. -/
theorem leagueOfName_key (league : League) : League.ofName (key league) = .ok league := by
  cases league <;> decide +kernel

/-- **Every status** that is written reads back. -/
theorem statusOfText_key (status : GameStatus) : GameStatus.ofText (key status) = .ok status := by
  rw [GameStatus.ofText, ofKey?_key]

/-- Line scores are read from their own columns. -/
theorem readLines_of_values {side : String} {lines : LineScores}
    (hq1 : row.value (side ++ "_q1") = toValue lines.q1)
    (hq2 : row.value (side ++ "_q2") = toValue lines.q2)
    (hq3 : row.value (side ++ "_q3") = toValue lines.q3)
    (hq4 : row.value (side ++ "_q4") = toValue lines.q4)
    (hot : row.value (side ++ "_ot") = toValue lines.ot) : readLines row side = .ok lines := by
  simp only [readLines, read_of_value hq1, read_of_value hq2, read_of_value hq3, read_of_value hq4,
    read_of_value hot, bind, Except.bind]

theorem readGame_of_holds {game : GameRecord} {id : Int} {created modified synced : Instant}
    (h : row.Holds gameColumns game) (hid : row.value "id" = toValue id)
    (hcreated : row.value "created" = toValue created)
    (hmodified : row.value "modified" = toValue modified)
    (hsynced : row.value "last_synced" = toValue synced) :
    readGame row = .ok { toGameRecord := game, id, created, modified, synced } := by
  simp only [Row.Holds, gameColumns, List.forall_mem_cons] at h
  obtain ⟨hexternal, hleague, hname, hhome, haway, hstart, hseason, hweek, hpost, hvenue, hstatus,
    hdetail, hperiod, hclock, hhomeTotal, hawayTotal, hh1, hh2, hh3, hh4, hhot, ha1, ha2, ha3, ha4,
    haot, -⟩ := h
  have hhomeLines : readLines row "home" = .ok game.progress.home.lines :=
    readLines_of_values hh1 hh2 hh3 hh4 hhot
  have hawayLines : readLines row "away" = .ok game.progress.away.lines :=
    readLines_of_values ha1 ha2 ha3 ha4 haot
  have hprogress : readProgress row = .ok game.progress := by
    simp only [readProgress, readWord_of_value hstatus (statusOfText_key _), read_of_value hdetail,
      read_of_value hperiod, read_of_value hclock, read_of_value hhomeTotal,
      read_of_value hawayTotal, hhomeLines, hawayLines, bind, Except.bind]
  simp only [readGame, read_of_value hid, read_of_value hexternal,
    readWord_of_value hleague (leagueOfName_key _), read_of_value hname, read_of_value hhome,
    read_of_value haway, read_of_value hstart, read_of_value hseason, read_of_value hweek,
    read_of_value hpost, read_of_value hvenue, hprogress, read_of_value hcreated,
    read_of_value hmodified, read_of_value hsynced, bind, Except.bind]

theorem readTeam_of_holds {team : TeamRecord} {created modified : Instant}
    (h : row.Holds teamColumns team) (hcreated : row.value "created" = toValue created)
    (hmodified : row.value "modified" = toValue modified) :
    readTeam row = .ok { toTeamRecord := team, created, modified } := by
  simp only [Row.Holds, teamColumns, List.forall_mem_cons] at h
  obtain ⟨hid, hleague, hname, hfull, habbreviation, hlocation, hcolor, halternate, hconference,
    hdivision, -⟩ := h
  simp only [readTeam, read_of_value hid, readWord_of_value hleague (leagueOfName_key _),
    read_of_value hname, read_of_value hfull, read_of_value habbreviation,
    read_of_value hlocation, read_of_value hcolor, read_of_value halternate,
    read_of_value hconference, read_of_value hdivision, read_of_value hcreated,
    read_of_value hmodified, bind, Except.bind]

end

/-! ## Records come back -/

/-- Whichever statement about games a row answers, the game is read from it. -/
def GameReadsBack (row : Row) (game : GameRow) : Prop :=
  ∀ statement : Statement, statement.AnswersGames → ∃ columns, statement.answered? = some columns ∧
    readGame (row.select columns) = .ok game

/-- Whichever statement about teams a row answers, the team is read from it. -/
def TeamReadsBack (row : Row) (team : TeamRow) : Prop :=
  ∀ statement : Statement, statement.AnswersTeams → ∃ columns, statement.answered? = some columns ∧
    readTeam (row.select columns) = .ok team

theorem gameReadsBack_of_holds {row : Row} {game : GameRow}
    (h : row.Holds gameColumns game.toGameRecord) (hid : row.value "id" = toValue game.id)
    (hcreated : row.value "created" = toValue game.created)
    (hmodified : row.value "modified" = toValue game.modified)
    (hsynced : row.value "last_synced" = toValue game.synced) : GameReadsBack row game := by
  intro statement hstatement
  have hselected {name : String} (hname : name ∈ gameSelection) :
      (row.select gameSelection).value name = row.value name := Row.value_select hname
  refine ⟨gameSelection, hstatement.answered?, ?_⟩
  refine readGame_of_holds (h.select fun column hcolumn => ?_)
    ((hselected (by decide)).trans hid) ((hselected (by decide)).trans hcreated)
    ((hselected (by decide)).trans hmodified) ((hselected (by decide)).trans hsynced)
  exact List.mem_cons_of_mem _ (List.mem_append_left _ (List.mem_map_of_mem hcolumn))

theorem teamReadsBack_of_holds {row : Row} {team : TeamRow}
    (h : row.Holds teamColumns team.toTeamRecord) (hcreated : row.value "created" = toValue team.created)
    (hmodified : row.value "modified" = toValue team.modified) : TeamReadsBack row team := by
  intro statement hstatement
  have hselected {name : String} (hname : name ∈ teamSelection) :
      (row.select teamSelection).value name = row.value name := Row.value_select hname
  refine ⟨teamSelection, hstatement.answered?, ?_⟩
  refine readTeam_of_holds (h.select fun column hcolumn => ?_)
    ((hselected (by decide)).trans hcreated) ((hselected (by decide)).trans hmodified)
  exact List.mem_append_left _ (List.mem_map_of_mem hcolumn)

/-! ### Rows that are inserted -/

/-- What the database decides about a game. -/
def gameStamps (id : Int) (created modified synced : Instant) : Row :=
  [("id", toValue id), ("created", toValue created), ("modified", toValue modified),
    ("last_synced", toValue synced)]

/-- What the database decides about a team. -/
def teamStamps (created modified : Instant) : Row :=
  [("created", toValue created), ("modified", toValue modified)]

theorem nodup_gameColumns : (gameColumns.map (·.name)).Nodup := by decide +kernel

theorem nodup_teamColumns : (teamColumns.map (·.name)).Nodup := by decide +kernel

theorem notMem_gameStamps : ∀ name ∈ gameColumns.map (·.name),
    name ∉ ["id", "created", "modified", "last_synced"] := by
  decide +kernel

theorem notMem_teamStamps : ∀ name ∈ teamColumns.map (·.name), name ∉ ["created", "modified"] := by
  decide +kernel

/-- A game that is inserted reads back, whatever the database decides about it. -/
theorem gameReadsBack_proposal (game : GameRecord) (time : Instant) (id : Int)
    (created modified synced : Instant) :
    GameReadsBack (gameStamps id created modified synced ++
      gameUpsert.proposal (Statement.putGame game).params time)
      { toGameRecord := game, id, created, modified, synced } :=
  gameReadsBack_of_holds ((holds_proposal nodup_gameColumns).prepend notMem_gameStamps)
    rfl rfl rfl rfl

/-- A team that is inserted reads back, whatever the database decides about it. -/
theorem teamReadsBack_proposal (team : TeamRecord) (time created modified : Instant) :
    TeamReadsBack (teamStamps created modified ++
      teamUpsert.proposal (Statement.putTeam team).params time)
      { toTeamRecord := team, created, modified } :=
  teamReadsBack_of_holds ((holds_proposal nodup_teamColumns).prepend notMem_teamStamps) rfl rfl

/-! ### Rows that are stored already -/

/-- A game that is written over a stored one keeps the number and the time of creation of that. -/
theorem gameReadsBack_merge {game : GameRecord} {time : Instant} {stored : Row} {id : Int}
    {created : Instant}
    (hkey : gameUpsert.Conflicts (Statement.putGame game).params time stored)
    (hid : stored.value "id" = toValue id) (hcreated : stored.value "created" = toValue created) :
    GameReadsBack (gameUpsert.merge (Statement.putGame game).params time stored)
      { game.row time with id, created } := by
  let proposed := gameUpsert.proposal (Statement.putGame game).params time
  have hvalue (name : String) :
      (gameUpsert.merge (Statement.putGame game).params time stored).value name =
        if name ∈ gameColumns.map (·.name) ∧ name ∉ ["espn_id"] then proposed.value name
        else if name ∈ ["modified", "last_synced"] then toValue time else stored.value name :=
    value_merge_writing proposed.value (fun _ => rfl) name
  refine gameReadsBack_of_holds (fun column hcolumn => ?_) ?_ ?_ ?_ ?_
  · have hproposed : proposed.value column.name = column.value game :=
      holds_proposal nodup_gameColumns column hcolumn
    by_cases hexternal : column.name ∈ ["espn_id"]
    · have hstays : column.name ∉ ["modified", "last_synced"] :=
        (by decide : ∀ name ∈ ["espn_id"], name ∉ ["modified", "last_synced"]) _ hexternal
      rw [hvalue, if_neg (fun h => h.2 hexternal), if_neg hstays, hkey _ hexternal]
      exact hproposed
    · rw [hvalue, if_pos ⟨List.mem_map_of_mem hcolumn, hexternal⟩]
      exact hproposed
  · rw [hvalue, if_neg (by decide +kernel), if_neg (by decide)]
    exact hid
  · rw [hvalue, if_neg (by decide +kernel), if_neg (by decide)]
    exact hcreated
  · rw [hvalue, if_neg (by decide +kernel), if_pos (by decide)]
    rfl
  · rw [hvalue, if_neg (by decide +kernel), if_pos (by decide)]
    rfl

/-- The first of two values that is known. -/
theorem toValue_or {α : Type} [Datum α] [NeverNull α] (first second : Option α) :
    toValue (first.or second) =
      if toValue first = Value.null then toValue second else toValue first := by
  cases first with
  | none => rfl
  | some a => exact (if_neg (NeverNull.toValue_ne_null a)).symm

/-- What is in the columns of a team after a record was written over it. -/
theorem value_overwrite (old : TeamRow) (team : TeamRecord) (time : Instant) :
    ∀ column ∈ teamColumns, column.value (old.overwrite team time).toTeamRecord =
      if column.name ∈ ["id", "league"] then column.value old.toTeamRecord
      else if column.name ∈ Statement.lastingColumns ∧ column.value team = .null then
        column.value old.toTeamRecord
      else column.value team := by
  simp only [teamColumns, List.forall_mem_cons, List.not_mem_nil, false_imp_iff, implies_true,
    and_true]
  refine ⟨rfl, rfl, rfl, rfl, rfl, ?_, ?_, ?_, ?_, ?_⟩
  all_goals simp [Statement.lastingColumns, TeamRow.overwrite, toValue_or]

/-- A team that is written over a stored one is that team with the record written over it. -/
theorem teamReadsBack_merge {team : TeamRecord} {time : Instant} {stored : Row} {old : TeamRow}
    (hold : stored.Holds teamColumns old.toTeamRecord)
    (hcreated : stored.value "created" = toValue old.created) :
    TeamReadsBack (teamUpsert.merge (Statement.putTeam team).params time stored)
      (old.overwrite team time) := by
  let proposed := teamUpsert.proposal (Statement.putTeam team).params time
  let kept (name : String) : Value :=
    if name ∈ Statement.lastingColumns ∧ proposed.value name = .null then stored.value name
    else proposed.value name
  have hassigned (name : String) : (teamAssigned name).value? (Statement.putTeam team).params time
      proposed stored = some (kept name) := by
    by_cases hlasting : name ∈ Statement.lastingColumns
    · by_cases hnull : proposed.value name = .null <;>
        simp [teamAssigned, kept, hlasting, Expression.value?, hnull]
    · simp [teamAssigned, kept, hlasting, Expression.value?]
  have hvalue (name : String) :
      (teamUpsert.merge (Statement.putTeam team).params time stored).value name =
        if name ∈ teamColumns.map (·.name) ∧ name ∉ ["id", "league"] then kept name
        else if name ∈ ["modified"] then toValue time else stored.value name :=
    value_merge_writing kept hassigned name
  have hproposed : Row.Holds proposed teamColumns team := holds_proposal nodup_teamColumns
  refine teamReadsBack_of_holds ?_ ?_ ?_
  · intro column hcolumn
    have hkept : kept column.name =
        if column.name ∈ Statement.lastingColumns ∧ column.value team = .null then
          column.value old.toTeamRecord else column.value team := by
      simp only [kept, hproposed column hcolumn, hold column hcolumn]
    rw [value_overwrite old team time column hcolumn, hvalue, hkept]
    by_cases hkey : column.name ∈ ["id", "league"]
    · have hstays : column.name ∉ ["modified"] :=
        (by decide : ∀ name ∈ ["id", "league"], name ∉ ["modified"]) _ hkey
      rw [if_neg (fun h => h.2 hkey), if_neg hstays, if_pos hkey, hold column hcolumn]
    · rw [if_pos ⟨List.mem_map_of_mem hcolumn, hkey⟩, if_neg hkey]
  · rw [hvalue, if_neg (by decide +kernel), if_neg (by decide)]
    exact hcreated
  · rw [hvalue, if_neg (by decide +kernel), if_pos (by decide)]
    rfl

/-- **Records come back from their rows.** The statement that writes a game, as its text says it,
gives each written column its own value, and over a stored row it assigns each of them but the key
from the same column of the row that was to be inserted. From the inserted row, whatever the
database decides about it, every statement about games reads the game that was written; over a
stored game only the number and the time of creation of that stay. The same holds of teams, where a
stored team is overwritten as in memory, and leagues and statuses are read as they are written. -/
theorem records_come_back_from_their_rows :
    (∀ game : GameRecord,
      Upsert.ofText? (Statement.putGame game).text = some gameUpsert ∧
        ∀ time : Instant,
          (∀ (id : Int) (created modified synced : Instant),
            GameReadsBack (gameStamps id created modified synced ++
              gameUpsert.proposal (Statement.putGame game).params time)
              { toGameRecord := game, id, created, modified, synced }) ∧
          ∀ (stored : Row) (id : Int) (created : Instant),
            gameUpsert.Conflicts (Statement.putGame game).params time stored →
              stored.value "id" = toValue id → stored.value "created" = toValue created →
              GameReadsBack (gameUpsert.merge (Statement.putGame game).params time stored)
                { game.row time with id, created }) ∧
    (∀ (column : String) (e : Expression), (column, e) ∈ gameUpsert.assignments ↔
      (column ∈ gameColumns.map (·.name) ∧ column ≠ "espn_id" ∧ e = .proposed column) ∨
        (column ∈ ["modified", "last_synced"] ∧ e = .now)) ∧
    (∀ team : TeamRecord,
      Upsert.ofText? (Statement.putTeam team).text = some teamUpsert ∧
        ∀ time : Instant,
          (∀ created modified : Instant,
            TeamReadsBack (teamStamps created modified ++
              teamUpsert.proposal (Statement.putTeam team).params time)
              { toTeamRecord := team, created, modified }) ∧
          ∀ (stored : Row) (old : TeamRow), stored.Holds teamColumns old.toTeamRecord →
            stored.value "created" = toValue old.created →
            TeamReadsBack (teamUpsert.merge (Statement.putTeam team).params time stored)
              (old.overwrite team time)) ∧
    (∀ league : League, League.ofName (key league) = .ok league) ∧
    ∀ status : GameStatus, GameStatus.ofText (key status) = .ok status := by
  refine ⟨fun game => ⟨ofText?_putGame game, fun time => ⟨?_, ?_⟩⟩, fun column e => ?_,
    fun team => ⟨ofText?_putTeam team, fun time => ⟨?_, ?_⟩⟩, leagueOfName_key, statusOfText_key⟩
  · exact gameReadsBack_proposal game time
  · exact fun stored id created => gameReadsBack_merge
  · rw [gameUpsert, mem_assignments_writing, List.mem_singleton]
  · exact teamReadsBack_proposal team time
  · exact fun stored old => teamReadsBack_merge

/-- A tied game in overtime, in which no two periods of a side are alike. -/
def tiedGame : GameRecord where
  externalId := "401"
  league := .nfl
  homeTeamId := "12"
  awayTeamId := "9"
  start := countStart
  season := 2000
  postseason := true
  progress :=
    { status := .inProgress
      period := some 5
      home := { total := some 27, lines := ⟨some 3, some 7, some 10, some 0, some 7⟩ }
      away := { total := some 27, lines := ⟨some 7, some 0, some 14, some 6, none⟩ } }

/-- A row of which only the number, the key and the time of creation are known. -/
def bareRow : Row :=
  [("id", toValue (8 : Int)), ("espn_id", toValue "401"), ("created", toValue countStart)]

/-- A team of which the colour is known. -/
def colouredTeam : TeamRow where
  id := "12"
  league := .nfl
  name := "Home"
  fullName := "Old Home"
  abbreviation := "OLD"
  color := some "112233"
  created := countStart
  modified := countStart

/-- The row of a team of which the colour is known. -/
def colouredRow : Row :=
  teamStamps countStart countStart ++
    teamUpsert.proposal (Statement.putTeam colouredTeam.toTeamRecord).params countStart

/-- The same team under a new name, with no word about its colour. -/
def renamedTeam : TeamRecord where
  id := "12"
  league := .nfl
  name := "Home"
  fullName := "New Home"
  abbreviation := "NEW"
  division := some "East"

theorem tied_game_and_renamed_team_come_back :
    Upsert.Conflicts gameUpsert (Statement.putGame tiedGame).params countStart bareRow ∧
      GameReadsBack (gameUpsert.merge (Statement.putGame tiedGame).params countStart bareRow)
        { tiedGame.row countStart with id := 8, created := countStart } ∧
      TeamReadsBack (teamUpsert.merge (Statement.putTeam renamedTeam).params countStart colouredRow)
        { toTeamRecord := { renamedTeam with color := some "112233" }
          created := countStart
          modified := countStart } := by
  have hkey :
      Upsert.Conflicts gameUpsert (Statement.putGame tiedGame).params countStart bareRow := by
    intro column hcolumn
    obtain rfl : column = "espn_id" := List.mem_singleton.1 hcolumn
    rfl
  have hcoloured : colouredRow.Holds teamColumns colouredTeam.toTeamRecord :=
    (holds_proposal nodup_teamColumns).prepend notMem_teamStamps
  obtain ⟨hgames, -, hteams, -⟩ := records_come_back_from_their_rows
  exact ⟨hkey, ((hgames tiedGame).2 countStart).2 bareRow 8 countStart hkey rfl rfl,
    ((hteams renamedTeam).2 countStart).2 colouredRow colouredTeam hcoloured rfl⟩

end SquarePool.Sql
