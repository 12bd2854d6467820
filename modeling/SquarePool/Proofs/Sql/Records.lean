import SquarePool.Proofs.Sql.Upsert

/-!
# The statements about teams and games

What the statements say that write and read teams and games, as it is read from their texts. Main
statements: the columns that a write names, the values and assignments that it gives them, and the
columns that come back from each statement.
-/

namespace SquarePool.Sql

/-! ## Writes -/

section

variable {ρ : Type}

/-- The parameters of some columns, in order. -/
def paramsFor (columns : List (Column ρ)) : List Expression :=
  (List.range columns.length).map fun i => .param (i + 1)

/-- What is said by a statement that writes a record: a stored row keeps its key and the time at
which it was created. -/
def writing (table : String) (columns : List (Column ρ)) (key touched : List String)
    (assigned : String → Expression) (returned : List String) : Upsert where
  table := table
  columns := columns.map (·.name) ++ "created" :: touched
  values := paramsFor columns ++ ("created" :: touched).map fun _ => .now
  key := key
  assignments :=
    ((columns.map (·.name)).filter (· ∉ key)).map (fun column => (column, assigned column)) ++
      touched.map (·, .now)
  returned := returned

end

/-- What is said by the statement that writes a game. -/
def gameUpsert : Upsert :=
  writing "sports_events" gameColumns ["espn_id"] ["modified", "last_synced"] .proposed
    gameSelection

/-- What is assigned to a column of a team that is already stored. -/
def teamAssigned (column : String) : Expression :=
  if column ∈ Statement.lastingColumns then .firstKnown (.proposed column) (.stored column)
  else .proposed column

/-- What is said by the statement that writes a team. -/
def teamUpsert : Upsert :=
  writing "sports_teams" teamColumns ["id", "league"] ["modified"] teamAssigned []

namespace Token

variable {column : String} {names : List String}

theorem map_ofText_of_isWord (h : ∀ name ∈ names, IsWord name) :
    names.map ofText = names.map fun name => [word name] :=
  List.map_congr_left fun name hname => ofText_of_isWord (h name hname)

/-- The places of parameters are numbers behind a mark of their own. -/
theorem map_ofText_places (table : String) (n : Nat) :
    (Statement.places n).map ofText =
      (List.range n).map fun i => (Expression.param (i + 1)).tokens table := by
  rw [Statement.places, List.map_map]
  refine List.map_congr_left fun i _ => ?_
  show ofText ("$" ++ toString (i + 1)) = _
  rw [ofText_append_of_endsWith (a := "$") (c := '$') ⟨rfl, rfl⟩,
    ofText_of_isWord (isWord_toString _)]
  rfl

theorem ofText_takeNew (table : String) (h : IsWord column) :
    ofText (Statement.takeNew column) =
      Expression.assignmentTokens table (column, .proposed column) := by
  rw [Statement.takeNew, String.append_assoc,
    ofText_between " = EXCLUDED." (c := ' ') (d := '.') ⟨rfl, rfl⟩ ⟨rfl, rfl⟩,
    ofText_of_isWord h]
  rfl

theorem ofText_takeNewIfAny (h : IsWord column) :
    ofText (Statement.takeNewIfAny column) = Expression.assignmentTokens "sports_teams"
      (column, .firstKnown (.proposed column) (.stored column)) := by
  simp only [Statement.takeNewIfAny, String.append_assoc]
  rw [ofText_between " = COALESCE(EXCLUDED." (c := ' ') (d := '.') ⟨rfl, rfl⟩ ⟨rfl, rfl⟩,
    ofText_between ", sports_teams." (c := ',') (d := '.') ⟨rfl, rfl⟩ ⟨rfl, rfl⟩,
    ofText_append_of_startsWith (b := ")") (c := ')') ⟨rfl, rfl⟩, ofText_of_isWord h]
  rfl

theorem ofText_assignTeam (h : IsWord column) :
    ofText (Statement.assignTeam column) =
      Expression.assignmentTokens "sports_teams" (column, teamAssigned column) := by
  rw [Statement.assignTeam, teamAssigned]
  split
  · exact ofText_takeNewIfAny h
  · exact ofText_takeNew _ h

end Token

theorem isWord_of_mem_gameSelection : ∀ name ∈ gameSelection, Token.IsWord name := by
  decide +kernel

theorem isWord_of_mem_teamSelection : ∀ name ∈ teamSelection, Token.IsWord name := by
  decide +kernel

open Token in
theorem ofText_putGame (game : GameRecord) :
    ofText (Statement.putGame game).text = gameUpsert.tokens := by
  let names := gameColumns.map (·.name)
  have htext : (Statement.putGame game).text =
      "INSERT INTO sports_events ( " ++ Statement.commaList gameUpsert.columns ++
      " ) VALUES ( " ++
        Statement.commaList (Statement.places names.length ++ ["NOW()", "NOW()", "NOW()"]) ++
      " ) ON CONFLICT (espn_id) DO UPDATE SET " ++
        Statement.commaList ((names.filter (· != "espn_id")).map Statement.takeNew ++
          ["modified = NOW()", "last_synced = NOW()"]) ++
      " RETURNING " ++ Statement.commaList gameSelection := rfl
  have hcolumns : ∀ name ∈ gameUpsert.columns, IsWord name := fun name hname =>
    isWord_of_mem_gameSelection name (List.mem_cons_of_mem _ hname)
  have hassigned : ((names.filter (· != "espn_id")).map Statement.takeNew).map ofText =
      (names.filter (· != "espn_id")).map fun name =>
        Expression.assignmentTokens "sports_events" (name, .proposed name) := by
    rw [List.map_map]
    exact List.map_congr_left fun name hname => ofText_takeNew _ <|
      hcolumns name (List.mem_append_left _ (List.mem_filter.1 hname).1)
  simp only [String.append_assoc] at htext
  rw [htext,
    ofText_append_of_endsWith (a := "INSERT INTO sports_events ( ") (c := ' ') ⟨rfl, rfl⟩,
    ofText_between " ) VALUES ( " (c := ' ') (d := ' ') ⟨rfl, rfl⟩ ⟨rfl, rfl⟩,
    ofText_between " ) ON CONFLICT (espn_id) DO UPDATE SET " (c := ' ') (d := ' ')
      ⟨rfl, rfl⟩ ⟨rfl, rfl⟩,
    ofText_between " RETURNING " (c := ' ') (d := ' ') ⟨rfl, rfl⟩ ⟨rfl, rfl⟩]
  simp only [ofText_commaList, map_ofText_of_isWord hcolumns,
    map_ofText_of_isWord isWord_of_mem_gameSelection, List.map_append,
    map_ofText_places "sports_events", hassigned]
  rfl

open Token in
theorem ofText_putTeam (team : TeamRecord) :
    ofText (Statement.putTeam team).text = teamUpsert.tokens := by
  let names := teamColumns.map (·.name)
  let updated := names.filter fun name => name != "id" && name != "league"
  have htext : (Statement.putTeam team).text =
      "INSERT INTO sports_teams ( " ++ Statement.commaList teamUpsert.columns ++
      " ) VALUES (" ++ Statement.commaList (Statement.places names.length ++ ["NOW()", "NOW()"]) ++
      ") ON CONFLICT (id, league) DO UPDATE SET " ++
        Statement.commaList (updated.map Statement.assignTeam ++ ["modified = NOW()"]) := rfl
  have hcolumns : ∀ name ∈ teamUpsert.columns, IsWord name := isWord_of_mem_teamSelection
  have hassigned : (updated.map Statement.assignTeam).map ofText =
      updated.map fun name =>
        Expression.assignmentTokens "sports_teams" (name, teamAssigned name) := by
    rw [List.map_map]
    exact List.map_congr_left fun name hname => ofText_assignTeam <|
      hcolumns name (List.mem_append_left _ (List.mem_filter.1 hname).1)
  simp only [String.append_assoc] at htext
  rw [htext,
    ofText_append_of_endsWith (a := "INSERT INTO sports_teams ( ") (c := ' ') ⟨rfl, rfl⟩,
    ofText_between " ) VALUES (" (c := ' ') (d := '(') ⟨rfl, rfl⟩ ⟨rfl, rfl⟩,
    ofText_between ") ON CONFLICT (id, league) DO UPDATE SET " (c := ')') (d := ' ')
      ⟨rfl, rfl⟩ ⟨rfl, rfl⟩]
  simp only [ofText_commaList, map_ofText_of_isWord hcolumns, List.map_append,
    map_ofText_places "sports_teams", hassigned]
  rfl

theorem ofTokens?_gameUpsert : Upsert.ofTokens? gameUpsert.tokens = some gameUpsert := by
  decide +kernel

theorem ofTokens?_teamUpsert : Upsert.ofTokens? teamUpsert.tokens = some teamUpsert := by
  decide +kernel

/-- **What the statement says** that writes a game. -/
theorem ofText?_putGame (game : GameRecord) :
    Upsert.ofText? (Statement.putGame game).text = some gameUpsert := by
  rw [Upsert.ofText?, ofText_putGame, ofTokens?_gameUpsert]

/-- **What the statement says** that writes a team. -/
theorem ofText?_putTeam (team : TeamRecord) :
    Upsert.ofText? (Statement.putTeam team).text = some teamUpsert := by
  rw [Upsert.ofText?, ofText_putTeam, ofTokens?_teamUpsert]

/-! ## Selections -/

open Token in
/-- The columns that come back from a selection, which is no upsert. -/
theorem answered?_of_select {statement : Statement} {items names : List String}
    {chosen : List (List Token)} {between rest table : String} {c d : Char} (more : List Token)
    (htext : statement.text = "SELECT " ++ (Statement.commaList items ++ (between ++ rest)))
    (hitems : items.map ofText = chosen) (hfirst : StartsWith between c)
    (hlast : EndsWith between d) (hbetween : ofText between = word "FROM" :: word table :: more)
    (hfrom : word "FROM" ∉ commas chosen)
    (hnames : (Token.items 0 (commas chosen)).mapM
      (Selection.column? (more ++ ofText rest).head?) = some names) :
    statement.answered? = some names := by
  have htokens : ofText statement.text =
      word "SELECT" :: (commas chosen ++ word "FROM" :: word table :: (more ++ ofText rest)) := by
    rw [htext, ofText_append_of_endsWith (a := "SELECT ") (c := ' ') ⟨rfl, rfl⟩,
      ofText_between between hfirst hlast, ofText_commaList, hitems, hbetween]
    rfl
  have hupsert : Upsert.ofText? statement.text = none := by
    rw [Upsert.ofText?, htokens]
    rfl
  rw [Statement.answered?, hupsert, Selection.ofText?, htokens, Selection.ofTokens?_from hfrom,
    hnames]
  rfl

theorem answered?_of_gameSource {statement : Statement} {rest : String}
    (h : statement.text = Statement.gameSource ++ rest) :
    statement.answered? = some gameSelection := by
  have htext : statement.text =
      "SELECT " ++ Statement.commaList gameSelection ++ " FROM sports_events " ++ rest := h
  simp only [String.append_assoc] at htext
  exact answered?_of_select [] (c := ' ') (d := ' ') htext
    (Token.map_ofText_of_isWord isWord_of_mem_gameSelection) ⟨rfl, rfl⟩ ⟨rfl, rfl⟩
    rfl (by decide +kernel) rfl

theorem answered?_of_teamSource {statement : Statement} {rest : String}
    (h : statement.text = Statement.teamSource ++ rest) :
    statement.answered? = some teamSelection := by
  have htext : statement.text =
      "SELECT " ++ Statement.commaList teamSelection ++ " FROM sports_teams " ++ rest := h
  simp only [String.append_assoc] at htext
  exact answered?_of_select [] (c := ' ') (d := ' ') htext
    (Token.map_ofText_of_isWord isWord_of_mem_teamSelection) ⟨rfl, rfl⟩ ⟨rfl, rfl⟩
    rfl (by decide +kernel) rfl

/-- A search gives its table another name, and asks for the columns under that name. -/
theorem answered?_search (league : League) (text : String) (offset limit : Int) :
    (Statement.search league text offset limit).answered? = some gameSelection := by
  let items := gameSelection.map fun column => "e." ++ column
  obtain ⟨rest, htext⟩ : ∃ rest, (Statement.search league text offset limit).text =
      "SELECT " ++ (Statement.commaList items ++ (" FROM sports_events e " ++ rest)) := by
    obtain ⟨rest, hrest⟩ : ∃ rest, Statement.searchSource = "FROM sports_events e " ++ rest := by
      delta Statement.searchSource
      simp only [String.append_assoc]
      exact ⟨_, rfl⟩
    have hsource : (Statement.search league text offset limit).text =
        "SELECT " ++ Statement.commaList items ++ " " ++ Statement.searchSource ++
          " ORDER BY e.event_date ASC OFFSET $3 LIMIT $4" := rfl
    have hfrom : " FROM sports_events e " = " " ++ "FROM sports_events e " := rfl
    rw [hrest] at hsource
    simp only [String.append_assoc] at hsource
    exact ⟨_, by rw [hsource, hfrom, String.append_assoc]⟩
  have hitems : items.map Token.ofText =
      gameSelection.map fun name => [.word "e", .mark '.', .word name] := by
    rw [List.map_map]
    refine List.map_congr_left fun name hname => ?_
    show Token.ofText ("e." ++ name) = _
    rw [Token.ofText_append_of_endsWith (a := "e.") (c := '.') ⟨rfl, rfl⟩,
      Token.ofText_of_isWord (isWord_of_mem_gameSelection name hname)]
    rfl
  exact answered?_of_select [.word "e"] (c := ' ') (d := ' ') htext hitems ⟨rfl, rfl⟩ ⟨rfl, rfl⟩
    rfl (by decide +kernel) rfl

/-! ## The statements that answer with games and teams -/

/-- The statements whose rows are read as games. -/
inductive Statement.AnswersGames : Statement → Prop
  | putGame (record : GameRecord) : AnswersGames (.putGame record)
  | game (id : Int) : AnswersGames (.game id)
  | gameByExternalId (externalId : String) : AnswersGames (.gameByExternalId externalId)
  | games (league : League) (status : Option GameStatus) (limit : Option Int) :
    AnswersGames (.games league status limit)
  | upcoming (league : League) (limit : Int) : AnswersGames (.upcoming league limit)
  | inProgress (scope : Option League) : AnswersGames (.inProgress scope)
  | linkable (league : League) (offset limit : Int) : AnswersGames (.linkable league offset limit)
  | search (league : League) (text : String) (offset limit : Int) :
    AnswersGames (.search league text offset limit)
  | needingUpdate : AnswersGames .needingUpdate

/-- The statements whose rows are read as teams. -/
inductive Statement.AnswersTeams : Statement → Prop
  | team (id : String) (league : League) : AnswersTeams (.team id league)
  | teams (league : League) : AnswersTeams (.teams league)

open Statement in
/-- **Every statement about games** answers with the same columns. -/
theorem Statement.AnswersGames.answered? {statement : Statement} (h : statement.AnswersGames) :
    statement.answered? = some gameSelection := by
  cases h with
  | putGame record =>
    rw [Statement.answered?, ofText?_putGame]
    rfl
  | game id => exact answered?_of_gameSource rfl
  | gameByExternalId externalId => exact answered?_of_gameSource rfl
  | games league status limit =>
    exact answered?_of_gameSource
      (by delta Statement.games; simp only [String.append_assoc]; rfl)
  | upcoming league limit =>
    exact answered?_of_gameSource
      (by delta Statement.upcoming; simp only [String.append_assoc]; rfl)
  | inProgress scope =>
    exact answered?_of_gameSource
      (by delta Statement.inProgress; simp only [String.append_assoc]; rfl)
  | linkable league offset limit =>
    exact answered?_of_gameSource
      (by delta Statement.linkable; simp only [String.append_assoc]; rfl)
  | search league text offset limit => exact answered?_search league text offset limit
  | needingUpdate =>
    exact answered?_of_gameSource
      (by delta Statement.needingUpdate; simp only [String.append_assoc]; rfl)

/-- **Every statement about teams** answers with the same columns. -/
theorem Statement.AnswersTeams.answered? {statement : Statement} (h : statement.AnswersTeams) :
    statement.answered? = some teamSelection := by
  cases h with
  | team id league => exact answered?_of_teamSource rfl
  | teams league => exact answered?_of_teamSource rfl

end SquarePool.Sql
