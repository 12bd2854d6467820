import SquarePool.Proofs.Sql.Like
import SquarePool.Proofs.Store.Pages
import SquarePool.Sql.Statements

/-!
# Searching by name

What the statements of a search ask for, as conditions on a game and its two teams. Main statement:
a database that keeps to the rules of patterns finds a game by the same six names as a store in
memory, whatever is searched for.
-/

namespace SquarePool.Sql

/-- A condition of a statement on a row. Parameters are counted from one. -/
inductive Condition where
  /-- The column has the value of a parameter. -/
  | equals (column : String) (place : Nat)
  /-- The column has one of some words. -/
  | among (column : String) (words : List String)
  /-- One of the columns fits the pattern in a parameter, whatever the case of its letters. -/
  | oneFits (columns : List String) (place : Nat)

namespace Condition

/-- The condition as a statement writes it. -/
def text : Condition → String
  | equals column place => column ++ s!" = ${place}"
  | among column words =>
    column ++ " IN (" ++ ", ".intercalate (words.map fun word => "'" ++ word ++ "'") ++ ")"
  | oneFits columns place =>
    "(" ++ " OR ".intercalate (columns.map fun column => column ++ s!" ILIKE ${place}") ++ ")"

/-- The condition holds of a row under the values of the parameters, as it never does of null.
Whatever the case of letters, a pattern fits a text when both do in lower case. -/
def Holds (params : List Value) (row : Row) : Condition → Prop
  | equals column place =>
    row.value column ≠ .null ∧ params[place - 1]? = some (row.value column)
  | among column words => ∃ word ∈ words, row.value column = .text word
  | oneFits columns place => ∃ name pattern, .text name ∈ columns.map row.value ∧
    params[place - 1]? = some (.text pattern) ∧
      Like.Fits (Text.lower pattern).toList (Text.lower name).toList

end Condition

/-- The written columns of a record, under the name of a table. -/
def namedColumns {ρ : Type} (table : String) (columns : List (Column ρ)) (record : ρ) : Row :=
  columns.map fun column => (table ++ "." ++ column.name, column.value record)

/-- A game with its two teams, as a search looks at them. -/
def searchedRow (game : GameRecord) (home away : TeamRecord) : Row :=
  namedColumns "e" gameColumns game ++ namedColumns "ht" teamColumns home
    ++ namedColumns "at" teamColumns away

/-- What a search asks of a game and its two teams. -/
def searchConditions : List Condition :=
  [.equals "e.league" 1, .among "e.status" ["scheduled", "in_progress"],
    .oneFits ["ht.name", "ht.full_name", "ht.abbreviation", "at.name", "at.full_name",
      "at.abbreviation"] 2]

/-- How a search comes from a game to its teams. -/
def searchJoins : String :=
  "FROM sports_events e "
    ++ "JOIN sports_teams ht ON ht.id = e.home_team_id AND ht.league = e.league "
    ++ "JOIN sports_teams at ON at.id = e.away_team_id AND at.league = e.league "

theorem searchSource_eq :
    Statement.searchSource =
      searchJoins ++ "WHERE " ++ " AND ".intercalate (searchConditions.map Condition.text) := by
  decide +kernel

/-- A statement asks all this of a game and its two teams. -/
def Statement.Finds (statement : Statement) (game : GameRecord) (home away : TeamRecord) : Prop :=
  ∀ condition ∈ searchConditions, condition.Holds statement.params (searchedRow game home away)

variable {params : List Value} {league : League} {text : String} {game : GameRow}
  {home away : TeamRecord}

/-- A pattern made from a text fits a name, whatever the case of letters, if the lowered name holds
the lowered text. -/
theorem fits_lower_holding_iff {text name : String} :
    Like.Fits (Text.lower (Like.holding text)).toList (Text.lower name).toList ↔
      Text.contains (Text.lower name) (Text.lower text) = true := by
  rw [Like.lower_holding, Like.fits_holding_iff, Text.contains_iff]

theorem holds_league_iff (h : params[0]? = some (toValue (key league))) :
    (Condition.equals "e.league" 1).Holds params (searchedRow game.toGameRecord home away) ↔
      game.league = league := by
  show (Value.text (key game.league) ≠ .null ∧ params[0]? = some (.text (key game.league))) ↔ _
  rw [h]
  constructor
  · rintro ⟨-, hkey⟩
    have hkey' : key league = key game.league := Value.text.inj (Option.some.inj hkey)
    exact LawfulKeyed.key_injective _ _ hkey'.symm
  · rintro rfl
    exact ⟨nofun, rfl⟩

theorem holds_status_iff :
    (Condition.among "e.status" ["scheduled", "in_progress"]).Holds params
      (searchedRow game.toGameRecord home away) ↔ game.isLinkable = true := by
  show (∃ word ∈ ["scheduled", "in_progress"],
    Value.text (key game.progress.status) = .text word) ↔ _
  cases h : game.progress.status <;> simp [GameRow.isLinkable, h, key, GameStatus.key]

/-- The six names are tried as a store in memory tries them. -/
theorem holds_names_iff (h : params[1]? = some (toValue (Like.holding text))) :
    (Condition.oneFits ["ht.name", "ht.full_name", "ht.abbreviation", "at.name", "at.full_name",
      "at.abbreviation"] 2).Holds params (searchedRow game.toGameRecord home away) ↔
      (home.namesHold (Text.lower text) || away.namesHold (Text.lower text)) = true := by
  rw [TeamRecord.one_namesHold_iff]
  show (∃ name pattern, .text name ∈ [home.name, home.fullName, home.abbreviation, away.name,
    away.fullName, away.abbreviation].map Value.text ∧ params[1]? = some (.text pattern) ∧ _) ↔ _
  constructor
  · rintro ⟨name, pattern, hname, hpattern, hfits⟩
    obtain ⟨shown, hmem, hsame⟩ := List.mem_map.1 hname
    obtain rfl := Value.text.inj hsame
    obtain rfl := Value.text.inj (Option.some.inj (h.symm.trans hpattern))
    exact ⟨shown, hmem, fits_lower_holding_iff.1 hfits⟩
  · rintro ⟨name, hmem, hholds⟩
    exact ⟨name, Like.holding text, List.mem_map_of_mem hmem, h, fits_lower_holding_iff.2 hholds⟩

theorem finds_iff {statement : Statement}
    (hleague : statement.params[0]? = some (toValue (key league)))
    (htext : statement.params[1]? = some (toValue (Like.holding text))) :
    statement.Finds game.toGameRecord home away ↔
      game.league = league ∧ game.isLinkable = true ∧
        (home.namesHold (Text.lower text) || away.namesHold (Text.lower text)) = true := by
  rw [Statement.Finds, searchConditions]
  simp only [List.forall_mem_cons, List.not_mem_nil, false_imp_iff, implies_true, and_true,
    holds_league_iff hleague, holds_status_iff, holds_names_iff htext]

/-- A store in memory finds a game with its teams as a statement does. -/
theorem isFound_iff_finds {statement : Statement} (store : Store)
    (hleague : statement.params[0]? = some (toValue (key league)))
    (htext : statement.params[1]? = some (toValue (Like.holding text))) :
    store.isFound league (Text.lower text) game = true ↔
      ∃ home away : TeamRow, store.teamsOf? game = some (home, away) ∧
        statement.Finds game.toGameRecord home.toTeamRecord away.toTeamRecord := by
  simp only [finds_iff hleague htext, Store.isFound, Bool.and_eq_true, beq_iff_eq, and_assoc]
  cases store.teamsOf? game with
  | none => simp
  | some teams =>
    constructor
    · exact fun h => ⟨teams.1, teams.2, rfl, h⟩
    · rintro ⟨home, away, same, h⟩
      rw [Option.some.inj same]
      exact h

/-- **A search by name means that a name holds the text, on both stores.** The pattern made from a
text fits the texts that hold it, whatever signs the text has. The two statements of a search ask
for a game of the league that can be linked and one of whose teams has one of three names that fits,
in lower case, the pattern of the text; a name fits it if the lowered name holds the lowered text,
and so the statements find in a store what a store in memory finds. -/
theorem searches_accept_the_same_names :
    (∀ s t : String, Like.Fits (Like.holding s).toList t.toList ↔ s.toList <:+: t.toList) ∧
    ∀ (league : League) (text : String) (offset limit : Int),
      let count := Statement.searchCount league text
      let page := Statement.search league text offset limit
      let clause := searchJoins ++ "WHERE " ++
        " AND ".intercalate (searchConditions.map Condition.text)
      count.text = "SELECT COUNT(*) " ++ clause ∧
      page.text = "SELECT " ++ ", ".intercalate (gameSelection.map ("e." ++ ·)) ++ " " ++ clause ++
        " ORDER BY e.event_date ASC OFFSET $3 LIMIT $4" ∧
      (∀ name : String,
        Like.Fits (Text.lower (Like.holding text)).toList (Text.lower name).toList ↔
          Text.contains (Text.lower name) (Text.lower text) = true) ∧
      ∀ (store : Store) (game : GameRow),
        (store.isFound league (Text.lower text) game = true ↔
          ∃ home away : TeamRow, store.teamsOf? game = some (home, away) ∧
            count.Finds game.toGameRecord home.toTeamRecord away.toTeamRecord) ∧
        (store.isFound league (Text.lower text) game = true ↔
          ∃ home away : TeamRow, store.teamsOf? game = some (home, away) ∧
            page.Finds game.toGameRecord home.toTeamRecord away.toTeamRecord) := by
  refine ⟨fun s t => Like.fits_holding_iff, fun league text offset limit => ⟨?_, ?_, ?_, ?_⟩⟩
  · rw [← searchSource_eq]
    rfl
  · rw [← searchSource_eq]
    rfl
  · exact fun name => fits_lower_holding_iff
  · exact fun store game => ⟨isFound_iff_finds store rfl rfl, isFound_iff_finds store rfl rfl⟩

end SquarePool.Sql
