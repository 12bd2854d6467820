import SquarePool.Action
import SquarePool.Sql.Statements
import SquarePool.Store.Table

/-!
# A store behind a database

Carries out the requests to a store by statements. Asked to stop, it sends nothing more, and the
answer to a statement on its way counts for nothing. The two writes that refresh grids are one
transaction. Main statement: a store that was asked to stop before a request sends nothing for it.
-/

namespace SquarePool.Sql

/-- A database, seen through a state. -/
structure Database (σ : Type) where
  execute : Statement → σ → Except DatabaseFault Answer × σ
  isStopped : σ → Bool

namespace Database

variable {σ α : Type}

/-- Sends a statement. -/
def send (db : Database σ) (statement : Statement) : Action σ StoreError Answer := fun s =>
  if db.isStopped s then (.error .cancelled, s)
  else
    let (answer, t) := db.execute statement s
    if db.isStopped t then (.error .cancelled, t) else (answer.mapError .database, t)

/-- What was read from rows, or the fault found in them. -/
def readAs (r : Except DatabaseFault α) : Action σ StoreError α :=
  Action.ofExcept (r.mapError .database)

/-- Reads all rows. -/
def all (db : Database σ) (statement : Statement) (read : Row → Except DatabaseFault α) :
    Action σ StoreError (List α) := do
  let answer ← db.send statement
  readAs (answer.rows.mapM read)

/-- Reads the first row, if there is one. -/
def first? (db : Database σ) (statement : Statement) (read : Row → Except DatabaseFault α) :
    Action σ StoreError (Option α) := do
  let answer ← db.send statement
  readAs (answer.rows.head?.mapM read)

/-- Reads the first row, which must be there. -/
def first (db : Database σ) (statement : Statement) (read : Row → Except DatabaseFault α) :
    Action σ StoreError α := do
  match ← db.first? statement read with
  | some a => pure a
  | none => Action.fail (.database .noRow)

/-- How many rows a statement changed. -/
def affected (db : Database σ) (statement : Statement) : Action σ StoreError Nat := do
  let answer ← db.send statement
  pure answer.affected

/-- Reads a count. -/
def count (db : Database σ) (statement : Statement) : Action σ StoreError Int :=
  db.first statement (·.readOnly "count")

/-- Does all of an action or nothing. -/
def transaction (db : Database σ) (body : Action σ StoreError α) : Action σ StoreError α := fun s =>
  if db.isStopped s then (.error .cancelled, s)
  else
    let whole : Action σ StoreError α := do
      let _ ← db.send .start
      let a ← body
      let _ ← db.send .commit
      pure a
    match whole s with
    | (.ok a, t) => (.ok a, t)
    | (.error e, t) => (.error e, (db.execute .undo t).2)

/-- A count together with a part of what was counted. -/
def excerpt (db : Database σ) (counting listing : Statement) :
    Action σ StoreError (Excerpt GameRow) := do
  let total ← db.count counting
  let items ← db.all listing readGame
  pure { items, total }

/-- The numbers of a grid by period; of two for one period the later. -/
def latestSets (sets : List NumberSet) : List NumberSet :=
  sets.foldl (fun kept set => Table.put NumberSet.period set kept) []

/-- Reads everything that decides who wins on a grid. -/
def scoreSheet (db : Database σ) (gridId : Int) : Action σ StoreError (Option ScoreSheet) := do
  match ← db.first? (.sheet gridId) readSheet with
  | none => pure none
  | some (sheet, gameId) =>
    let game ← match gameId with
      | some id => db.first? (.game id) readGame
      | none => pure none
    let sets ← db.all (.numberSets gridId) readNumberSet
    pure (some { sheet with game, numberSets := latestSets sets })

/-- Brings names and colours of the grids of a game up to date, and counts what changed. -/
def refreshGrids (db : Database σ) (gameId : Int) : Action σ StoreError Nat :=
  db.transaction do
    let names ← db.affected (.refreshNames gameId)
    let colours ← db.affected (.fillColours gameId)
    pure (names + colours)

/-- Closes a log at the time that the database gives. -/
def closeLog (db : Database σ) (log : SyncLog) (processed : Int) (success : Bool)
    (message : Option String) : Action σ StoreError SyncLog := do
  let completed ← db.first (.closeLog log.id processed success (nonEmpty message))
    (·.readOnly "completed_at")
  pure (log.close completed processed success message)

/-- Carries out a request. -/
def perform (db : Database σ) : (r : Request) → Action σ StoreError r.Answer
  | .putTeam record => do
    let _ ← db.send (.putTeam record)
    pure ()
  | .team id league => db.first? (.team id league) readTeam
  | .teams league => db.all (.teams league) readTeam
  | .teamCount scope => db.count (.teamCount scope)
  | .putGame record => db.first (.putGame record) readGame
  | .game id => db.first? (.game id) readGame
  | .gameByExternalId externalId => db.first? (.gameByExternalId externalId) readGame
  | .games league status limit => db.all (.games league status limit) readGame
  | .upcoming league limit => db.all (.upcoming league limit) readGame
  | .inProgress scope => db.all (.inProgress scope) readGame
  | .linkable league offset limit =>
    db.excerpt (.linkableCount league) (.linkable league offset limit)
  | .search league text offset limit =>
    db.excerpt (.searchCount league text) (.search league text offset limit)
  | .needingUpdate => db.all .needingUpdate readGame
  | .finalizeStale => db.affected .finalizeStale
  | .gameCount scope => db.count (.gameCount scope)
  | .openLog mode league => db.first (.openLog mode league) readLog
  | .closeLog log processed success message => db.closeLog log processed success message
  | .lastSuccess mode league => db.first? (.lastSuccess mode league) readLog
  | .refreshGrids gameId => db.refreshGrids gameId
  | .poolTokens gameId => db.all (.poolTokens gameId) (·.readOnly "token")
  | .scoreSheet gridId => db.scoreSheet gridId

/-- Announces a change of a game. -/
def notify (db : Database σ) (gameId : Int) : Action σ StoreError Unit := do
  let _ ← db.send (.announce gameId)
  pure ()

theorem send_of_stopped {db : Database σ} {s : σ} (h : db.isStopped s = true)
    (statement : Statement) : db.send statement s = (.error .cancelled, s) := by
  simp [send, h]

theorem transaction_of_stopped {db : Database σ} {s : σ} (h : db.isStopped s = true)
    (body : Action σ StoreError α) : db.transaction body s = (.error .cancelled, s) := by
  simp [transaction, h]

end Database

end SquarePool.Sql
