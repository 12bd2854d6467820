import SquarePool.Document.Basic
import SquarePool.Rehearsal.Stage

/-!
# Documents about servers and databases

Requests and statements that were sent, and the replies that a rehearsed server or database gives,
as documents.
-/

namespace SquarePool

open Document

/-- A reply of a server; `body` is what it sends unless it is told otherwise. -/
def ServerReply.ofJson? (body : String) (json : Json) : Option ServerReply := do
  let stops ← orElse json "cancel" Json.bool? false
  let interrupts ← orElse json "interrupt" Json.bool? false
  let breaks ← orElse json "drop" Json.bool? false
  let response : Http.Response := {
    status := ← orElse json "status" nat? 200
    body := ← orElse json "body" Json.text? body }
  some {
    stops := stops || interrupts
    response := if breaks || interrupts then none else some response }

/-- A cue with a reply of some kind. -/
def Cue.ofJson? {α : Type} (reply : Json → Option α) (json : Json) : Option (Cue α) := do
  some {
    text := ← orElse json "match" Json.text? ""
    times := ← optional json "times" nat?
    reply := ← reply json }

/-- The columns that hold times. -/
def timeColumns : List String :=
  ["created", "modified", "last_synced", "event_date", "started_at", "completed_at"]

/-- A value of a column. -/
def Sql.Value.ofJson? (column : String) (json : Json) : Option Sql.Value :=
  match json with
  | .null => some .null
  | .bool b => some (.bool b)
  | .string s =>
    if column ∈ timeColumns then (instant? json).map fun t => .time (Sql.keptTime t)
    else s.map .text
  | .number _ => (int? json).map .int
  | .array _ => (ints? json).map .ints
  | .object _ => none

/-- A row of a table. -/
def Sql.Row.ofJson? : Json → Option Sql.Row
  | .object members => members.mapM fun (name, value) => do
    let name ← name
    some (name, ← Sql.Value.ofJson? name value)
  | _ => none

/-- A reply of a database. -/
def DatabaseReply.ofJson? (json : Json) : Option DatabaseReply := do
  let rows ← orElse json "rows" (Json.list? Sql.Row.ofJson?) []
  let affected ← orElse json "affected" nat? rows.length
  some {
    stops := ← orElse json "cancel" Json.bool? false
    answer := ← match get json "error" with
      | .null => some (.ok { rows, affected })
      | e => (required e "message" Json.text?).map fun message => .error (.refused message) }

/-- A database that may refuse to be talked to. -/
def Backend.ofJson? (json : Json) : Option (Except DatabaseFault Backend) := do
  let cues ← orElse json "rules" (Json.list? (Cue.ofJson? DatabaseReply.ofJson?)) []
  match get json "refuse" with
  | .null => some (.ok (.ofCues cues))
  | e => (required e "message" Json.text?).map fun message => .error (.refused message)

/-- A server. -/
def Server.ofJson? (json : Json) (name : String) : Option Server := do
  some (.ofCues (← orElse json name
    (Json.list? (Cue.ofJson? (ServerReply.ofJson? "\x7b\x7d"))) []))

/-- A value of a parameter. -/
def Sql.Value.toJson : Sql.Value → Json
  | .null => .null
  | .text s => Json.text s
  | .int n => Json.int n
  | .bool b => .bool b
  | .time t => instantJson t
  | .ints ns => listJson Json.int ns

/-- A statement. -/
def Sql.Statement.toJson (s : Sql.Statement) : Json :=
  obj [("sql", Json.text s.text), ("params", listJson Sql.Value.toJson s.params)]

/-- A request. -/
def Http.Request.toJson (r : Http.Request) : Json :=
  obj [("method", Json.text "GET"), ("target", optText r.target?), ("accept", Json.text r.accept),
    ("userAgent", Json.text r.userAgent)]

end SquarePool
