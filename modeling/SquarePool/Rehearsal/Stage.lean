import SquarePool.Feed.Client
import SquarePool.Rehearsal.Cue
import SquarePool.Rehearsal.World
import SquarePool.Sql.Store

/-!
# Stages

The surroundings of a rehearsed run that fetches pages from a server and keeps its tables in a
database. Both are functions of what they were sent before, and neither may be there at all. What
cannot be reached is sent nothing.
-/

namespace SquarePool

/-- What a run has around it, and what it has sent so far. -/
structure Stage where
  now : Instant
  /-- The run has been asked to stop. -/
  stopped : Bool := false
  /-- The store has been asked to stop. -/
  closed : Bool := false
  asked : List Question := []
  requests : List Http.Request := []
  statements : List Sql.Statement := []
  deriving Repr

/-- What a server does with a request. Without a response the connection breaks. -/
structure ServerReply where
  /-- The run is asked to stop. -/
  stops : Bool := false
  response : Option Http.Response := none
  deriving Repr

/-- A server: what it does with a request for a target, given the targets before it. -/
abbrev Server : Type := List String → String → ServerReply

namespace Server

/-- A server that gives replies in turn, and then fails. -/
def inTurn (replies : List ServerReply) : Server := fun before _ =>
  replies[before.length]?.getD { response := some { status := 500, body := "" } }

/-- A server that replies by cues, and otherwise with an empty document. -/
def ofCues (cues : List (Cue ServerReply)) : Server := fun before target =>
  (Cue.reply? cues before target).getD { response := some { status := 200, body := "\x7b\x7d" } }

end Server

/-- What a database does with a statement. -/
structure DatabaseReply where
  /-- The store is asked to stop. -/
  stops : Bool := false
  answer : Except DatabaseFault Sql.Answer
  deriving Repr

/-- A database: what it does with a statement, given the statements before it. -/
abbrev Backend : Type := List Sql.Statement → Sql.Statement → DatabaseReply

namespace Backend

/-- A statement gives back rows. -/
def givesRows (statement : Sql.Statement) : Bool :=
  Text.contains statement.text "SELECT" || Text.contains statement.text "RETURNING"

/-- A reply as it answers a statement, which may not give back rows. -/
def answerTo (statement : Sql.Statement) (answer : Sql.Answer) : Sql.Answer :=
  if givesRows statement then answer else { answer with rows := [] }

/-- A database that answers by cues, and otherwise with nothing. -/
def ofCues (cues : List (Cue DatabaseReply)) : Backend := fun before statement =>
  match Cue.reply? cues (before.map (·.text)) statement.text with
  | some reply => { reply with answer := reply.answer.map (answerTo statement) }
  | none => { answer := .ok {} }

end Backend

namespace Stage

/-- Asks a feed. -/
def ask (feed : Feed) (q : Question) : Action Stage FeedError q.Answer := fun stage =>
  let reply := feed stage.asked q
  (reply.answer, { stage with
    asked := stage.asked ++ [q]
    stopped := stage.stopped || reply.stops
    now := reply.now.getD stage.now })

/-- What is said where no response can be had. -/
def noResponse : String := "no response"

/-- Sends a request to a server. -/
def send (server : Option Server) (request : Http.Request) (stage : Stage) :
    Except String Http.Response × Stage :=
  match server, request.target? with
  | some server, some target =>
    let reply := server (stage.requests.filterMap (·.target?)) target
    (reply.response.elim (.error noResponse) .ok, { stage with
      requests := stage.requests ++ [request]
      stopped := stage.stopped || reply.stops })
  | _, _ => (.error noResponse, stage)

/-- The way to a server, if it can be reached. -/
def link (server : Option Server) : Link Stage where
  send := send server
  isStopped := Stage.stopped
  now := Stage.now

/-- Sends a statement to a database. Times are cut to what a statement can carry. -/
def execute (backend : Except DatabaseFault Backend) (statement : Sql.Statement) (stage : Stage) :
    Except DatabaseFault Sql.Answer × Stage :=
  match backend with
  | .error fault => (.error fault, stage)
  | .ok backend =>
    let statement := statement.carried
    let reply := backend stage.statements statement
    (reply.answer, { stage with
      statements := stage.statements ++ [statement]
      closed := stage.closed || reply.stops })

/-- A database, if it can be reached. -/
def database (backend : Except DatabaseFault Backend) : Sql.Database Stage where
  execute := execute backend
  isStopped := Stage.closed

/-- A text starts as an address does: with a scheme and a colon. -/
def isAddress (text : String) : Bool :=
  match text.toList.span (· != ':') with
  | (c :: scheme, _ :: _) =>
    c.isAlpha && scheme.all fun d => d.isAlphanum || d == '+' || d == '-' || d == '.'
  | _ => false

/-- A connection to a database, which is stopped together with the run. -/
def connect (backend : Except DatabaseFault Backend) (settings : DatabaseSettings) :
    Option (Sql.Database Stage) :=
  if isAddress settings.url && settings.maxConnections != 0 && backend.isOk then
    some { execute := execute backend, isStopped := Stage.stopped }
  else
    none

/-- The services of a run that asks a feed and stores in a database. -/
def services (feed : Feed) (backend : Except DatabaseFault Backend) : Services Stage where
  ask := ask feed
  store := (database backend).perform
  notify := (database backend).notify
  now := Stage.now
  isStopped := Stage.stopped

theorem send_unreachable (request : Http.Request) (stage : Stage) :
    send none request stage = (.error noResponse, stage) := rfl

theorem execute_unreachable (fault : DatabaseFault) (statement : Sql.Statement) (stage : Stage) :
    execute (.error fault) statement stage = (.error fault, stage) := rfl

end Stage

end SquarePool
