import SquarePool.Action
import SquarePool.Feed.Address
import SquarePool.Feed.Question
import SquarePool.Feed.Reading
import SquarePool.Http.Message
import SquarePool.Json.Reader
import SquarePool.Settings.Basic

/-!
# A client of the feed

Asks questions by fetching pages. A server that asks to slow down is asked again, up to a limit;
every other answer decides the outcome. Asked to stop, the client sends nothing more. What carries
the requests over the web, and the words for what goes wrong there, come with a link.
-/

namespace SquarePool

/-- The way from a client to a server, seen through a state. -/
structure Link (σ : Type) where
  /-- Sends a request. Where no response can be had, something is said of that. -/
  send : Http.Request → σ → Except String Http.Response × σ
  isStopped : σ → Bool
  now : σ → Instant
  /-- What is said of a text that is no page of a kind. -/
  complaint : Page → String → String := fun _ _ => ""

namespace Feed

/-- A client: the base of all addresses, its name, and how often it tries again. -/
structure Client where
  base : String
  userAgent : String
  maxRetries : Nat
  deriving DecidableEq, Repr

/-- A client with the given settings. Its name must be fit for a header; `complaint` is what is said
of one that is not. -/
def Client.ofSettings (settings : ClientSettings) (complaint : String := "") :
    Except FeedError Client :=
  if Http.isHeaderValue settings.userAgent then
    .ok {
      base := trimBase settings.baseUrl
      userAgent := settings.userAgent
      maxRetries := settings.maxRetries }
  else
    .error (.network complaint)

variable {σ α : Type}

/-- What a response means: its text, or why there is none. `attempt` counts the requests so far. -/
def readResponse (attempt : Nat) (url : String) (r : Http.Response) : Except FeedError String :=
  if r.isTooMany then .error (.rateLimited attempt url)
  else if r.isSuccess then .ok r.body
  else .error (.status r.status url)

/-- Sends a request, and again as long as it may be tried `retries` times more. Being asked to stop
while a request is on its way makes its response count for nothing. -/
def fetchFrom (link : Link σ) (request : Http.Request) :
    (retries attempt : Nat) → Action σ FeedError String
  | retries, attempt => fun s =>
    let (response, t) := link.send request s
    if link.isStopped t then (.error .cancelled, t)
    else
      match (response.mapError (.network ·)).bind (readResponse attempt request.url) with
      | .ok body => (.ok body, t)
      | .error e =>
        if e.isRetryable then
          match retries with
          | 0 => (.error e, t)
          | retries + 1 => fetchFrom link request retries (attempt + 1) t
        else
          (.error e, t)

/-- The text without the byte order mark that may stand before it. -/
def dropMark (body : String) : String :=
  match body.toList with
  | '\uFEFF' :: cs => String.ofList cs
  | _ => body

/-- Fetches a page and decodes it. -/
def Client.page (client : Client) (link : Link σ) (page : Page) (decode : Json → Option α)
    (url : String) : Action σ FeedError α := fun s =>
  if link.isStopped s then (.error .cancelled, s)
  else
    let request : Http.Request := { url, userAgent := client.userAgent }
    match fetchFrom link request client.maxRetries 1 s with
    | (.error e, t) => (.error e, t)
    | (.ok body, t) =>
      let text := dropMark body
      match (Json.parse? text).bind decode with
      | some a => (.ok a, t)
      | none => (.error (.decode page (link.complaint page text)), t)

/-- Fetches a scoreboard. -/
def Client.scoreboard (client : Client) (link : Link σ) (league : League)
    (query : ScoreboardQuery) : Action σ FeedError ScoreboardPage :=
  client.page link .scoreboard ScoreboardPage.decode (scoreboardAddress client.base league query)

/-- Fetches the games of each day from `day` to `last`, up to the first day that fails. Games whose
identifier is among those `seen` or was met before are left out. -/
def Client.days (client : Client) (link : Link σ) (league : League) (last day : Date)
    (seen : List String) : Action σ FeedError (List Game) :=
  if day.number ≤ last.number then do
    let page ← client.scoreboard link league (.forDate day)
    let fresh := Game.unseen seen page.games
    match h : day.next? with
    | none => pure fresh
    | some next => do
      have := Date.number_of_next? h
      let later ← client.days link league last next (seen ++ page.games.map Game.id)
      pure (fresh ++ later)
  else
    pure []
termination_by (last.number + 1 - day.number).toNat

/-- A page that was not found says that there is no such game. -/
def notFound (league : League) (gameId : String) : FeedError → FeedError
  | .status 404 _ => .gameNotFound league gameId
  | e => e

/-- Answers a question. -/
def Client.ask (client : Client) (link : Link σ) : (q : Question) → Action σ FeedError q.Answer
  | .teams league => do
    let page ← client.page link .teams TeamsPage.decode (teamsAddress client.base league)
    pure page.teams
  | .scoreboard league query => do
    let page ← client.scoreboard link league query
    pure page.games
  | .dateRange league first last => client.days link league last first []
  | .schedule league teamId => do
    let page ← client.page link .schedule SchedulePage.decode
      (scheduleAddress client.base league teamId)
    pure page.games
  | .summary league gameId => do
    let page ← (client.page link .summary SummaryPage.decode
      (summaryAddress client.base league gameId)).mapError (notFound league gameId)
    Action.ofExcept page.game
  | .season league => do
    let page ← client.scoreboard link league {}
    let now ← Action.look link.now
    Action.ofExcept (page.season now)

end Feed

end SquarePool
