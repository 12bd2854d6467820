import SquarePool.Document.Basic
import SquarePool.Settings.Basic
import SquarePool.Sync.Reconcile

/-!
# Documents about runs

What a run did, and the settings it was given, as documents.
-/

namespace SquarePool

open Document

/-- What was done with a game. -/
def Outcome.members : Outcome → List (String × Json)
  | .skipped => [("outcome", Json.text "dry_run")]
  | .keptFinal gameId grids =>
    [("outcome", Json.text "kept_final"), ("eventId", Json.int gameId),
      ("gridsUpdated", Json.nat grids)]
  | .applied gameId created notified grids =>
    [("outcome", Json.text "applied"), ("eventId", Json.int gameId), ("created", .bool created),
      ("notified", .bool notified), ("gridsUpdated", Json.nat grids)]

/-- What became of one league. -/
def LeagueReport.toJson (r : LeagueReport) : Json :=
  obj [("league", wordJson r.league), ("fetched", Json.nat r.fetched),
    ("processed", Json.nat r.processed), ("success", .bool r.failure.isNone),
    ("error", optText (r.failure.map SyncError.message))]

/-- What became of one mode. -/
def SyncReport.members (r : SyncReport) : List (String × Json) :=
  [("mode", wordJson r.mode), ("processed", Json.nat r.processed), ("success", .bool r.isSuccess),
    ("leagues", listJson LeagueReport.toJson r.leagues)]

/-- Settings, with those of the client that follow from them. -/
def Settings.toJson (s : Settings) : Json :=
  let c := s.feed.client
  obj [("databaseUrl", Json.text s.database.url),
    ("maxConnections", Json.nat s.database.maxConnections),
    ("baseUrl", Json.text s.feed.baseUrl),
    ("requestsPerSecond", Json.nat s.feed.requestsPerSecond),
    ("timeoutSecs", Json.nat s.feed.timeoutSeconds), ("maxRetries", Json.nat s.feed.maxRetries),
    ("retryBaseMs", Json.nat s.feed.retryBaseMillis), ("userAgent", optText s.feed.userAgent),
    ("json", .bool s.logJson), ("defaultBaseUrl", .bool (s.feed.baseUrl == defaultFeedUrl)),
    ("client", obj [("baseUrl", Json.text c.baseUrl),
      ("timeoutMs", Json.nat (c.timeoutMillis % (Settings.maxNat64 + 1))),
      ("requestsPerSecond", Json.nat c.requestsPerSecond), ("maxRetries", Json.nat c.maxRetries),
      ("retryBaseDelayMs", Json.nat c.retryBaseMillis), ("userAgent", Json.text c.userAgent)])]

end SquarePool
