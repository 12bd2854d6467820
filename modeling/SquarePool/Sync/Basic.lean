import SquarePool.Feed.Question
import SquarePool.Store.Error
import SquarePool.Store.Request
import SquarePool.Action

/-!
# Sync runs

What a sync run is given and what it reports. It is given services: a feed to ask, a store to write
to, a way to announce changes, a clock, and a way to be stopped. A failure that stands for being
stopped ends the run; every other failure is noted and the run goes on.
-/

namespace SquarePool

/-- The surroundings of a sync run, which it sees through a state. -/
structure Services (σ : Type) where
  ask : (q : Question) → Action σ FeedError q.Answer
  store : (r : Request) → Action σ StoreError r.Answer
  /-- Announces that a game changed. -/
  notify : Int → Action σ StoreError Unit
  now : σ → Instant
  /-- The run has been asked to stop. -/
  isStopped : σ → Bool

/-- Why a step of a run failed. -/
inductive SyncError where
  | feed (cause : FeedError)
  | store (cause : StoreError)
  /-- The schedule of the league is read team by team, and no team is stored. -/
  | noTeams (league : League)
  /-- The run was stopped. -/
  | stopped
  deriving DecidableEq, Repr

namespace SyncError

/-- What is said about a failed step. -/
def message : SyncError → String
  | feed cause => cause.message
  | store cause => cause.message
  | noTeams l => s!"no teams found in the store for {key l}; run --sync-teams first"
  | stopped => "sync cancelled"

/-- The failure stands for being stopped. -/
def isStop : SyncError → Bool
  | stopped | feed .cancelled | store .cancelled => true
  | _ => false

end SyncError

/-- What a run covers. -/
structure SyncScope where
  leagues : List League
  /-- Nothing is written. -/
  dryRun : Bool := false
  deriving DecidableEq, Repr

/-- One league, or every league. -/
def SyncScope.ofLeague (league : Option League) (dryRun : Bool) : SyncScope where
  leagues := league.toList ++ if league.isNone then League.all else []
  dryRun := dryRun

/-- What became of one league. -/
structure LeagueReport where
  league : League
  fetched : Nat := 0
  processed : Nat := 0
  /-- Why nothing was fetched, when nothing could be. -/
  failure : Option SyncError := none
  deriving DecidableEq, Repr

/-- What became of one mode. -/
structure SyncReport where
  mode : SyncMode
  leagues : List LeagueReport
  deriving DecidableEq, Repr

/-- How many items were processed in some leagues. -/
def LeagueReport.total (reports : List LeagueReport) : Nat :=
  reports.foldr (fun r n => r.processed + n) 0

/-- How many items were processed. -/
def SyncReport.processed (report : SyncReport) : Nat := LeagueReport.total report.leagues

/-- How many items were processed in some modes. -/
def SyncReport.total (reports : List SyncReport) : Nat :=
  reports.foldr (fun r n => r.processed + n) 0

/-- No league failed. -/
def SyncReport.isSuccess (report : SyncReport) : Bool :=
  report.leagues.all (·.failure.isNone)

/-- The longest message that a log keeps, in characters. -/
def maxLogMessage : Nat := 500

/-- The start of a message that a log has room for. -/
def cutMessage (message : String) : String :=
  String.ofList (message.toList.take maxLogMessage)

end SquarePool
