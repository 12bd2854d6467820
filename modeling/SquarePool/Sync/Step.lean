import SquarePool.Sync.Basic

/-!
# Steps of a run

The parts that every mode is made of: stopping when asked to, going on after a failure, counting
what succeeds, and keeping a log. Main statement: a failure that is no stop never leaves a step
that recovers from it.
-/

namespace SquarePool

namespace Sync

variable {σ α β : Type}

/-- A step of a run. -/
abbrev Step (σ α : Type) : Type := Action σ SyncError α

/-- Gives a failure as a value, unless it stands for being stopped. -/
def recover (x : Step σ α) : Step σ (Except SyncError α) := fun s =>
  match x s with
  | (.ok a, t) => (.ok (.ok a), t)
  | (.error e, t) => if e.isStop then (.error .stopped, t) else (.ok (.error e), t)

/-- Asks the feed. -/
def ask (services : Services σ) (q : Question) : Step σ q.Answer :=
  (services.ask q).mapError .feed

/-- Asks the store. -/
def store (services : Services σ) (r : Request) : Step σ r.Answer :=
  (services.store r).mapError .store

/-- Ends the run if it has been asked to stop. -/
def checkRunning (services : Services σ) : Step σ Unit := fun s =>
  if services.isStopped s then (.error .stopped, s) else (.ok (), s)

/-- Takes a step for each item as long as the run is not stopped, and counts those that succeed. -/
def countSucceeding (services : Services σ) (step : α → Step σ β) : List α → Step σ Nat
  | [] => pure 0
  | item :: rest => do
    checkRunning services
    let outcome ← recover (step item)
    let others ← countSucceeding services step rest
    pure (others + if outcome.isOk then 1 else 0)

/-- Fetches a list for each item as long as the run is not stopped, and joins them in order. What
cannot be fetched contributes nothing. -/
def gather (services : Services σ) (fetch : α → Step σ (List β)) : List α → Step σ (List β)
  | [] => pure []
  | item :: rest => do
    checkRunning services
    let found ← recover (fetch item)
    let others ← gather services fetch rest
    pure (found.toOption.getD [] ++ others)

/-- Opens a log, except on a dry run. A run whose log cannot be opened goes on without one. -/
def openLog (services : Services σ) (scope : SyncScope) (mode : SyncMode)
    (league : Option League) : Step σ (Option SyncLog) := do
  if scope.dryRun then
    pure none
  else
    let log ← recover (store services (.openLog mode league))
    pure log.toOption

/-- Closes a log as far as the store does, and gives the log that is held afterwards. -/
def complete (services : Services σ) (log : SyncLog) (processed : Int) (success : Bool)
    (message : Option String) : Step σ SyncLog := do
  let result ← (store services (.closeLog log processed success message)).attempt
  pure (log.held result)

/-- Closes a log, if there is one. A log that cannot be closed stays open. -/
def closeLog (services : Services σ) (log : Option SyncLog) (records : Nat)
    (failure : Option SyncError) : Step σ Unit := do
  match log with
  | none => pure ()
  | some log =>
    let message := failure.map fun e => cutMessage e.message
    let _ ← complete services log (min (records : Int) Text.int32Max) failure.isNone message
    pure ()

theorem recover_of_ok {x : Step σ α} {s t : σ} {a : α} (h : x s = (.ok a, t)) :
    recover x s = (.ok (.ok a), t) := by
  simp [recover, h]

theorem recover_of_stop {x : Step σ α} {s t : σ} {e : SyncError} (h : x s = (.error e, t))
    (he : e.isStop = true) : recover x s = (.error .stopped, t) := by
  simp [recover, h, he]

theorem recover_of_failure {x : Step σ α} {s t : σ} {e : SyncError} (h : x s = (.error e, t))
    (he : e.isStop = false) : recover x s = (.ok (.error e), t) := by
  simp [recover, h, he]

end Sync

end SquarePool
