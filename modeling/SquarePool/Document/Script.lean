import SquarePool.Document.Feed
import SquarePool.Rehearsal.Script

/-!
# Documents about rehearsals

Scripts of a feed, and what a run covers, as documents.
-/

namespace SquarePool

open Document

/-- A value of a script; its kind follows from the first word of its key. -/
def Given.ofJson? (name : String) (json : Json) : Option Given :=
  if name.startsWith "teams" then (Json.list? Team.ofJson? json).map .teams
  else if name.startsWith "summary" then (Game.ofJson? json).map .game
  else if name.startsWith "season" then (SeasonWindow.ofJson? json).map .season
  else (Json.list? Game.ofJson? json).map .games

/-- A line of a script. -/
def Reply.ofJson? (name : String) (json : Json) : Option (Reply (Option Given)) := do
  some {
    stops := ← orElse json "cancel" Json.bool? false
    failing := ← optional json "forceError" Json.bool?
    mute := ← optional json "failNotifications" Json.bool?
    now := ← optional json "now" instant?
    answer := ← match get json "error" with
      | .null => (optional json "ok" (Given.ofJson? name)).map .ok
      | e => (FeedError.ofJson? e).map .error }

/-- A script. -/
def Script.ofJson? : Json → Option Script
  | .object members => members.mapM fun (name, value) => do
    let name ← name
    some (name, ← Reply.ofJson? name value)
  | _ => none

/-- What a run covers. -/
def SyncScope.ofJson? (json : Json) : Option SyncScope := do
  let dryRun ← orElse json "dryRun" Json.bool? false
  match ← optional json "leagues" (Json.list? word?) with
  | some leagues => some { leagues, dryRun }
  | none => some (.ofLeague (← optional json "league" word?) dryRun)

end SquarePool
