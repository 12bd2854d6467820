import SquarePool.Store.Listing
import SquarePool.Sync.Basic

/-!
# Rehearsals

The surroundings of a sync run in memory: the store, a clock that stands still until a reply of the
feed sets it, and a feed that may answer anything. The store can be made to fail, and so can
announcements. Main statement: as long as the store fails, no request changes it.
-/

namespace SquarePool

/-- The surroundings of a rehearsed run. -/
structure World where
  store : Store := {}
  now : Instant
  /-- Every request to the store fails. -/
  failing : Bool := false
  /-- Announcements fail. -/
  mute : Bool := false
  /-- The run has been asked to stop. -/
  stopped : Bool := false
  /-- What the feed has been asked, in order. -/
  asked : List Question := []
  deriving Repr

/-- An answer of the feed, with what happens to the world when it is given. -/
structure Reply (α : Type) where
  /-- The run is asked to stop. -/
  stops : Bool := false
  failing : Option Bool := none
  mute : Option Bool := none
  now : Option Instant := none
  answer : Except FeedError α
  deriving Repr

/-- A feed: what it replies to a question, given the questions before it. -/
abbrev Feed : Type := List Question → (q : Question) → Reply q.Answer

namespace World

/-- What happens to the world when a question gets its reply. -/
def afterReply {α : Type} (world : World) (q : Question) (reply : Reply α) : World :=
  { world with
    asked := world.asked ++ [q]
    stopped := world.stopped || reply.stops
    failing := reply.failing.getD world.failing
    mute := reply.mute.getD world.mute
    now := reply.now.getD world.now }

/-- Asks the feed. -/
def ask (feed : Feed) (q : Question) : Action World FeedError q.Answer := fun world =>
  let reply := feed world.asked q
  (reply.answer, world.afterReply q reply)

/-- Asks the store. No time passes between two requests, unless the feed was asked in between and its
reply sets the clock. -/
def request (r : Request) : Action World StoreError r.Answer := fun world =>
  if world.failing then
    (.error (.database (.invalidData "forced memory store error")), world)
  else
    let (answer, store) := world.store.perform world.now r
    (.ok answer, { world with store })

/-- Announces a change of a game. -/
def notify (gameId : Int) : Action World StoreError Unit := fun world =>
  if world.mute then
    (.error (.database (.invalidData "notification channel closed")), world)
  else
    (.ok (), { world with store := world.store.notify gameId })

/-- The services of a rehearsed run. -/
def services (feed : Feed) : Services World where
  ask := ask feed
  store := request
  notify := notify
  now := World.now
  isStopped := World.stopped

/-- The world at the start of a run. -/
def beforeRun (world : World) (stopped : Bool) : World := { world with stopped, asked := [] }

theorem request_of_failing {world : World} (h : world.failing = true) (r : Request) :
    request r world = (.error (.database (.invalidData "forced memory store error")), world) := by
  simp [request, h]

end World

end SquarePool
