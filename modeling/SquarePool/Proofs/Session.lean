import SquarePool.Proofs.Sync.Keeps
import SquarePool.Proofs.Sync.Reconcile

/-!
# Sessions

A world over time: games are reconciled, whole runs take place, single requests are made, pools and
grids are set up, and clock and faults change in between, in any order. Main statements: a relation
between stores that holds across each kind of write holds from any point of a session to any later
one, and the tables are valid at every point of a session that began with an empty store.
-/

namespace SquarePool

/-- Something that happens to a world. -/
inductive Operation where
  /-- A game is reconciled. -/
  | process (feed : Feed) (scope : SyncScope) (league : League) (game : Game)
  /-- A whole run takes place, in which the feed answers as it likes. -/
  | run (feed : Feed) (scope : SyncScope) (modes : List SyncMode) (stopped : Bool)
  | request (r : Request)
  | notify (gameId : Int)
  | setClock (now : Instant)
  | setFailing (failing : Bool)
  | setMute (mute : Bool)
  | putPool (pool : Pool)
  | putGrid (grid : Grid)
  | putColours (colours : GridColours)
  | putNumberSet (set : NumberSet)

/-- The request writes a game in full. -/
def Request.writesGame : Request → Bool
  | .putGame _ => true
  | _ => false

/-- A game is written in full, past the reconciliation of games. -/
def Operation.writesGame : Operation → Bool
  | .request r => r.writesGame
  | _ => false

namespace World

/-- The world after one operation. -/
def step (world : World) : Operation → World
  | .process feed scope league game =>
    (Sync.processGame (services feed) scope league game world).2
  | .run feed scope modes stopped =>
    (Sync.run (services feed) scope modes (world.beforeRun stopped)).2
  | .request r => (request r world).2
  | .notify gameId => (notify gameId world).2
  | .setClock now => { world with now }
  | .setFailing failing => { world with failing }
  | .setMute mute => { world with mute }
  | .putPool pool => world.holding (world.store.putPool pool)
  | .putGrid grid => world.holding (world.store.putGrid grid)
  | .putColours colours => world.holding (world.store.putColours colours)
  | .putNumberSet set => world.holding (world.store.putNumberSet set)

/-- The world after some operations, in turn. -/
def after (world : World) (ops : List Operation) : World := ops.foldl step world

theorem after_append (world : World) (earlier later : List Operation) :
    world.after (earlier ++ later) = (world.after earlier).after later :=
  List.foldl_append

/-- A relation between the stores of two worlds. -/
def Storewise (Q : Store → Store → Prop) (a b : World) : Prop := Q a.store b.store

instance {Q : Store → Store → Prop} [IsPreorder Store Q] : IsPreorder World (Storewise Q) where
  refl world := refl_of Q world.store
  trans _ _ _ hab hbc := trans_of Q hab hbc

end World

/-- The store is that of a session that began with empty tables. -/
def Store.Reachable (store : Store) : Prop :=
  ∃ (now : Instant) (ops : List Operation), (({ now } : World).after ops).store = store

namespace Store

/-! ## What every write keeps -/

/-- A relation holds across every way in which a store changes, except that games may not be written
past the reconciliation. -/
structure Survives (Q : Store → Store → Prop) : Prop where
  perform : ∀ (store : Store) (now : Instant) (r : Request), r.writesGame = false →
    Q store (store.perform now r).2
  reconcile : ∀ (store : Store) (now : Instant) (mute : Bool) (league : League) (game : Game),
    Q store (store.reconcile now mute league game).2
  notify : ∀ (store : Store) (gameId : Int), Q store (store.notify gameId)
  putPool : ∀ (store : Store) (pool : Pool), Q store (store.putPool pool)
  putGrid : ∀ (store : Store) (grid : Grid), Q store (store.putGrid grid)
  putColours : ∀ (store : Store) (colours : GridColours), Q store (store.putColours colours)
  putNumberSet : ∀ (store : Store) (set : NumberSet), Q store (store.putNumberSet set)

namespace Survives

variable {Q : Store → Store → Prop} [IsPreorder Store Q] (h : Survives Q)

include h

theorem request {r : Request} (hr : r.writesGame = false) (world : World) :
    Q world.store (World.request r world).2.store := by
  unfold World.request
  split
  · exact refl_of Q _
  · exact h.perform world.store world.now r hr

theorem announce (gameId : Int) (world : World) :
    Q world.store (World.notify gameId world).2.store := by
  unfold World.notify
  split
  · exact refl_of Q _
  · exact h.notify world.store gameId

theorem processGame (feed : Feed) (scope : SyncScope) (league : League) (game : Game)
    (world : World) :
    Q world.store
      (Sync.processGame (World.services feed) scope league game world).2.store := by
  rcases World.processGame_leaves world feed scope league game with h' | h'
  · rw [h']
    exact refl_of Q _
  · rw [h']
    exact h.reconcile world.store world.now world.mute league game

/-- What holds across every write holds across all that a run does. -/
theorem upholds (feed : Feed) (scope : SyncScope) :
    Sync.Upholds (World.services feed) scope (World.Storewise Q) where
  ask _ world := refl_of Q world.store
  store r hr := h.request (by cases r <;> first | rfl | simp [Request.isOfMode] at hr)
  processGame := h.processGame feed scope

/-- **One operation** keeps what every write keeps. -/
theorem step (world : World) {op : Operation} (hop : op.writesGame = false) :
    Q world.store (world.step op).store := by
  cases op with
  | process feed scope league game => exact h.processGame feed scope league game world
  | run feed scope modes stopped =>
    have hrun : (Sync.run (World.services feed) scope modes).Keeps (World.Storewise Q) :=
      (h.upholds feed scope).keeps_run modes
    -- the world before the run has the same store
    exact hrun (world.beforeRun stopped)
  | request r => exact h.request hop world
  | notify gameId => exact h.announce gameId world
  | setClock now => exact refl_of Q _
  | setFailing failing => exact refl_of Q _
  | setMute mute => exact refl_of Q _
  | putPool pool => exact h.putPool world.store pool
  | putGrid grid => exact h.putGrid world.store grid
  | putColours colours => exact h.putColours world.store colours
  | putNumberSet set => exact h.putNumberSet world.store set

/-- **A session** keeps it from its start to its end. -/
theorem after (world : World) {ops : List Operation}
    (hops : ∀ op ∈ ops, op.writesGame = false) : Q world.store (world.after ops).store := by
  induction ops generalizing world with
  | nil => exact refl_of Q _
  | cons op rest ih =>
    have hstep : Q world.store (world.step op).store := h.step world (hops op (by simp))
    exact trans_of Q hstep (ih (world.step op) fun op' hop' => hops op' (by simp [hop']))

end Survives

/-! ## Validity -/

/-- If the tables were valid before, they are valid after. -/
def KeepsValid (before after : Store) : Prop := before.Valid → after.Valid

instance : IsPreorder Store KeepsValid where
  refl _ := id
  trans _ _ _ hab hbc := hbc ∘ hab

theorem keepsValid_survives : Survives KeepsValid where
  perform _ now r _ valid := valid.perform now r
  reconcile _ now mute league game valid := valid.reconcile now mute league game
  notify _ gameId valid := valid.notify gameId
  putPool _ pool valid := valid.putPool pool
  putGrid _ grid valid := valid.putGrid grid
  putColours _ colours valid := valid.putColours colours
  putNumberSet _ set valid := valid.putNumberSet set

theorem Valid.step {world : World} (valid : world.store.Valid) (op : Operation) :
    (world.step op).store.Valid := by
  cases op with
  | request r =>
    -- the one operation that may write a game past the reconciliation
    show (World.request r world).2.store.Valid
    unfold World.request
    split
    · exact valid
    · exact valid.perform world.now r
  | _ => exact keepsValid_survives.step world rfl valid

theorem Valid.after {world : World} (valid : world.store.Valid) (ops : List Operation) :
    (world.after ops).store.Valid := by
  induction ops generalizing world with
  | nil => exact valid
  | cons op rest ih => exact ih (valid.step op)

/-- **The tables are valid** at any point of a session. -/
theorem Reachable.valid {store : Store} (h : store.Reachable) : store.Valid := by
  obtain ⟨now, ops, rfl⟩ := h
  exact Valid.empty.after ops

end Store

end SquarePool
