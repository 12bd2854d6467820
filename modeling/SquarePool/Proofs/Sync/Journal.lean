import SquarePool.Proofs.Sync.Parts

/-!
# Runs that keep a journal

A rehearsed run may write down what passes between it and its surroundings, one entry after another:
each question with the answer to it, each request to the store and each announcement, and the store
as it was right after. Main statement: a run that keeps a journal does what it does without one, and
its entries have every property that doing nothing has, that is kept by doing one thing after
another, and that holds of each of its dealings.
-/

namespace SquarePool

/-- Something that passes between a run and its surroundings. -/
inductive Dealing where
  | asked (q : Question) (answer : Except FeedError q.Answer)
  | requested (r : Request)
  | announced (gameId : Int)

/-- The question of a dealing with the feed. -/
def Dealing.question? : Dealing → Option Question
  | asked q _ => some q
  | requested _ | announced _ => none

/-- A dealing, and the store right after it. -/
structure Entry where
  dealing : Dealing
  store : Store

/-- The questions in some entries, in order. -/
def questionsIn (entries : List Entry) : List Question :=
  entries.filterMap (·.dealing.question?)

/-- A world and what has been written down. -/
structure Recorded where
  world : World
  journal : List Entry := []

namespace Recorded

variable {ε α β : Type} {feed : Feed} {scope : SyncScope}

/-- Does something in the world and writes it down. -/
def noting (dealing : Except ε α → Dealing) (x : Action World ε α) : Action Recorded ε α := fun s =>
  let (result, world) := x s.world
  (result, { world, journal := s.journal ++ [{ dealing := dealing result, store := world.store }] })

/-- The services of a rehearsed run that keeps a journal. -/
def services (feed : Feed) : Services Recorded where
  ask q := noting (.asked q) (World.ask feed q)
  store r := noting (fun _ => .requested r) (World.request r)
  notify gameId := noting (fun _ => .announced gameId) (World.notify gameId)
  now s := s.world.now
  isStopped s := s.world.stopped

/-- What is told of the way from one world to another: whether it was ended by a stop, and what was
written down. -/
abbrev Telling : Type := World → Bool → World → List Entry → Prop

/-- The one step does what the other one does and writes down entries of which `W` is told. -/
def Tracks (W : Telling) (α : Type) (x : Sync.Step Recorded α) (y : Sync.Step World α) : Prop :=
  ∀ s : Recorded, ∃ entries,
    x s = ((y s.world).1, ⟨(y s.world).2, s.journal ++ entries⟩) ∧
      W s.world (SyncError.ends (y s.world).1) (y s.world).2 entries

/-- It is told of doing nothing, and of one thing after another if it is told of both. -/
structure Telling.Joins (W : Telling) : Prop where
  nothing : ∀ a ended, W a ended a []
  append : ∀ {a t b : World} {ended : Bool} {first second : List Entry},
    W a false t first → W t ended b second → W a ended b (first ++ second)

variable {W : Telling}

section Joining

variable (joins : W.Joins) {x : Sync.Step Recorded α} {y : Sync.Step World α}

include joins

/-- A step that does nothing in the world writes nothing down. -/
theorem tracks_of_idle (result : World → Except SyncError α)
    (hx : ∀ s, x s = (result s.world, s)) (hy : ∀ world, y world = (result world, world)) :
    Tracks W α x y := by
  intro s
  refine ⟨[], ?_, ?_⟩
  · rw [hx, hy, List.append_nil]
  · rw [hy]
    exact joins.nothing _ _

/-- What is written down by a step is followed by what is written down after it. -/
theorem Tracks.after {s : Recorded} {t : World} {first : List Entry} (hxy : Tracks W α x y)
    (hfirst : W s.world false t first) :
    ∃ entries, x ⟨t, s.journal ++ first⟩ = ((y t).1, ⟨(y t).2, s.journal ++ entries⟩) ∧
      W s.world (SyncError.ends (y t).1) (y t).2 entries := by
  obtain ⟨second, hx, hsecond⟩ := hxy ⟨t, s.journal ++ first⟩
  refine ⟨first ++ second, ?_, joins.append hfirst hsecond⟩
  rw [hx, List.append_assoc]

theorem Tracks.bind {f : α → Sync.Step Recorded β} {g : α → Sync.Step World β}
    (hxy : Tracks W α x y) (hfg : ∀ a, Tracks W β (f a) (g a)) :
    Tracks W β (x >>= f) (y >>= g) := by
  intro s
  obtain ⟨first, hx, hfirst⟩ := hxy s
  rcases hy : y s.world with ⟨e | a, t⟩
  all_goals rw [hy] at hx hfirst
  · rw [Action.bind_of_error hy, Action.bind_of_error hx]
    exact ⟨first, rfl, hfirst⟩
  · rw [Action.bind_of_ok hy, Action.bind_of_ok hx]
    exact (hfg a).after joins hfirst

theorem Tracks.rescue {f : Except SyncError α → Sync.Step Recorded β}
    {g : Except SyncError α → Sync.Step World β} (hxy : Tracks W α x y)
    (hok : ∀ a, Tracks W β (f (.ok a)) (g (.ok a)))
    (herror : ∀ e : SyncError, e.isStop = false → Tracks W β (f (.error e)) (g (.error e))) :
    Tracks W β (Sync.recover x >>= f) (Sync.recover y >>= g) := by
  intro s
  obtain ⟨first, hx, hfirst⟩ := hxy s
  rcases hy : y s.world with ⟨e | a, t⟩
  all_goals rw [hy] at hx hfirst
  · change W s.world e.isStop t first at hfirst
    cases he : e.isStop with
    | true =>
      rw [Action.bind_of_error (Sync.recover_of_stop hy he),
        Action.bind_of_error (Sync.recover_of_stop hx he)]
      rw [he] at hfirst
      exact ⟨first, rfl, hfirst⟩
    | false =>
      rw [Action.bind_of_ok (Sync.recover_of_failure hy he),
        Action.bind_of_ok (Sync.recover_of_failure hx he)]
      rw [he] at hfirst
      exact (herror e he).after joins hfirst
  · rw [Action.bind_of_ok (Sync.recover_of_ok hy), Action.bind_of_ok (Sync.recover_of_ok hx)]
    exact (hok a).after joins hfirst

/-- **Steps that keep a journal** are put together like those that do not. -/
theorem composes_tracks :
    Sync.Composes (services feed) (World.services feed) (Tracks W) where
  pure a := tracks_of_idle joins (fun _ => .ok a) (fun _ => rfl) fun _ => rfl
  fail {_ e} _ := tracks_of_idle joins (fun _ => .error e) (fun _ => rfl) fun _ => rfl
  today := tracks_of_idle joins (fun world => .ok world.now.date) (fun _ => rfl) fun _ => rfl
  checkRunning := by
    refine tracks_of_idle joins (fun world => if world.stopped then .error .stopped else .ok ())
      (fun s => ?_) fun world => ?_
    · cases h : s.world.stopped <;> simp [Sync.checkRunning, services, h]
    · cases h : world.stopped <;> simp [Sync.checkRunning, World.services, h]
  bind hxy hfg := hxy.bind joins hfg
  rescue hxy hok herror := hxy.rescue joins hok herror

end Joining

/-- It is also told of everything that a run does with its store. -/
structure Telling.TellsStore (W : Telling) : Prop extends W.Joins where
  requested : ∀ (r : Request) (a : World) (ended : Bool),
    W a ended (World.request r a).2 [⟨.requested r, (World.request r a).2.store⟩]
  announced : ∀ (gameId : Int) (a : World) (ended : Bool),
    W a ended (World.notify gameId a).2 [⟨.announced gameId, (World.notify gameId a).2.store⟩]

/-- **A run that keeps a journal** does with its store and its logs what it does without one, and what
is told of each request and announcement is told of all of them together. What it asks the feed is
left to look at. -/
theorem relatesLogs_tracks (tells : W.TellsStore) :
    Sync.RelatesLogs (services feed) (World.services feed) scope (Tracks W) where
  toComposes := composes_tracks tells.toJoins
  store r _ _ := fun s => ⟨_, rfl, tells.requested r s.world _⟩
  processGame league game := (composes_tracks tells.toJoins).processGame
    (fun r _ s => ⟨_, rfl, tells.requested r s.world _⟩)
    (fun gameId s => ⟨_, rfl, tells.announced gameId s.world _⟩) scope league game
  openLog mode league _ := fun s => ⟨_, rfl, tells.requested (.openLog mode league) s.world _⟩
  closeLog log processed success message _ := fun s =>
    ⟨_, rfl, tells.requested (.closeLog log processed success message) s.world _⟩

end Recorded

end SquarePool
