import SquarePool.Proofs.Sync.Journal
import SquarePool.Proofs.Sync.Turns

/-!
# Cancelled runs

The feed may answer any question by cancelling. Main statement: the run then ends with a stop, and
nothing passes between it and its surroundings any more, except that the scoreboard of yesterday is
requested together with that of today. So the store stays as it was at that answer, and on a store
that answers the log of the league whose turn it was, or of the run of scores, stays open after the
closed logs of the turns before.
-/

namespace SquarePool

/-- The feed answers a question by cancelling. -/
def Entry.cancelled (q : Question) (snapshot : Store) : Entry where
  dealing := .asked q (.error .cancelled)
  store := snapshot

theorem Entry.eq_cancelled_iff {q q' : Question} {answer : Except FeedError q.Answer}
    {store snapshot : Store} :
    (⟨.asked q answer, store⟩ : Entry) = .cancelled q' snapshot ↔
      q' = q ∧ answer = .error .cancelled ∧ snapshot = store := by
  constructor
  · intro h
    injection h with hdealing hstore
    injection hdealing with hq hanswer
    subst hq hstore
    exact ⟨rfl, eq_of_heq hanswer, rfl⟩
  · rintro ⟨rfl, rfl, rfl⟩
    rfl

/-- The question that was answered by cancelling. -/
def Entry.cancelled? (entry : Entry) : Option Question :=
  match entry.dealing with
  | .asked q (.error .cancelled) => some q
  | _ => none

theorem Entry.eq_cancelled {entry : Entry} {q : Question} (h : entry.cancelled? = some q) :
    entry = .cancelled q entry.store := by
  unfold cancelled? at h
  split at h
  · next hdealing =>
    obtain ⟨dealing, store⟩ := entry
    obtain rfl : dealing = _ := hdealing
    cases h
    rfl
  · exact nomatch h

/-- All that may follow an answer that cancels: nothing, or, if that was the scoreboard of a day,
the answer for the day before, which was requested together with it. -/
def Question.LeavesPending (q : Question) (later : List Entry) : Prop :=
  later = [] ∨ ∃ league day answer snapshot, q = .scoreboard league (.forDate day) ∧
    later = [⟨.asked (.scoreboard league (.forDate (day.addDays (-1)))) answer, snapshot⟩]

/-- A run that is stopped before it begins does nothing. -/
theorem Sync.run_of_stopped {σ : Type} {services : Services σ} {s : σ}
    (stopped : services.isStopped s = true) (scope : SyncScope) {modes : List SyncMode}
    (some : modes ≠ []) :
    Sync.run services scope modes s = (.error .stopped, s) := by
  rw [Sync.run_eq]
  cases h : Sync.modesOf modes with
  | nil =>
    obtain ⟨mode, hmode⟩ := List.exists_mem_of_ne_nil modes some
    have hall : mode ∈ SyncMode.all := by cases mode <;> decide
    have hturn : mode ∈ Sync.modesOf modes := List.mem_filter.2 ⟨hall, by simpa using hmode⟩
    rw [h] at hturn
    exact nomatch hturn
  | cons mode rest =>
    rw [List.mapM_cons]
    exact Action.bind_of_error
      (Sync.checkRunning_bind_eq_error_iff.2 (.inl ⟨stopped, rfl, rfl⟩)) _

namespace Recorded

variable {feed : Feed} {scope : SyncScope} {φ : Question → Prop} {a b : World} {ended : Bool}
  {entries : List Entry}

/-! ## After an answer that cancels -/

/-- Questions of one kind were asked, and an answer that cancels came last, up to what was requested
together with it, and ended what was done. -/
structure Walk (φ : Question → Prop) (a : World) (ended : Bool) (b : World)
    (entries : List Entry) : Prop where
  asked : b.asked = a.asked ++ questionsIn entries
  about : ∀ q ∈ questionsIn entries, φ q
  halts : ∀ before q snapshot later, entries = before ++ .cancelled q snapshot :: later →
    ended = true ∧ b.store = snapshot ∧ q.LeavesPending later

theorem Walk.mono {ψ : Question → Prop} (walk : Walk φ a ended b entries) (h : ∀ q, φ q → ψ q) :
    Walk ψ a ended b entries :=
  ⟨walk.asked, fun q hq => h q (walk.about q hq), walk.halts⟩

/-- Where no question is asked nothing cancels. -/
theorem Walk.of_silent {dealing : Dealing} (silent : dealing.question? = none)
    (asked : b.asked = a.asked) : Walk φ a ended b [⟨dealing, b.store⟩] where
  asked := by simp [questionsIn, silent, asked]
  about := by simp [questionsIn, silent]
  halts before q snapshot later h := by
    cases before with
    | nil =>
      cases h
      exact nomatch silent
    | cons entry rest => simp at h

/-- What is done goes on only where no answer cancelled. -/
theorem walk_joins : Telling.Joins (Walk φ) where
  nothing a ended :=
    { asked := by simp [questionsIn]
      about := by simp [questionsIn]
      halts := by simp }
  append {a t b ended first second} hfirst hsecond :=
    { asked := by rw [hsecond.asked, hfirst.asked]; simp [questionsIn]
      about := by
        intro q hq
        rw [questionsIn, List.filterMap_append, List.mem_append] at hq
        exact hq.elim (hfirst.about q) (hsecond.about q)
      halts := by
        intro before q snapshot later h
        rcases List.append_eq_append_iff.1 h with ⟨mid, rfl, hmid⟩ | ⟨mid, rfl, hmid⟩
        · exact hsecond.halts mid q snapshot later hmid
        · cases mid with
          | nil => exact hsecond.halts [] q snapshot later hmid.symm
          | cons entry rest =>
            cases hmid
            exact nomatch (hfirst.halts before q snapshot rest rfl).1 }

theorem walk_tellsStore : Telling.TellsStore (Walk φ) where
  toJoins := walk_joins
  requested r a _ := .of_silent rfl (World.asked_request r a)
  announced gameId a _ := .of_silent rfl (World.asked_notify gameId a)

theorem ends_ask {q : Question} (h : (feed a.asked q).answer = .error .cancelled) :
    SyncError.ends (Sync.ask (World.services feed) q a).1 = true := by
  rw [World.ask_apply, h]
  rfl

theorem tracks_ask {q : Question} (hq : φ q) :
    Tracks (Walk φ) q.Answer (Sync.ask (services feed) q) (Sync.ask (World.services feed) q) := by
  refine fun s => ⟨[_], rfl, ?asked, ?about, ?halts⟩
  case asked => rfl
  case about => simp [questionsIn, Dealing.question?, hq]
  case halts =>
    intro before q' snapshot later h
    cases before with
    | nil =>
      obtain ⟨hentry, rfl⟩ := List.cons.inj h
      obtain ⟨rfl, hanswer, rfl⟩ := Entry.eq_cancelled_iff.1 hentry
      exact ⟨ends_ask hanswer, rfl, .inl rfl⟩
    | cons entry rest => simp at h

/-- The scoreboard of yesterday is requested whatever the answer to that of today is. -/
theorem tracks_recentGames {league : League} (hφ : ∀ day, φ (.scoreboard league (.forDate day))) :
    Tracks (Walk φ) (List Game) (Sync.recentGames (services feed) league)
      (Sync.recentGames (World.services feed) league) := by
  intro s
  rw [Sync.recentGames_apply, Sync.recentGames_apply]
  refine ⟨[_, _], by rw [List.append_cons]; rfl, ?asked, ?about, ?halts⟩
  case asked => exact List.append_assoc _ [_] [_]
  case about => simp [questionsIn, Dealing.question?, hφ]
  case halts =>
    intro before q snapshot later h
    rw [Sync.ends_joinBoards, Bool.or_eq_true]
    rcases before with _ | ⟨entry, _ | ⟨entry', rest⟩⟩
    · obtain ⟨hentry, rfl⟩ := List.cons.inj h
      obtain ⟨rfl, hanswer, rfl⟩ := Entry.eq_cancelled_iff.1 hentry
      exact ⟨.inr (ends_ask hanswer), rfl, .inr ⟨league, _, _, _, rfl, rfl⟩⟩
    · obtain ⟨-, h⟩ := List.cons.inj h
      obtain ⟨hentry, rfl⟩ := List.cons.inj h
      obtain ⟨rfl, hanswer, rfl⟩ := Entry.eq_cancelled_iff.1 hentry
      exact ⟨.inl (ends_ask hanswer), rfl, .inl rfl⟩
    · simp at h

/-! ## The log of the turn -/

/-- A turn is logged under the league whose turn it is, or for scores under the league that the
scope lists if it is the only one. -/
def logLeague (scope : SyncScope) (q : Question) : Option League :=
  match q.mode with
  | .scores => Sync.only scope
  | _ => some q.league

/-- From one world to the next, logs are added that are closed. -/
def AddsClosed (a b : World) : Prop :=
  ∃ rows, b.store.logs = a.store.logs ++ rows ∧ ∀ row ∈ rows, row.isComplete = true

/-- From one world to the next, closed logs are added, and last the open log of the turn in which a
question was asked. -/
def LeavesOpen (scope : SyncScope) (q : Question) (a b : World) : Prop :=
  ∃ rows row, b.store.logs = a.store.logs ++ rows ++ [row] ∧
    (∀ row ∈ rows, row.isComplete = true) ∧ row.isComplete = false ∧ row.mode = q.mode ∧
      row.league = logLeague scope q

theorem AddsClosed.refl (a : World) : AddsClosed a a :=
  ⟨[], (List.append_nil _).symm, by simp⟩

theorem AddsClosed.trans {t : World} (hat : AddsClosed a t) (htb : AddsClosed t b) :
    AddsClosed a b := by
  obtain ⟨rows, ht, hrows⟩ := hat
  obtain ⟨rows', hb, hrows'⟩ := htb
  refine ⟨rows ++ rows', by rw [hb, ht, List.append_assoc], fun row hrow => ?_⟩
  exact (List.mem_append.1 hrow).elim (hrows row) (hrows' row)

theorem AddsClosed.leavesOpen {q : Question} {t : World} (hat : AddsClosed a t)
    (htb : LeavesOpen scope q t b) : LeavesOpen scope q a b := by
  obtain ⟨rows, ht, hrows⟩ := hat
  obtain ⟨rows', row, hb, hrows', hrow⟩ := htb
  refine ⟨rows ++ rows', row, by rw [hb, ht]; simp only [List.append_assoc], ?_, hrow⟩
  intro row hrow
  exact (List.mem_append.1 hrow).elim (hrows row) (hrows' row)

/-- What is told of whole turns: unless a stop ends them their logs are closed, and if an answer
cancels, the log of its turn stays open. -/
structure Turns (scope : SyncScope) (a : World) (ended : Bool) (b : World)
    (entries : List Entry) : Prop extends Walk (fun _ => True) a ended b entries where
  closed : a.Sound → ended = false → b.Sound ∧ AddsClosed a b
  opened : a.Sound → ∀ q snapshot, .cancelled q snapshot ∈ entries → LeavesOpen scope q a b

theorem turns_joins : Telling.Joins (Turns scope) where
  nothing a ended :=
    { toWalk := walk_joins.nothing a ended
      closed := fun sound _ => ⟨sound, .refl a⟩
      opened := by simp }
  append {a t b ended first second} hfirst hsecond :=
    { toWalk := walk_joins.append hfirst.toWalk hsecond.toWalk
      closed := by
        intro sound running
        obtain ⟨ht, hat⟩ := hfirst.closed sound rfl
        obtain ⟨hb, htb⟩ := hsecond.closed ht running
        exact ⟨hb, hat.trans htb⟩
      opened := by
        intro sound q snapshot h
        rcases List.mem_append.1 h with h | h
        · -- what was done first would have ended there
          obtain ⟨before, later, hentries⟩ := List.append_of_mem h
          exact nomatch (hfirst.halts before q snapshot later hentries).1
        · obtain ⟨ht, hat⟩ := hfirst.closed sound rfl
          exact hat.leavesOpen (hsecond.opened ht q snapshot h) }

/-- A turn has one log, which it closes unless a stop ends it; and no question is asked before the
log is opened. -/
theorem turns_of_turn {α : Type} {turn : Sync.Step World α} {mode : SyncMode}
    {league : Option League}
    (walk : Walk (fun q => q.mode = mode ∧ logLeague scope q = league) a
      (SyncError.ends (turn a).1) (turn a).2 entries)
    (closed : ∀ x b, a.Sound → turn a = (.ok x, b) →
      b.Sound ∧ ∃ row, b.store.logs = a.store.logs ++ [row] ∧ row.isComplete = true)
    (opened : ∀ e b, a.Sound → turn a = (.error e, b) →
      e.isStop = true ∧ (b = a ∨ b.store.logs = a.store.logs ++ [a.newLog mode league])) :
    Turns scope a (SyncError.ends (turn a).1) (turn a).2 entries := by
  refine ⟨walk.mono fun _ _ => trivial, ?closed, ?opened⟩
  all_goals rcases hturn : turn a with ⟨e | x, b⟩
  case closed.error =>
    intro sound (running : e.isStop = false)
    have hstop := (opened e b sound hturn).1
    rw [running] at hstop
    exact nomatch hstop
  case closed.ok =>
    intro sound _
    obtain ⟨hb, row, hlogs, hrow⟩ := closed x b sound hturn
    exact ⟨hb, [row], hlogs, by simpa using hrow⟩
  all_goals
    intro sound q snapshot h
    rw [hturn] at walk
    obtain ⟨before, later, hentries⟩ := List.append_of_mem h
  case opened.error =>
    have hq : q ∈ questionsIn entries := List.mem_filterMap.2 ⟨_, h, rfl⟩
    obtain ⟨hmode, hleague⟩ := walk.about q hq
    rcases (opened e b sound hturn).2 with rfl | hlogs
    · -- nothing was asked where nothing changed
      have hasked := walk.asked
      rw [List.self_eq_append_right] at hasked
      rw [hasked] at hq
      exact nomatch hq
    · exact ⟨[], a.newLog mode league, by rw [hlogs, List.append_nil], by simp, rfl, hmode.symm,
        hleague.symm⟩
  case opened.ok => exact nomatch (walk.halts before q snapshot later hentries).1

section OneAfterAnother

variable (spares : feed.SparesStore) (live : scope.dryRun = false)

include spares live

theorem tracks_leagueTurn {mode : SyncMode} (hmode : mode ≠ .scores) (league : League) :
    Tracks (Turns scope) LeagueReport (Sync.leagueTurn (services feed) scope mode league)
      (Sync.leagueTurn (World.services feed) scope mode league) := by
  have hask : Sync.AsksAlike (services feed) (World.services feed)
      (Tracks (Walk fun q => q.mode = mode ∧ logLeague scope q = some league)) mode league := by
    rintro q rfl rfl
    refine tracks_ask ⟨rfl, ?_⟩
    unfold logLeague
    split
    · contradiction
    · rfl
  intro s
  obtain ⟨entries, hturn, walk⟩ := (relatesLogs_tracks walk_tellsStore).leagueTurn hmode hask s
  refine ⟨entries, hturn, turns_of_turn walk ?closed ?opened⟩
  case closed =>
    intro entry b sound h
    obtain ⟨hb, now, hlogs⟩ := World.logs_of_leagueTurn_eq_ok spares live sound hmode h
    exact ⟨hb, _, hlogs, rfl⟩
  case opened =>
    intro e b sound h
    exact ⟨Sync.FailsByStop.leagueTurn mode league _ e b h,
      World.logs_of_leagueTurn_eq_error spares live sound hmode h⟩

theorem tracks_scoresTurn :
    Tracks (Turns scope) SyncReport (Sync.modeTurn (services feed) scope .scores)
      (Sync.modeTurn (World.services feed) scope .scores) := by
  have hlogs : Sync.RelatesLogs (services feed) (World.services feed) scope
      (Tracks (Walk fun q => q.mode = .scores ∧ logLeague scope q = Sync.only scope)) :=
    relatesLogs_tracks walk_tellsStore
  have hscores : ∀ q : Question, q.mode = .scores → logLeague scope q = Sync.only scope := by
    intro q hq
    rw [logLeague, hq]
  intro s
  obtain ⟨entries, hturn, walk⟩ := hlogs.bind hlogs.checkRunning
    (fun _ => hlogs.syncScores (fun _ q hq _ => tracks_ask ⟨hq, hscores q hq⟩)
      fun _ => tracks_recentGames fun _ => ⟨rfl, rfl⟩) s
  refine ⟨entries, hturn, turns_of_turn walk ?closed ?opened⟩
  case closed =>
    intro report b sound h
    obtain ⟨hb, now, hlogs⟩ := World.logs_of_syncScores_eq_ok spares live sound
      (Sync.checkRunning_bind_eq_ok_iff.1 h).2
    exact ⟨hb, _, hlogs, rfl⟩
  case opened =>
    intro e b sound h
    refine ⟨World.isStop_of_modeTurn_eq_error sound.healthy h, ?_⟩
    rcases Sync.checkRunning_bind_eq_error_iff.1 h with ⟨-, -, rfl⟩ | ⟨-, h⟩
    · exact .inl rfl
    · exact .inr (World.logs_of_syncScores_eq_error spares live sound h)

theorem tracks_modeTurn (mode : SyncMode) :
    Tracks (Turns scope) SyncReport (Sync.modeTurn (services feed) scope mode)
      (Sync.modeTurn (World.services feed) scope mode) := by
  have h : Sync.Composes (services feed) (World.services feed) (Tracks (Turns scope)) :=
    composes_tracks turns_joins
  by_cases hmode : mode = .scores
  · subst hmode
    exact tracks_scoresTurn spares live
  · refine h.bind h.checkRunning fun _ => ?_
    rw [Sync.syncMode_eq hmode, Sync.syncMode_eq hmode]
    exact h.bind (h.mapM (tracks_leagueTurn spares live hmode) _) fun _ => h.pure _

theorem tracks_run (modes : List SyncMode) :
    Tracks (Turns scope) (List SyncReport) (Sync.run (services feed) scope modes)
      (Sync.run (World.services feed) scope modes) := by
  have h : Sync.Composes (services feed) (World.services feed) (Tracks (Turns scope)) :=
    composes_tracks turns_joins
  exact h.mapM (tracks_modeTurn spares live) (Sync.modesOf modes)

end OneAfterAnother

/-- All that a run does may be told. -/
theorem relatesAll_tracks :
    Sync.RelatesAll (services feed) (World.services feed) scope (Tracks (Walk fun _ => True)) where
  toRelatesLogs := relatesLogs_tracks walk_tellsStore
  ask _ := tracks_ask trivial
  recentGames _ := tracks_recentGames fun _ => trivial

/-- **A run that is cancelled** stops where it is. Whatever the store holds and the feed does, the
run does the same with a journal, in which all that it asked stands; and wherever an answer in it
cancels, the run ends with a stop, the store is the one of that moment, and at most the answer for
yesterday follows that for today. If moreover the store answers and this is no dry run, then the
closed logs of the turns before are added, and last the log of the turn that was stopped, which is
open. A run of any mode that is stopped before it begins does nothing. -/
theorem cancellation_stops_the_run (feed : Feed) (scope : SyncScope) (world : World)
    (modes : List SyncMode) :
    ∃ result next journal,
      Sync.run (World.services feed) scope modes world = (result, next) ∧
      Sync.run (services feed) scope modes { world } = (result, { world := next, journal }) ∧
      next.asked = world.asked ++ questionsIn journal ∧
      (∀ before q snapshot later, journal = before ++ .cancelled q snapshot :: later →
        (∃ e, result = .error e ∧ e.isStop = true) ∧ next.store = snapshot ∧
        q.LeavesPending later ∧
        (world.store.Reachable → world.failing = false → feed.SparesStore →
          scope.dryRun = false → LeavesOpen scope q world next)) ∧
      (world.stopped = true → modes ≠ [] →
        result = .error .stopped ∧ next = world ∧ journal = []) := by
  obtain ⟨journal, hrecorded, walk⟩ := relatesAll_tracks.run modes ({ world } : Recorded)
  rcases hrun : Sync.run (World.services feed) scope modes world with ⟨result, next⟩
  rw [hrun] at hrecorded walk
  refine ⟨result, next, journal, rfl, hrecorded, walk.asked, ?halts, ?stopped⟩
  case halts =>
    intro before q snapshot later hjournal
    obtain ⟨hended, hstore, hlater⟩ := walk.halts before q snapshot later hjournal
    refine ⟨?_, hstore, hlater, fun reachable healthy spares live => ?_⟩
    · cases result with
      | error e => exact ⟨e, rfl, hended⟩
      | ok reports => exact nomatch hended
    · obtain ⟨journal', hrecorded', turns⟩ := tracks_run spares live modes ({ world } : Recorded)
      rw [hrun] at hrecorded' turns
      cases hrecorded.symm.trans hrecorded'
      exact turns.opened ⟨healthy, reachable.valid⟩ q snapshot (by simp [hjournal])
  case stopped =>
    intro stopped some
    have hnothing : Sync.run (services feed) scope modes { world } = (.error .stopped, { world }) :=
      Sync.run_of_stopped stopped scope some
    cases hrecorded.symm.trans hnothing
    exact ⟨rfl, rfl, rfl⟩

/-- The teams of a league are read, and then the scoreboard of today cancels. That of yesterday is
still requested; the log of the teams is closed and that of the scores is open. -/
theorem scores_are_cancelled_after_teams :
    let today : Question := .scoreboard .nfl (.forDate Instant.epoch.date)
    let yesterday : Question := .scoreboard .nfl (.forDate (Instant.epoch.date.addDays (-1)))
    let game : Game := { id := "401", start := .epoch, status := .inProgress }
    let feed : Feed := fun before q => match q with
      | .teams _ => { answer := .ok [] }
      | .scoreboard .. =>
        { answer := if before.length = 1 then .error .cancelled else .ok [game] }
      | _ => { answer := .error .network }
    let scope : SyncScope := { leagues := [.nfl] }
    let world : World := ({ now := .epoch } : World).after [.process feed scope .nfl game]
    ∃ e next snapshot later,
      Sync.run (World.services feed) scope [.scores, .teams] world = (.error e, next) ∧
      e.isStop = true ∧ next.store = snapshot ∧ today.LeavesPending later ∧
      next.asked = [.teams .nfl, today, yesterday] ∧ LeavesOpen scope today world next := by
  intro today yesterday game feed scope world
  have cancels : (Sync.run (services feed) scope [.scores, .teams] { world }).2.journal.any
      (·.cancelled? = some today) = true := by
    subst world scope feed game today
    decide +kernel
  obtain ⟨healthy, asked⟩ : world.failing = false ∧
      (Sync.run (World.services feed) scope [.scores, .teams] world).2.asked =
        [.teams .nfl, today, yesterday] := by
    subst world scope feed game yesterday today
    decide +kernel
  have reachable : world.store.Reachable := ⟨.epoch, [.process feed scope .nfl game], rfl⟩
  have spares : feed.SparesStore := by
    intro before q
    cases q <;> exact nofun
  obtain ⟨result, next, journal, hrun, hrecorded, -, halts, -⟩ :=
    cancellation_stops_the_run feed scope world [.scores, .teams]
  rw [hrecorded] at cancels
  rw [hrun] at asked
  obtain ⟨entry, hentry, hcancels⟩ := List.any_eq_true.1 cancels
  obtain ⟨before, later, hjournal⟩ := List.append_of_mem hentry
  rw [Entry.eq_cancelled (of_decide_eq_true hcancels)] at hjournal
  obtain ⟨⟨e, rfl, hstop⟩, hstore, hlater, hlogs⟩ := halts before today entry.store later hjournal
  exact ⟨e, next, entry.store, later, hrun, hstop, hstore, hlater, asked,
    hlogs reachable healthy spares rfl⟩

end Recorded

end SquarePool
