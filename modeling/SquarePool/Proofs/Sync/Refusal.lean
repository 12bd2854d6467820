import SquarePool.Proofs.Sync.Carried
import SquarePool.Proofs.Sync.Turns

/-!
# A store that fails

The store can be made to fail. Main statement: it then refuses each request and is left as it is,
also by a whole run, which goes on without it for teams and schedules and gives up on scores, where
the games to look at are read from the store.
-/

namespace SquarePool

/-- No reply makes a failing store answer again. -/
def Feed.KeepsFailing (feed : Feed) : Prop := ∀ before q, (feed before q).failing ≠ some false

/-- Scores come last. -/
theorem Sync.exists_modesOf_eq_append {modes : List SyncMode} (h : .scores ∈ modes) :
    ∃ before, Sync.modesOf modes = before ++ [.scores] ∧ .scores ∉ before := by
  have hall : SyncMode.all = [.teams, .schedule] ++ [.scores] := rfl
  refine ⟨[.teams, .schedule].filter (modes.contains ·), ?_, by simp⟩
  rw [Sync.modesOf, hall, List.filter_append]
  simp [h]

namespace World

variable {feed : Feed} {scope : SyncScope} {mode : SyncMode} {world a b : World}

/-- What every request to a failing store is refused with. -/
def refusal : StoreError := .database (.invalidData "forced memory store error")

/-! ## The store stays as it is -/

/-- A store that fails still fails, and is the same. -/
def LeavesFailing (a b : World) : Prop :=
  a.failing = true → b.failing = true ∧ b.store = a.store

instance : IsPreorder World LeavesFailing where
  refl _ failing := ⟨failing, rfl⟩
  trans _ _ _ hab hbc failing :=
    have hb := hab failing
    have hc := hbc hb.1
    ⟨hc.1, hc.2.trans hb.2⟩

theorem leavesFailing_upholds (keeps : feed.KeepsFailing) :
    Sync.Upholds (services feed) scope LeavesFailing where
  ask q _ failing := ⟨failing_afterReply feed true keeps failing q, rfl⟩
  store r _ a failing := by
    show (request r a).2.failing = true ∧ (request r a).2.store = a.store
    rw [request_of_failing failing]
    exact ⟨failing, rfl⟩
  processGame league game a failing := by
    rw [processGame_of_failing failing]
    exact ⟨failing, rfl⟩

/-! ## How modes end -/

/-- The store fails, and the run has not been asked to stop. -/
structure Refused (world : World) : Prop where
  failing : world.failing = true
  running : world.stopped = false

theorem store_of_failing (failing : a.failing = true) (r : Request) :
    Sync.store (services feed) r a = (.error (.store refusal), a) :=
  Action.mapError_of_error (request_of_failing failing r) SyncError.store

theorem carries_refused_store (r : Request) :
    Sync.Carries Refused (Sync.store (services feed) r) :=
  .of_eq fun _ refused => ⟨_, store_of_failing refused.failing r, rfl⟩

theorem carries_refused_notify (gameId : Int) :
    Sync.Carries Refused (((services feed).notify gameId).mapError SyncError.store) := by
  intro a refused
  obtain ⟨hfailing, hstopped, hends⟩ := notify_frame gameId a
  exact ⟨⟨hfailing.trans refused.failing, hstopped.trans refused.running⟩, hends⟩

theorem carries_refused_ask (keeps : feed.KeepsFailing) (never : feed.NeverStops) (q : Question) :
    Sync.Carries Refused (Sync.ask (services feed) q) := by
  intro a refused
  obtain ⟨hrunning, hends⟩ := ask_of_neverStops never refused.running q
  exact ⟨⟨failing_afterReply feed true keeps refused.failing q, hrunning⟩, hends⟩

/-- A log that cannot be opened is gone without. -/
theorem logged_of_failing {α : Type} {body : Sync.Step World α} {records : α → Nat}
    {failure : α → Option SyncError} (failing : a.failing = true) (league : Option League) :
    Sync.logged (services feed) scope mode league body records failure a = body a := by
  rw [Sync.logged, Action.bind_of_ok (openLog_of_failing failing mode league)]
  exact congrFun (bind_pure body) a

theorem endAndUpdate_of_failing (failing : a.failing = true) :
    Sync.endAndUpdate (services feed) scope a = (.ok (.error (.store refusal)), a) := by
  have hread : Sync.readAndUpdate (services feed) scope a =
      (.ok (.error (.store refusal)), a) :=
    Action.bind_of_ok (Sync.recover_of_failure (store_of_failing failing .needingUpdate) rfl) _
  unfold Sync.endAndUpdate
  split
  · exact hread
  · rw [Action.bind_of_ok (Sync.recover_of_failure (store_of_failing failing .finalizeStale) rfl)]
    exact hread

/-- Scores are given up: the games that they are about cannot be read. -/
theorem modeTurn_scores_of_refused (refused : a.Refused) :
    Sync.modeTurn (services feed) scope .scores a = (.error (.store refusal), a) := by
  have hscores : Sync.syncScores (services feed) scope a = (.error (.store refusal), a) := by
    rw [Sync.syncScores_eq]
    exact Action.bind_of_ok ((logged_of_failing refused.failing (Sync.only scope)).trans
      (endAndUpdate_of_failing refused.failing)) Action.ofExcept
  exact Sync.checkRunning_bind_eq_error_iff.2 (.inr ⟨refused.running, hscores⟩)

section Quiet

variable (keeps : feed.KeepsFailing) (never : feed.NeverStops)

include keeps never

theorem carries_refused_modeTurn (scope : SyncScope) (mode : SyncMode) :
    Sync.Carries Refused (Sync.modeTurn (services feed) scope mode) :=
  (Sync.carries_relatesAll (fun _ refused => refused.running) (carries_refused_ask keeps never)
    carries_refused_store carries_refused_notify).modeTurn mode

/-- Modes other than scores do without the store. -/
theorem mapM_modeTurn_of_refused (refused : a.Refused) (scope : SyncScope)
    {modes : List SyncMode} (h : .scores ∉ modes) :
    ∃ reports b, modes.mapM (Sync.modeTurn (services feed) scope) a = (.ok reports, b) ∧
      b.Refused := by
  have hcarries : Sync.Carries Refused (modes.mapM (Sync.modeTurn (services feed) scope)) :=
    Sync.Carries.mapM (carries_refused_modeTurn keeps never scope) modes
  refine hcarries.succeeds (.mapM_of_mem fun mode hmode => ?_) refused
  have hother : mode ≠ .scores := by
    rintro rfl
    exact h hmode
  exact .bind .checkRunning fun _ => .syncMode hother

theorem run_of_refused (refused : a.Refused) (scope : SyncScope) {modes : List SyncMode}
    (h : .scores ∉ modes) :
    ∃ reports b, Sync.run (services feed) scope modes a = (.ok reports, b) := by
  have hmodes : .scores ∉ Sync.modesOf modes := fun hscores =>
    h (by simpa using (List.mem_filter.1 hscores).2)
  obtain ⟨reports, b, hrun, -⟩ := mapM_modeTurn_of_refused keeps never refused scope hmodes
  exact ⟨reports, b, hrun⟩

theorem run_scores_of_refused (refused : a.Refused) (scope : SyncScope) {modes : List SyncMode}
    (h : .scores ∈ modes) :
    (Sync.run (services feed) scope modes a).1 = .error (.store refusal) := by
  obtain ⟨before, hmodes, hbefore⟩ := Sync.exists_modesOf_eq_append h
  obtain ⟨reports, b, hrun, hb⟩ := mapM_modeTurn_of_refused keeps never refused scope hbefore
  have hlast : [SyncMode.scores].mapM (Sync.modeTurn (services feed) scope) b =
      (.error (.store refusal), b) := by
    rw [List.mapM_cons]
    exact Action.bind_of_error (modeTurn_scores_of_refused hb) _
  rw [Sync.run_eq, hmodes, List.mapM_append, Action.bind_of_ok hrun, Action.bind_of_error hlast]

end Quiet

/-- **A store that fails is left intact.** It refuses every request and keeps every table, and a log
that was to be closed is held as it was. No run changes it or the notices in it, whatever the modes,
the leagues and the answers. If nothing stops the run, it ends with one report for each of its modes
where scores are not among them, and with the refusal of the store where they are. -/
theorem failing_store_is_left_intact (failing : world.failing = true) :
    (∀ r : Request, request r world = (.error refusal, world)) ∧
    (∀ (log : SyncLog) (processed : Int) (success : Bool) (message : Option String),
      log.held (request (.closeLog log processed success message) world).1 = log) ∧
    ∀ (feed : Feed) (scope : SyncScope) (modes : List SyncMode), feed.KeepsFailing →
      (Sync.run (services feed) scope modes world).2.store = world.store ∧
      (world.stopped = false → feed.NeverStops →
        (.scores ∉ modes → ∃ reports,
          (Sync.run (services feed) scope modes world).1 = .ok reports ∧
            reports.map SyncReport.mode = SyncMode.all.filter (modes.contains ·)) ∧
        (.scores ∈ modes →
          (Sync.run (services feed) scope modes world).1 = .error (.store refusal))) := by
  refine ⟨request_of_failing failing, ?held, ?run⟩
  case held =>
    intro log processed success message
    rw [request_of_failing failing]
    rfl
  case run =>
    intro feed scope modes keeps
    refine ⟨((leavesFailing_upholds keeps).keeps_run modes world failing).2, ?_⟩
    intro running never
    have refused : world.Refused := ⟨failing, running⟩
    constructor
    · intro h
      obtain ⟨reports, b, hrun⟩ := run_of_refused keeps never refused scope h
      exact ⟨reports, by rw [hrun], Sync.map_mode_of_run_eq_ok hrun⟩
    · exact run_scores_of_refused keeps never refused scope

/-- A game is stored that has been going on for a day, and then the store fails. It refuses to say
what it holds and to close the log that it opened before. A run of teams and scores gets a team and
leaves the game as it was; teams alone end with a report. -/
theorem refusal_leaves_a_stale_game :
    let game : Game := { id := "401", start := .epoch, status := .inProgress }
    let team : Team := { id := "1", name := "Bears" }
    let feed : Feed := fun _ q => match q with
      | .teams _ => { answer := .ok [team], mute := some true }
      | _ => { answer := .error .network }
    let scope : SyncScope := { leagues := [.nfl] }
    let world : World := ({ now := .epoch } : World).after
      [.process feed scope .nfl game, .request (.openLog .scores none),
        .setClock (Instant.epoch.addSeconds 86400), .setFailing true]
    let log : SyncLog := { id := 1, mode := .scores, started := .epoch }
    world.store.games.map (·.externalId) = ["401"] ∧ world.store.logs = [log] ∧
      request .needingUpdate world = (.error refusal, world) ∧
      log.held (request (.closeLog log 1 true none) world).1 = log ∧
      (∃ reports, (Sync.run (services feed) scope [.teams] world).1 = .ok reports ∧
        reports.map SyncReport.mode = [.teams]) ∧
      (Sync.run (services feed) scope [.scores, .teams] world).1 = .error (.store refusal) ∧
      (Sync.run (services feed) scope [.scores, .teams] world).2.store = world.store := by
  intro game team feed scope world log
  have stored : world.store.games.map (·.externalId) = ["401"] ∧ world.store.logs = [log] := by
    subst world log scope feed game team
    decide +kernel
  obtain ⟨failing, running⟩ : world.failing = true ∧ world.stopped = false := by
    subst world log scope feed game team
    decide +kernel
  have keeps : feed.KeepsFailing := by
    intro before q
    cases q <;> exact nofun
  have never : feed.NeverStops := by
    intro before q
    cases q <;> exact ⟨rfl, nofun⟩
  obtain ⟨refuses, held, runs⟩ := failing_store_is_left_intact failing
  obtain ⟨same, ends⟩ := runs feed scope [.scores, .teams] keeps
  exact ⟨stored.1, stored.2, refuses .needingUpdate, held log 1 true none,
    ((runs feed scope [.teams] keeps).2 running never).1 (by decide),
    (ends running never).2 (by decide), same⟩

end World

end SquarePool
