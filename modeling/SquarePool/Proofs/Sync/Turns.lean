import SquarePool.Proofs.Session

/-!
# The turns of a run

A run is a series of turns, one for each league whose teams or schedule are refreshed and one for
scores, and each takes place under a log of its own. Main statements: whatever the faults, a turn
that ends with a report does what it does between its log being opened and closed; and on a store
that answers it leaves every earlier log alone and adds one, which is closed if the turn ends with
a report and open if it is stopped.
-/

namespace SquarePool

/-! ## Feeds that behave -/

namespace Feed

/-- No reply makes the store fail. -/
def SparesStore (feed : Feed) : Prop := ∀ before q, (feed before q).failing ≠ some true

/-- No reply stops the run, neither by what it says nor beside it. -/
def NeverStops (feed : Feed) : Prop :=
  ∀ before q, (feed before q).stops = false ∧ (feed before q).answer ≠ .error .cancelled

/-- After some questions the next one gets no answer. -/
def Refuses (feed : Feed) (before : List Question) (q : Question) : Prop :=
  ∃ e, (feed before q).answer = .error e

end Feed

/-- The log as it is closed after a number of records, with the failure if there was one. -/
def SyncLog.ended (log : SyncLog) (now : Instant) (records : Nat) (failure : Option SyncError) :
    SyncLog :=
  log.close now (min (records : Int) Text.int32Max) failure.isNone
    (failure.map fun e => cutMessage e.message)

namespace World

variable {α : Type} {feed : Feed} {scope : SyncScope} {world a b : World}

/-! ## Questions -/

theorem ask_apply (q : Question) (a : World) :
    Sync.ask (services feed) q a =
      ((feed a.asked q).answer.mapError .feed, a.afterReply q (feed a.asked q)) := rfl

theorem asked_request (r : Request) (a : World) : (request r a).2.asked = a.asked := by
  unfold request
  split <;> rfl

theorem asked_notify (gameId : Int) (a : World) : (notify gameId a).2.asked = a.asked := by
  unfold notify
  split <;> rfl

/-! ## What a reply brings about -/

/-- A store goes on as it is, failing or not, where no reply makes it change. -/
theorem failing_afterReply (feed : Feed) (fails : Bool)
    (keeps : ∀ before q, (feed before q).failing ≠ some (!fails)) (h : a.failing = fails)
    (q : Question) : (a.afterReply q (feed a.asked q)).failing = fails := by
  show (feed a.asked q).failing.getD a.failing = fails
  cases hreply : (feed a.asked q).failing with
  | none => exact h
  | some failing =>
    have hne : failing ≠ !fails := fun e => keeps a.asked q (hreply.trans (congrArg some e))
    exact Bool.not_eq_not.1 hne

/-- Nothing stops a run that no reply stops. -/
theorem ask_of_neverStops (never : feed.NeverStops) (running : a.stopped = false) (q : Question) :
    (a.afterReply q (feed a.asked q)).stopped = false ∧
      SyncError.ends (Sync.ask (services feed) q a).1 = false := by
  obtain ⟨hstops, hanswer⟩ := never a.asked q
  refine ⟨?running, ?answer⟩
  case running =>
    show (a.stopped || (feed a.asked q).stops) = false
    rw [running, hstops]
    rfl
  case answer =>
    rw [ask_apply]
    cases h : (feed a.asked q).answer with
    | ok _ => rfl
    | error e =>
      cases e with
      | cancelled => exact absurd h hanswer
      | _ => rfl

/-- A notice neither stops a run nor touches the faults of the store. -/
theorem notify_frame (gameId : Int) (a : World) :
    (notify gameId a).2.failing = a.failing ∧ (notify gameId a).2.stopped = a.stopped ∧
      SyncError.ends ((notify gameId a).1.mapError .store) = false := by
  unfold notify
  split <;> exact ⟨rfl, rfl, rfl⟩

/-! ## Logs apart from the rest -/

/-- The world with other logs. -/
def withLogs (world : World) (logs : List SyncLog) : World :=
  world.holding { world.store with logs }

@[simp] theorem withLogs_logs (logs : List SyncLog) :
    (world.withLogs logs).store.logs = logs := rfl

/-- The log that is opened next. -/
def newLog (world : World) (mode : SyncMode) (league : Option League) : SyncLog :=
  (world.store.openLog world.now mode league).1

theorem openLog_of_dryRun (dry : scope.dryRun = true) (mode : SyncMode)
    (league : Option League) :
    Sync.openLog (services feed) scope mode league world = (.ok none, world) := by
  rw [Sync.openLog, if_pos dry]
  rfl

theorem openLog_of_failing (failing : world.failing = true) (mode : SyncMode)
    (league : Option League) :
    Sync.openLog (services feed) scope mode league world = (.ok none, world) := by
  unfold Sync.openLog
  by_cases dry : scope.dryRun = true
  · rw [if_pos dry]
    rfl
  · have hopen := Action.mapError_of_error (request_of_failing failing (.openLog mode league))
      SyncError.store
    rw [if_neg dry]
    exact Action.bind_of_ok (Sync.recover_of_failure hopen rfl) _

theorem openLog_of_healthy (healthy : world.failing = false) (live : scope.dryRun = false)
    (mode : SyncMode) (league : Option League) :
    Sync.openLog (services feed) scope mode league world =
      (.ok (some (world.newLog mode league)),
        world.withLogs (world.store.logs ++ [world.newLog mode league])) := by
  have hopen : Sync.store (services feed) (.openLog mode league) world =
      (.ok (world.newLog mode league),
        world.withLogs (world.store.logs ++ [world.newLog mode league])) :=
    does_store healthy (.openLog mode league) world.store
  unfold Sync.openLog
  rw [if_neg (by simp [live])]
  exact Action.bind_of_ok (Sync.recover_of_ok hopen) _

/-- Opening a log never fails and touches nothing but logs. -/
theorem openLog_leaves (world : World) (feed : Feed) (scope : SyncScope) (mode : SyncMode)
    (league : Option League) :
    ∃ log logs, Sync.openLog (services feed) scope mode league world =
      (.ok log, world.withLogs logs) := by
  cases dry : scope.dryRun with
  | true => exact ⟨none, world.store.logs, openLog_of_dryRun dry mode league⟩
  | false =>
    cases failing : world.failing with
    | true => exact ⟨none, world.store.logs, openLog_of_failing failing mode league⟩
    | false => exact ⟨_, _, openLog_of_healthy failing dry mode league⟩

/-- Closing a log never fails and leaves the world that the request leaves. -/
theorem closeLog_some (log : SyncLog) (records : Nat) (failure : Option SyncError) :
    Sync.closeLog (services feed) (some log) records failure world =
      (.ok (), (request (.closeLog log (min (records : Int) Text.int32Max) failure.isNone
        (failure.map fun e => cutMessage e.message)) world).2) := rfl

theorem closeLog_of_healthy (healthy : world.failing = false) (log : SyncLog) (records : Nat)
    (failure : Option SyncError) :
    Sync.closeLog (services feed) (some log) records failure world =
      (.ok (), world.withLogs
        (Table.replace SyncLog.id (log.ended world.now records failure) world.store.logs)) := by
  rw [closeLog_some, request, if_neg (by simp [healthy])]
  rfl

/-- Closing a log touches nothing but logs. -/
theorem closeLog_leaves (world : World) (feed : Feed) (log : Option SyncLog) (records : Nat)
    (failure : Option SyncError) :
    ∃ logs, Sync.closeLog (services feed) log records failure world =
      (.ok (), world.withLogs logs) := by
  cases log with
  | none => exact ⟨world.store.logs, rfl⟩
  | some log =>
    cases failing : world.failing with
    | true => exact ⟨world.store.logs, by rw [closeLog_some, request_of_failing failing]; rfl⟩
    | false => exact ⟨_, closeLog_of_healthy failing log records failure⟩

variable {mode : SyncMode} {league : Option League} {body : Sync.Step World α}
  {records : α → Nat} {failure : α → Option SyncError}

/-- Something that is done under a log ends as it does without one, apart from the logs. -/
theorem logged_eq_ok {r : α}
    (h : Sync.logged (services feed) scope mode league body records failure a = (.ok r, b)) :
    ∃ logs logs' c, body (a.withLogs logs) = (.ok r, c) ∧ b = c.withLogs logs' := by
  obtain ⟨log, logs, hopen⟩ := openLog_leaves a feed scope mode league
  rw [Sync.logged, Action.bind_of_ok hopen] at h
  obtain ⟨r', c, hbody, h⟩ := Action.bind_eq_ok_iff.1 h
  obtain ⟨logs', hclose⟩ := closeLog_leaves c feed log (records r') (failure r')
  rw [Action.bind_of_ok hclose] at h
  cases h
  exact ⟨logs, logs', c, hbody, rfl⟩

/-! ## On a store that answers -/

/-- The store answers, and its tables are valid. -/
structure Sound (world : World) : Prop where
  healthy : world.failing = false
  valid : world.store.Valid

theorem Sound.openLog (sound : world.Sound) (mode : SyncMode) (league : Option League) :
    (world.withLogs (world.store.logs ++ [world.newLog mode league])).Sound :=
  ⟨sound.healthy, sound.valid.openLog world.now mode league⟩

theorem Sound.closeLog (sound : world.Sound) (log : SyncLog) (records : Nat)
    (failure : Option SyncError) :
    (world.withLogs (Table.replace SyncLog.id (log.ended world.now records failure)
      world.store.logs)).Sound :=
  ⟨sound.healthy, sound.valid.closeLog world.now log _ _ _⟩

/-- The logs are the same, and the store still answers. -/
structure SameLogs (a b : World) : Prop where
  logs : b.store.logs = a.store.logs
  sound : a.Sound → b.Sound

instance : IsPreorder World SameLogs where
  refl _ := ⟨rfl, id⟩
  trans _ _ _ hab hbc := ⟨hbc.logs.trans hab.logs, hbc.sound ∘ hab.sound⟩

theorem sameLogs_ask (spares : feed.SparesStore) (q : Question) :
    (ask feed q).Keeps SameLogs := by
  intro world
  exact ⟨rfl, fun sound => ⟨failing_afterReply feed false spares sound.healthy q, sound.valid⟩⟩

theorem sameLogs_request {r : Request} (h : r.isOfLog = false) : (request r).Keeps SameLogs := by
  intro world
  unfold request
  split
  · exact refl_of SameLogs world
  · refine ⟨?_, fun sound => ⟨sound.healthy, sound.valid.perform world.now r⟩⟩
    refine world.store.perform_elim (motive := fun store => store.logs = world.store.logs)
      world.now r rfl (fun _ _ => rfl) (fun record _ => ?_) (fun _ => rfl) ?_ ?_ fun gameId _ => ?_
    · obtain ⟨games, lastGameId, hput⟩ := world.store.putGame_frame world.now record
      rw [hput]
    · rintro mode league rfl
      exact nomatch h
    · rintro log processed success message rfl
      exact nomatch h
    · obtain ⟨grids, colours, hrefresh⟩ := world.store.refreshGrids_frame gameId
      rw [hrefresh]

theorem sameLogs_notify (gameId : Int) : (notify gameId).Keeps SameLogs := by
  intro world
  unfold notify
  split
  · exact refl_of SameLogs world
  · exact ⟨rfl, fun sound => ⟨sound.healthy, sound.valid.notify gameId⟩⟩

/-- While a log is open, no other log changes. -/
theorem sameLogs_relates :
    Sync.Relates (services feed) (services feed) scope fun _ x _ => x.Keeps SameLogs where
  toComposes := Sync.composes_keeps
  store _ _ hr := (sameLogs_request hr).mapError SyncError.store
  processGame league game := Sync.composes_keeps.processGame
    (fun _ hr => (sameLogs_request hr).mapError SyncError.store)
    (fun gameId => (sameLogs_notify gameId).mapError SyncError.store) scope league game

/-- A log that is opened has a number of its own. -/
theorem newLog_id_fresh (valid : a.store.Valid) (mode : SyncMode) (league : Option League) :
    ∀ log ∈ a.store.logs, log.id ≠ (a.newLog mode league).id := by
  intro log hlog same
  have hid : log.id ∈ numbered a.store.logs.length := by
    rw [← valid.logIds]
    exact List.mem_map_of_mem hlog
  have hnew : (a.newLog mode league).id = a.store.logs.length + 1 := rfl
  rw [mem_numbered] at hid
  omega

section UnderALog

variable (sound : a.Sound) (live : scope.dryRun = false) (keeps : body.Keeps SameLogs)

include sound live keeps

/-- A log is opened for what is done under it, and closed at its end. -/
theorem logged_eq_ok_of_sound {r : α}
    (h : Sync.logged (services feed) scope mode league body records failure a = (.ok r, b)) :
    ∃ c, body (a.withLogs (a.store.logs ++ [a.newLog mode league])) = (.ok r, c) ∧
      b = c.withLogs
        (a.store.logs ++ [(a.newLog mode league).ended c.now (records r) (failure r)]) ∧
      b.Sound := by
  rw [Sync.logged, Action.bind_of_ok (openLog_of_healthy sound.healthy live mode league)] at h
  obtain ⟨r', c, hbody, h⟩ := Action.bind_eq_ok_iff.1 h
  have hsame : SameLogs (a.withLogs (a.store.logs ++ [a.newLog mode league])) c := by
    have := keeps (a.withLogs (a.store.logs ++ [a.newLog mode league]))
    rwa [hbody] at this
  have hc : c.Sound := hsame.sound (sound.openLog mode league)
  rw [Action.bind_of_ok (closeLog_of_healthy hc.healthy _ _ _)] at h
  cases h
  have hfresh : ∀ log ∈ a.store.logs,
      log.id ≠ ((a.newLog mode league).ended c.now (records r) (failure r)).id :=
    newLog_id_fresh sound.valid mode league
  have hclosed := hc.closeLog (a.newLog mode league) (records r) (failure r)
  have hlogs : Table.replace SyncLog.id ((a.newLog mode league).ended c.now (records r) (failure r))
      c.store.logs =
        a.store.logs ++ [(a.newLog mode league).ended c.now (records r) (failure r)] := by
    rw [hsame.logs, withLogs_logs]
    exact Table.replace_append_last rfl hfresh
  rw [hlogs] at hclosed ⊢
  exact ⟨c, hbody, rfl, hclosed⟩

/-- What fails under a log leaves it open. -/
theorem logs_of_logged_eq_error {e : SyncError}
    (h : Sync.logged (services feed) scope mode league body records failure a = (.error e, b)) :
    b.store.logs = a.store.logs ++ [a.newLog mode league] := by
  rw [Sync.logged, Action.bind_of_ok (openLog_of_healthy sound.healthy live mode league)] at h
  rcases Action.bind_eq_error_iff.1 h with h | ⟨r, c, -, h⟩
  · have := (keeps (a.withLogs (a.store.logs ++ [a.newLog mode league]))).logs
    rwa [h] at this
  · -- a log that is open is closed without fail
    obtain ⟨logs, hclose⟩ :=
      closeLog_leaves c feed (some (a.newLog mode league)) (records r) (failure r)
    rw [Action.bind_of_ok hclose] at h
    exact nomatch h

end UnderALog

/-! ## Turns -/

variable {l : League}

/-- Apart from the logs, the turn of a league is what is done for it. -/
theorem leagueTurn_eq_ok {entry : LeagueReport}
    (h : Sync.leagueTurn (services feed) scope mode l a = (.ok entry, b)) :
    a.stopped = false ∧ ∃ logs logs' c,
      Sync.leagueWork (services feed) scope mode l (a.withLogs logs) = (.ok entry, c) ∧
        b = c.withLogs logs' := by
  obtain ⟨running, hlogged⟩ := Sync.checkRunning_bind_eq_ok_iff.1 h
  exact ⟨running, logged_eq_ok hlogged⟩

/-- A mode had its turn, from one world to the next, and except for scores each league had its own
in between, in the order of the scope, of which `Q` holds. -/
structure ModeTook (feed : Feed) (scope : SyncScope)
    (Q : SyncMode → World → League → LeagueReport → World → Prop) (a : World) (mode : SyncMode)
    (report : SyncReport) (b : World) : Prop where
  took : Sync.syncMode (services feed) scope mode a = (.ok report, b)
  covers : report.Covers scope mode
  leagues : mode ≠ .scores → Action.Chain (Q mode) a scope.leagues report.leagues b

/-- What holds of the turn of each league, where that begins in a world with a property that every
turn keeps, holds of the leagues of a whole run. -/
theorem chain_of_run_eq_ok {I : World → Prop}
    {Q : SyncMode → World → League → LeagueReport → World → Prop} {modes : List SyncMode}
    {reports : List SyncReport}
    (h : Sync.run (services feed) scope modes a = (.ok reports, b)) (start : I a)
    (modeKeeps : ∀ mode t report t', I t →
      Sync.modeTurn (services feed) scope mode t = (.ok report, t') → I t')
    (turn : ∀ mode ∈ Sync.modesOf modes, mode ≠ .scores → ∀ league ∈ scope.leagues,
      ∀ t entry t', I t → Sync.leagueTurn (services feed) scope mode league t = (.ok entry, t') →
        I t' ∧ Q mode t league entry t') :
    Action.Chain (ModeTook feed scope Q) a (Sync.modesOf modes) reports b := by
  refine ((Action.mapM_eq_ok_iff.1 h).imp_of_mem start
    fun t mode report t' hmem ht hturn => ?_).2
  refine ⟨modeKeeps mode t report t' ht hturn, ?_⟩
  have htook := (Sync.checkRunning_bind_eq_ok_iff.1 hturn).2
  refine ⟨htook, Sync.covers_of_syncMode_eq_ok htook, fun hmode => ?_⟩
  rw [Sync.syncMode_eq hmode] at htook
  obtain ⟨entries, u, hentries, hreport⟩ := Action.bind_eq_ok_iff.1 htook
  cases hreport
  exact ((Action.mapM_eq_ok_iff.1 hentries).imp_of_mem ht fun _ _ _ _ hleague hs hturn =>
    turn mode hmem hmode _ hleague _ _ _ hs hturn).2

section OnAStoreThatAnswers

variable (healthy : a.failing = false)

include healthy

theorem readAndUpdate_of_healthy {result : Except SyncError SyncReport}
    (h : Sync.readAndUpdate (services feed) scope a = (.ok result, b)) :
    ∃ report, result = .ok report := by
  have hneeding : Sync.recover (Sync.store (services feed) .needingUpdate) a =
      (.ok (.ok (a.store.perform a.now .needingUpdate).1), a) :=
    Sync.recover_of_ok (does_store healthy .needingUpdate a.store)
  obtain ⟨found, t, hfound, h⟩ := Action.bind_eq_ok_iff.1 h
  cases hneeding.symm.trans hfound
  obtain ⟨leagues, t', -, h⟩ := Action.bind_eq_ok_iff.1 h
  cases h
  exact ⟨_, rfl⟩

/-- A store that answers says which games may have a new score. -/
theorem endAndUpdate_of_healthy {result : Except SyncError SyncReport}
    (h : Sync.endAndUpdate (services feed) scope a = (.ok result, b)) :
    ∃ report, result = .ok report := by
  unfold Sync.endAndUpdate at h
  split at h
  · exact readAndUpdate_of_healthy healthy h
  · have hstale : Sync.recover (Sync.store (services feed) .finalizeStale) a =
        (.ok (.ok (a.store.finalizeStale a.now).1), a.holding (a.store.finalizeStale a.now).2) :=
      Sync.recover_of_ok (does_store healthy .finalizeStale a.store)
    have healthy' : (a.holding (a.store.finalizeStale a.now).2).failing = false := healthy
    rw [Action.bind_of_ok hstale] at h
    exact readAndUpdate_of_healthy healthy' h

/-- **A mode fails only by being stopped** on a store that answers. -/
theorem isStop_of_modeTurn_eq_error {e : SyncError}
    (h : Sync.modeTurn (services feed) scope mode a = (.error e, b)) : e.isStop = true := by
  rcases Sync.checkRunning_bind_eq_error_iff.1 h with ⟨-, rfl, -⟩ | ⟨-, h⟩
  · rfl
  · by_cases hmode : mode = .scores
    · subst hmode
      change Sync.syncScores (services feed) scope a = _ at h
      rw [Sync.syncScores_eq] at h
      rcases Action.bind_eq_error_iff.1 h with h | ⟨result, t, hlogged, h⟩
      · exact (Sync.FailsByStop.logged .endAndUpdate) a e b h
      · obtain ⟨logs, logs', c, hwork, -⟩ := logged_eq_ok hlogged
        have healthy' : (a.withLogs logs).failing = false := healthy
        obtain ⟨report, rfl⟩ := endAndUpdate_of_healthy healthy' hwork
        cases h
    · exact Sync.FailsByStop.syncMode hmode a e b h

end OnAStoreThatAnswers

section OnASoundStore

variable (spares : feed.SparesStore) (live : scope.dryRun = false) (sound : a.Sound)

include spares

theorem sameLogs_leagueWork (hmode : mode ≠ .scores) :
    (Sync.leagueWork (services feed) scope mode l).Keeps SameLogs :=
  sameLogs_relates.leagueWork hmode fun q _ _ => (sameLogs_ask spares q).mapError SyncError.feed

theorem sameLogs_endAndUpdate : (Sync.endAndUpdate (services feed) scope).Keeps SameLogs :=
  sameLogs_relates.endAndUpdate
    (fun _ q _ _ => (sameLogs_ask spares q).mapError SyncError.feed)
    fun league => Sync.keeps_recentGames_of (sameLogs_ask spares) league

include live sound

/-- The turn of a league adds one log, and closes it with what the league's report says. -/
theorem logs_of_leagueTurn_eq_ok (hmode : mode ≠ .scores) {entry : LeagueReport}
    (h : Sync.leagueTurn (services feed) scope mode l a = (.ok entry, b)) :
    b.Sound ∧ ∃ now, b.store.logs =
      a.store.logs ++ [(a.newLog mode (some l)).ended now (entry.counted mode) entry.failure] := by
  obtain ⟨c, -, rfl, hsound⟩ := logged_eq_ok_of_sound sound live
    (sameLogs_leagueWork spares hmode) (Sync.checkRunning_bind_eq_ok_iff.1 h).2
  exact ⟨hsound, c.now, rfl⟩

/-- A league whose turn is stopped leaves its log open. -/
theorem logs_of_leagueTurn_eq_error (hmode : mode ≠ .scores) {e : SyncError}
    (h : Sync.leagueTurn (services feed) scope mode l a = (.error e, b)) :
    b = a ∨ b.store.logs = a.store.logs ++ [a.newLog mode (some l)] := by
  rcases Sync.checkRunning_bind_eq_error_iff.1 h with ⟨-, -, rfl⟩ | ⟨-, hlogged⟩
  · exact .inl rfl
  · exact .inr (logs_of_logged_eq_error sound live (sameLogs_leagueWork spares hmode) hlogged)

/-- A run of scores adds one log, and closes it as a success. -/
theorem logs_of_syncScores_eq_ok {report : SyncReport}
    (h : Sync.syncScores (services feed) scope a = (.ok report, b)) :
    b.Sound ∧ ∃ now, b.store.logs =
      a.store.logs ++ [(a.newLog .scores (Sync.only scope)).ended now report.processed none] := by
  rw [Sync.syncScores_eq] at h
  obtain ⟨result, t, hlogged, h⟩ := Action.bind_eq_ok_iff.1 h
  cases h
  obtain ⟨c, -, rfl, hsound⟩ :=
    logged_eq_ok_of_sound sound live (sameLogs_endAndUpdate spares) hlogged
  exact ⟨hsound, c.now, rfl⟩

/-- A run of scores that fails leaves its log open. -/
theorem logs_of_syncScores_eq_error {e : SyncError}
    (h : Sync.syncScores (services feed) scope a = (.error e, b)) :
    b.store.logs = a.store.logs ++ [a.newLog .scores (Sync.only scope)] := by
  rw [Sync.syncScores_eq] at h
  rcases Action.bind_eq_error_iff.1 h with h | ⟨result, t, hlogged, h⟩
  · exact logs_of_logged_eq_error sound live (sameLogs_endAndUpdate spares) h
  · -- the log would only be closed on a failure that a store that answers rules out
    obtain ⟨c, hwork, -, -⟩ :=
      logged_eq_ok_of_sound sound live (sameLogs_endAndUpdate spares) hlogged
    obtain ⟨report, rfl⟩ := endAndUpdate_of_healthy (sound.openLog .scores _).healthy hwork
    cases h

end OnASoundStore

end World

end SquarePool
