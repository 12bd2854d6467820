import SquarePool.Proofs.Sync.Turns

/-!
# The ledger of a run

The logs of sync runs are a ledger beside the reports that runs give. Main statement: on a store
that answers, a run that is not stopped leaves every earlier log alone and adds one closed log for
each line of its reports, with consecutive numbers, and the log says what the line says.
-/

namespace SquarePool

/-! ## Messages -/

theorem append_ne_empty {s : String} (h : s ≠ "") (t : String) : s ++ t ≠ "" :=
  fun e => h (String.append_eq_empty_iff.1 e).1

theorem FeedError.message_ne_empty (e : FeedError) : e.message ≠ "" := by
  cases e with
  | rateLimited => exact append_ne_empty (append_ne_empty (append_ne_empty (by decide) _) _) _
  | status => exact append_ne_empty (append_ne_empty (append_ne_empty (by decide) _) _) _
  | network => exact append_ne_empty (by decide) _
  | decode => exact append_ne_empty (append_ne_empty (append_ne_empty (by decide) _) _) _
  | gameNotFound => exact append_ne_empty (append_ne_empty (append_ne_empty (by decide) _) _) _
  | unreadableDate => exact append_ne_empty (by decide) _
  | missing => exact append_ne_empty (by decide) _
  | cancelled => decide

/-- Every failure has something to say. -/
theorem SyncError.message_ne_empty (e : SyncError) : e.message ≠ "" := by
  cases e with
  | feed cause => exact cause.message_ne_empty
  | store cause =>
    cases cause with
    | database => exact append_ne_empty (by decide) _
    | cancelled => decide
  | noTeams => exact append_ne_empty (append_ne_empty (by decide) _) _
  | stopped => decide

/-- The start of a message is kept as it is. -/
theorem SyncError.nonEmpty_cutMessage (e : SyncError) :
    nonEmpty (some (cutMessage e.message)) = some (cutMessage e.message) := by
  have hcut : cutMessage e.message ≠ "" := by
    intro hempty
    have hlist : e.message.toList.take maxLogMessage = [] := by
      rw [← String.toList_ofList (l := e.message.toList.take maxLogMessage)]
      exact String.toList_eq_nil_iff.2 hempty
    rcases List.take_eq_nil_iff.1 hlist with h | h
    · exact absurd h (by decide)
    · exact e.message_ne_empty (String.toList_eq_nil_iff.1 h)
  simp [nonEmpty, hcut]

/-! ## Lines -/

/-- What the ledger should say about a part of a run. -/
structure LedgerLine where
  mode : SyncMode
  league : Option League
  records : Nat
  failure : Option SyncError

/-- The line for a league. -/
def LeagueReport.line (mode : SyncMode) (entry : LeagueReport) : LedgerLine where
  mode := mode
  league := some entry.league
  records := entry.counted mode
  failure := entry.failure

/-- The lines for a mode: one for each league, except that scores have one line for all leagues,
which names the league if the scope lists exactly one. -/
def SyncReport.lines (scope : SyncScope) (report : SyncReport) : List LedgerLine :=
  match report.mode with
  | .scores =>
    [{ mode := .scores, league := Sync.only scope, records := report.processed, failure := none }]
  | mode => report.leagues.map (LeagueReport.line mode)

/-- The log is closed and says what the line says. A message is cut to 500 characters, and a number
is at most the largest that a column holds. -/
structure SyncLog.Says (log : SyncLog) (line : LedgerLine) : Prop where
  mode : log.mode = line.mode
  league : log.league = line.league
  closed : log.isComplete = true
  success : log.success = some line.failure.isNone
  error : log.error = line.failure.map fun e => String.ofList (e.message.toList.take 500)
  processed : log.processed = min (line.records : Int) Text.int32Max

theorem SyncLog.says_ended (log : SyncLog) (now : Instant) (records : Nat)
    (failure : Option SyncError) :
    (log.ended now records failure).Says
      { mode := log.mode, league := log.league, records, failure } where
  mode := rfl
  league := rfl
  closed := rfl
  success := rfl
  error := by
    cases failure with
    | none => rfl
    | some e => exact e.nonEmpty_cutMessage
  processed := rfl

namespace World

variable {feed : Feed} {scope : SyncScope} {mode : SyncMode} {a b c : World}

/-- From one world to the next, logs are added that say some lines. -/
def Adds (lines : List LedgerLine) (a b : World) : Prop :=
  ∃ rows, b.store.logs = a.store.logs ++ rows ∧ List.Forall₂ SyncLog.Says rows lines

theorem Adds.refl (a : World) : Adds [] a a := ⟨[], by simp, .nil⟩

theorem Adds.trans {first second : List LedgerLine} (hab : Adds first a b) (hbc : Adds second b c) :
    Adds (first ++ second) a c := by
  obtain ⟨rows, hb, hrows⟩ := hab
  obtain ⟨rows', hc, hrows'⟩ := hbc
  exact ⟨rows ++ rows', by rw [hc, hb, List.append_assoc], List.rel_append hrows hrows'⟩

/-- What each of several turns adds is added in their order. -/
theorem adds_of_chain {α β : Type} {R : World → α → β → World → Prop} {items : List α}
    {results : List β} {lines : β → List LedgerLine} (h : Action.Chain R a items results b)
    (sound : a.Sound)
    (step : ∀ t x y t', t.Sound → R t x y t' → t'.Sound ∧ Adds (lines y) t t') :
    b.Sound ∧ Adds (results.flatMap lines) a b := by
  induction h with
  | nil a => exact ⟨sound, .refl a⟩
  | cons hab _ ih =>
    obtain ⟨ht, hfirst⟩ := step _ _ _ _ sound hab
    obtain ⟨hb, hrest⟩ := ih ht
    exact ⟨hb, hfirst.trans hrest⟩

/-! ## Modes -/

section Modes

variable (spares : feed.SparesStore) (live : scope.dryRun = false)

include spares live

theorem adds_leagueTurn (sound : a.Sound) (hmode : mode ≠ .scores) {league : League}
    {entry : LeagueReport}
    (h : Sync.leagueTurn (services feed) scope mode league a = (.ok entry, b)) :
    b.Sound ∧ Adds [entry.line mode] a b := by
  obtain ⟨hsound, now, hlogs⟩ := logs_of_leagueTurn_eq_ok spares live sound hmode h
  obtain ⟨-, logs, logs', c, hwork, -⟩ := leagueTurn_eq_ok h
  have hleague : entry.league = league := Sync.leagueWork_league hwork
  refine ⟨hsound, _, hlogs, .cons ?_ .nil⟩
  rw [LeagueReport.line, hleague]
  exact SyncLog.says_ended _ _ _ _

/-- **A mode** adds the lines of its report. -/
theorem adds_syncMode (sound : a.Sound) {report : SyncReport}
    (h : Sync.syncMode (services feed) scope mode a = (.ok report, b)) :
    b.Sound ∧ Adds (report.lines scope) a b := by
  by_cases hmode : mode = .scores
  · subst hmode
    have hscores : report.mode = .scores := (Sync.covers_of_syncMode_eq_ok h).mode
    obtain ⟨hsound, now, hlogs⟩ := logs_of_syncScores_eq_ok spares live sound h
    refine ⟨hsound, _, hlogs, ?_⟩
    rw [SyncReport.lines, hscores]
    exact .cons (SyncLog.says_ended _ _ _ _) .nil
  · rw [Sync.syncMode_eq hmode] at h
    obtain ⟨entries, t, hentries, h⟩ := Action.bind_eq_ok_iff.1 h
    cases h
    have hlines : SyncReport.lines scope { mode, leagues := entries } =
        entries.flatMap fun entry => [entry.line mode] := by
      rw [← List.map_eq_flatMap, SyncReport.lines]
      cases mode <;> first | rfl | exact absurd rfl hmode
    rw [hlines]
    exact adds_of_chain (Action.mapM_eq_ok_iff.1 hentries) sound fun _ _ _ _ ht hturn =>
      adds_leagueTurn spares live ht hmode hturn

theorem adds_modeTurn (sound : a.Sound) {report : SyncReport}
    (h : Sync.modeTurn (services feed) scope mode a = (.ok report, b)) :
    b.Sound ∧ Adds (report.lines scope) a b :=
  adds_syncMode spares live sound (Sync.checkRunning_bind_eq_ok_iff.1 h).2

/-- **A run fails only by being stopped** on a store that answers. -/
theorem isStop_of_run_eq_error (sound : a.Sound) {modes : List SyncMode} {e : SyncError}
    (h : Sync.run (services feed) scope modes a = (.error e, b)) : e.isStop = true := by
  obtain ⟨done, item, rest, reports, t, -, hdone, hitem⟩ := Action.exists_of_mapM_eq_error h
  have ht : t.Sound := (adds_of_chain hdone sound fun _ _ _ _ ht hturn =>
    adds_modeTurn spares live ht hturn).1
  exact isStop_of_modeTurn_eq_error ht.healthy hitem

end Modes

/-- **The ledger agrees with the reports.** A run on a store that answers, whatever else the feed
refuses, ends with a report for each mode unless it is stopped. The logs that were there before stay
as they are. Those that it adds are numbered on, and each is closed and says what its line in the
reports says: one for each league in the order of the scope for teams and for schedules, and one for
scores. -/
theorem every_line_is_logged {world : World} (reachable : world.store.Reachable)
    (healthy : world.failing = false) (spares : feed.SparesStore) (live : scope.dryRun = false)
    (modes : List SyncMode)
    (unstopped : ∀ e, (Sync.run (services feed) scope modes world).1 = .error e →
      e.isStop = false) :
    ∃ (reports : List SyncReport) (rows : List SyncLog) (next : World),
      Sync.run (services feed) scope modes world = (.ok reports, next) ∧
      List.Forall₂ (fun mode report => report.Covers scope mode)
        (SyncMode.all.filter (modes.contains ·)) reports ∧
      next.store.logs = world.store.logs ++ rows ∧
      rows.map SyncLog.id =
        (List.range rows.length).map (fun i : Nat => (world.store.logs.length : Int) + i + 1) ∧
      List.Forall₂ SyncLog.Says rows (reports.flatMap (SyncReport.lines scope)) := by
  have sound : world.Sound := ⟨healthy, reachable.valid⟩
  cases hrun : Sync.run (services feed) scope modes world with
  | mk result next =>
    cases result with
    | error e =>
      have hstop := isStop_of_run_eq_error spares live sound hrun
      rw [unstopped e (by rw [hrun])] at hstop
      exact nomatch hstop
    | ok reports =>
      obtain ⟨hsound, rows, hlogs, hrows⟩ := adds_of_chain (Action.mapM_eq_ok_iff.1 hrun) sound
        fun _ _ _ _ ht hturn => adds_modeTurn spares live ht hturn
      refine ⟨reports, rows, next, rfl, Sync.covers_of_run_eq_ok hrun, hlogs, ?ids, hrows⟩
      case ids =>
        have hids := hsound.valid.logIds
        rw [hlogs, List.map_append, List.length_append, numbered_add, sound.valid.logIds] at hids
        exact List.append_cancel_left hids

/-- The feed gives the teams and the season of one league and refuses those of the other. The log of
an earlier run stays, and five are added, of which two tell of a failure. -/
theorem two_leagues_are_logged :
    let game : Game := { id := "401", start := .epoch, status := .inProgress }
    let season : SeasonWindow :=
      { year := 1970, start := .epoch, finish := .epoch, typeName := "Regular", inSeason := true }
    let feed : Feed := fun _ q => match q with
      | .teams .nba => { answer := .ok [{ id := "1" }, { id := "2" }] }
      | .season .nba => { answer := .ok season }
      | .dateRange .. | .scoreboard .. => { answer := .ok [game] }
      | _ => { answer := .error .network }
    let scope : SyncScope := { leagues := [.wnba, .nba] }
    let world : World := ({ now := .epoch } : World).after [.run feed scope [.scores] false]
    ∃ (rows : List SyncLog) (next : World),
      (Sync.run (services feed) scope [.scores, .teams, .schedule, .teams] world).2 = next ∧
      next.store.logs = world.store.logs ++ rows ∧
      rows.map SyncLog.id = [2, 3, 4, 5, 6] ∧
      List.Forall₂ SyncLog.Says rows
        [{ mode := .teams, league := some .wnba, records := 0, failure := some (.feed .network) },
          { mode := .teams, league := some .nba, records := 2, failure := none },
          { mode := .schedule, league := some .wnba, records := 0,
            failure := some (.feed .network) },
          { mode := .schedule, league := some .nba, records := 1, failure := none },
          { mode := .scores, league := none, records := 1, failure := none }] := by
  intro game season feed scope world
  have result : (Sync.run (services feed) scope [.scores, .teams, .schedule, .teams] world).1 =
      .ok
        [{ mode := .teams, leagues :=
            [{ league := .wnba, failure := some (.feed .network) },
              { league := .nba, fetched := 2, processed := 2 }] },
          { mode := .schedule, leagues :=
            [{ league := .wnba, failure := some (.feed .network) },
              { league := .nba, fetched := 1, processed := 1 }] },
          { mode := .scores, leagues := [{ league := .nba, fetched := 1, processed := 1 }] }] := by
    subst world scope feed season game
    decide +kernel
  obtain ⟨healthy, one⟩ : world.failing = false ∧ world.store.logs.length = 1 := by
    subst world scope feed season game
    decide +kernel
  have spares : feed.SparesStore := by
    intro before q
    cases q with
    | teams league => cases league <;> exact nofun
    | season league => cases league <;> exact nofun
    | _ => exact nofun
  obtain ⟨reports, rows, next, hrun, -, hlogs, hids, hrows⟩ :=
    @every_line_is_logged feed scope world ⟨.epoch, _, rfl⟩ healthy spares rfl
      [.scores, .teams, .schedule, .teams] fun e h => nomatch result.symm.trans h
  rw [hrun] at result
  obtain rfl := Except.ok.inj result
  refine ⟨rows, next, congrArg Prod.snd hrun, hlogs, ?ids, hrows⟩
  case ids =>
    rw [hids, hrows.length_eq, one]
    rfl

end World

end SquarePool
