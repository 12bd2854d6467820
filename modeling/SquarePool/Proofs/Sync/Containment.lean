import SquarePool.Proofs.Sync.Carried
import SquarePool.Proofs.Sync.Turns

/-!
# Failures of the feed are contained

A feed may refuse any question. Main statement: as long as the store answers and nothing stops the
run, a run gives a report for each of its modes whatever the feed refuses, and a league is reported
as failed exactly if the first thing that its mode needs was refused: its teams; or its season, its
span of days, or the stored teams that its schedule is read by.
-/

namespace SquarePool

/-- The first day that is asked for when a schedule is read by days, once the season is known. -/
def World.firstDay (feed : Feed) (world : World) (league : League) (season : SeasonWindow) : Date :=
  if season.inSeason then
    (world.afterReply (.season league) (feed world.asked (.season league))).now.date
  else season.start.date

/-- The span of days that the schedule of a league is read by is refused. -/
def Feed.RefusesDays (feed : Feed) (world : World) (league : League) : Prop :=
  league.scheduleWeeks = none ∧ league ≠ .ncaab ∧
    ∃ season, (feed world.asked (.season league)).answer = .ok season ∧
      feed.Refuses (world.asked ++ [.season league])
        (.dateRange league (world.firstDay feed league season) season.finish.date)

/-- What a mode needs first for a league is not to be had: its teams; or its season, its days, or
the stored teams that a schedule is read by where it is read team by team. -/
def Feed.Fails (feed : Feed) (world : World) (league : League) : SyncMode → Prop
  | .teams => feed.Refuses world.asked (.teams league)
  | .schedule =>
    feed.Refuses world.asked (.season league) ∨ feed.RefusesDays world league ∨
      league = .ncaab ∧ world.store.teamsOf league = []
  | .scores => False

namespace World

variable {α β : Type} {feed : Feed} {scope : SyncScope} {mode : SyncMode} {league : League}
  {a b : World}

/-- The store answers, and the run has not been asked to stop. -/
structure Calm (world : World) : Prop where
  healthy : world.failing = false
  running : world.stopped = false

/-- From a calm world on the step ends in a calm world, and not by a stop. -/
def StaysCalm (x : Sync.Step World α) : Prop :=
  ∀ a : World, a.Calm → (x a).2.Calm ∧ SyncError.ends (x a).1 = false

theorem staysCalm_store (r : Request) : StaysCalm (Sync.store (services feed) r) := by
  intro a calm
  have hstore : Sync.store (services feed) r a =
      (.ok (a.store.perform a.now r).1, a.holding (a.store.perform a.now r).2) :=
    does_store calm.healthy r a.store
  rw [hstore]
  exact ⟨⟨calm.healthy, calm.running⟩, rfl⟩

theorem staysCalm_notify (gameId : Int) :
    StaysCalm (((services feed).notify gameId).mapError SyncError.store) := by
  intro a calm
  obtain ⟨hfailing, hstopped, hends⟩ := notify_frame gameId a
  exact ⟨⟨hfailing.trans calm.healthy, hstopped.trans calm.running⟩, hends⟩

theorem staysCalm_composes :
    Sync.Composes (services feed) (services feed) fun _ x _ => StaysCalm x :=
  Sync.carries_composes (I := Calm) fun _ calm => calm.running

theorem StaysCalm.succeeds {x : Sync.Step World α} (h : StaysCalm x) (hx : Sync.FailsByStop x)
    (calm : a.Calm) : ∃ r b, x a = (.ok r, b) := by
  obtain ⟨r, b, hb, -⟩ := Sync.Carries.succeeds (I := Calm) h hx calm
  exact ⟨r, b, hb⟩

/-! ## What a league needs -/

theorem ask_eq_error_iff {q : Question} :
    (∃ e t, Sync.ask (services feed) q a = (.error e, t)) ↔ feed.Refuses a.asked q := by
  rw [ask_apply, Feed.Refuses]
  cases (feed a.asked q).answer <;> simp [Except.mapError]

/-- A schedule that is read by days needs its days. -/
theorem gamesByDay_eq_error_iff (season : SeasonWindow) :
    (∃ e t, Sync.gamesByDay (services feed) league season a = (.error e, t)) ↔
      feed.Refuses a.asked (.dateRange league
        (if season.inSeason then a.now.date else season.start.date) season.finish.date) :=
  ask_eq_error_iff

theorem staysCalm_gather (feed : Feed) {fetch : α → Sync.Step World (List β)}
    (h : ∀ item, StaysCalm (fetch item)) (items : List α) :
    StaysCalm (Sync.gather (services feed) fetch items) :=
  @Sync.Composes.gather _ _ _ _ _ (services feed) _ staysCalm_composes fetch fetch h items

section Quiet

variable (spares : feed.SparesStore) (never : feed.NeverStops)

include spares never

theorem staysCalm_ask (q : Question) : StaysCalm (Sync.ask (services feed) q) := by
  intro a calm
  obtain ⟨hrunning, hends⟩ := ask_of_neverStops never calm.running q
  exact ⟨⟨failing_afterReply feed false spares calm.healthy q, hrunning⟩, hends⟩

theorem staysCalm_recentGames (league : League) :
    StaysCalm (Sync.recentGames (services feed) league) :=
  Sync.Carries.recentGames (I := Calm) (staysCalm_ask spares never) league

/-- Nothing that a run does ends it as long as the feed does not. -/
theorem staysCalm_relatesAll :
    Sync.RelatesAll (services feed) (services feed) scope fun _ x _ => StaysCalm x :=
  Sync.carries_relatesAll (I := Calm) (fun _ calm => calm.running) (staysCalm_ask spares never)
    staysCalm_store staysCalm_notify

/-- The schedule of a football league is always read: a week that is refused adds nothing. -/
theorem gamesByWeek_succeeds (calm : a.Calm) (season : Int) (regular post : Nat) :
    ¬ ∃ e t, Sync.gamesByWeek (services feed) league season regular post a = (.error e, t) := by
  obtain ⟨games, t, h⟩ := (staysCalm_gather feed
    (fun week : SeasonType × Int =>
      staysCalm_ask spares never (.scoreboard league (.forWeek season week.2 week.1)))
    (Sync.weeksOf regular post)).succeeds (.gather _ _) calm
  rintro ⟨e, t', h'⟩
  exact nomatch h.symm.trans h'

/-- A schedule that is read team by team needs a team and nothing else. -/
theorem gamesByTeam_eq_error_iff (calm : a.Calm) :
    (∃ e t, Sync.gamesByTeam (services feed) league a = (.error e, t)) ↔
      a.store.teamsOf league = [] := by
  have hteams : Sync.store (services feed) (.teams league) a =
      (.ok (a.store.teamsOf league), a) :=
    does_store calm.healthy (.teams league) a.store
  rw [Sync.gamesByTeam, Action.bind_of_ok hteams]
  cases a.store.teamsOf league with
  | nil => exact iff_of_true ⟨_, _, rfl⟩ rfl
  | cons team rest =>
    obtain ⟨games, t, h⟩ := (staysCalm_gather feed
      (fun row : TeamRow => staysCalm_ask spares never (.schedule league row.id))
      (team :: rest)).succeeds (.gather _ _) calm
    refine iff_of_false ?_ (by simp)
    dsimp only
    rw [Action.bind_of_ok h, Action.pure_apply]
    simp

/-- The schedule of a league cannot be fetched exactly if one of three things is refused. -/
theorem scheduleOf_eq_error_iff (calm : a.Calm) :
    (∃ e t, Sync.scheduleOf (services feed) league a = (.error e, t)) ↔
      feed.Fails a league .schedule := by
  unfold Sync.scheduleOf
  cases hseason : (feed a.asked (.season league)).answer with
  | error e =>
    have hask : Sync.ask (services feed) (.season league) a =
        (.error (.feed e), a.afterReply (.season league) (feed a.asked (.season league))) := by
      rw [ask_apply, hseason]
      rfl
    exact iff_of_true ⟨_, _, Action.bind_of_error hask _⟩ (.inl ⟨e, hseason⟩)
  | ok season =>
    have hask : Sync.ask (services feed) (.season league) a =
        (.ok season, a.afterReply (.season league) (feed a.asked (.season league))) := by
      rw [ask_apply, hseason]
      rfl
    have hcalm : (a.afterReply (.season league) (feed a.asked (.season league))).Calm :=
      (staysCalm_ask spares never (.season league) a calm).1
    have hgiven : ¬ feed.Refuses a.asked (.season league) := by
      rintro ⟨e, he⟩
      exact nomatch hseason.symm.trans he
    rw [Action.bind_of_ok hask]
    cases hweeks : league.scheduleWeeks with
    | some weeks =>
      refine iff_of_false (gamesByWeek_succeeds spares never hcalm _ _ _) ?_
      rintro (h | h | ⟨rfl, -⟩)
      · exact hgiven h
      · exact nomatch hweeks.symm.trans h.1
      · exact nomatch hweeks
    | none =>
      by_cases hl : league = .ncaab
      · dsimp only
        rw [if_pos hl, gamesByTeam_eq_error_iff spares never hcalm]
        constructor
        · exact fun h => .inr (.inr ⟨hl, h⟩)
        · rintro (h | h | h)
          · exact absurd h hgiven
          · exact absurd hl h.2.1
          · exact h.2
      · dsimp only
        rw [if_neg hl, gamesByDay_eq_error_iff]
        constructor
        · exact fun h => .inr (.inl ⟨hweeks, hl, season, hseason, h⟩)
        · rintro (h | ⟨-, -, season', hseason', h⟩ | h)
          · exact absurd h hgiven
          · cases hseason.symm.trans hseason'
            exact h
          · exact absurd h.1 hl

theorem leagueWork_failure (hmode : mode ≠ .scores) (calm : a.Calm) {entry : LeagueReport}
    (h : Sync.leagueWork (services feed) scope mode league a = (.ok entry, b)) :
    (entry.failure.isSome ↔ feed.Fails a league mode) ∧
      (entry.failure.isSome → entry.fetched = 0 ∧ entry.processed = 0) := by
  cases mode with
  | teams =>
    change Sync.refreshTeams (services feed) scope league a = _ at h
    obtain ⟨hfailure, hcounts⟩ := Sync.fetchAndProcess_failure h
    exact ⟨hfailure.trans ask_eq_error_iff, hcounts⟩
  | schedule =>
    change Sync.loadSchedule (services feed) scope league a = _ at h
    obtain ⟨hfailure, hcounts⟩ := Sync.fetchAndProcess_failure h
    exact ⟨hfailure.trans (scheduleOf_eq_error_iff spares never calm), hcounts⟩
  | scores => exact absurd rfl hmode

end Quiet

/-! ## A run -/

/-- A league had its turn, from one world to the next, and its entry says that it failed exactly if
what it needs first was refused there. -/
structure LeagueContained (feed : Feed) (scope : SyncScope) (mode : SyncMode) (a : World)
    (league : League) (entry : LeagueReport) (b : World) : Prop where
  took : Sync.leagueTurn (services feed) scope mode league a = (.ok entry, b)
  about : entry.league = league
  failed : entry.failure.isSome ↔ feed.Fails a league mode
  counted : entry.failure.isSome → entry.fetched = 0 ∧ entry.processed = 0

section Run

variable (spares : feed.SparesStore) (never : feed.NeverStops)

include spares never

theorem leagueContained (hmode : mode ≠ .scores) (calm : a.Calm) {entry : LeagueReport}
    (h : Sync.leagueTurn (services feed) scope mode league a = (.ok entry, b)) :
    b.Calm ∧ LeagueContained feed scope mode a league entry b := by
  have hstays : StaysCalm (Sync.leagueTurn (services feed) scope mode league) :=
    (staysCalm_relatesAll spares never).leagueTurn hmode fun q _ _ =>
      staysCalm_ask spares never q
  have hcalm : b.Calm := by
    have := (hstays a calm).1
    rwa [h] at this
  obtain ⟨-, logs, logs', c, hwork, -⟩ := leagueTurn_eq_ok h
  have calm' : (a.withLogs logs).Calm := ⟨calm.healthy, calm.running⟩
  obtain ⟨hfailed, hcounted⟩ := leagueWork_failure spares never hmode calm' hwork
  -- other logs change nothing about what is refused
  have hsame : feed.Fails (a.withLogs logs) league mode ↔ feed.Fails a league mode := by
    cases mode <;> rfl
  exact ⟨hcalm, h, Sync.leagueWork_league hwork, hfailed.trans hsame, hcounted⟩

theorem staysCalm_modeTurn (scope : SyncScope) (mode : SyncMode) :
    StaysCalm (Sync.modeTurn (services feed) scope mode) :=
  (staysCalm_relatesAll spares never).modeTurn mode

theorem Calm.modeTurn (calm : a.Calm) {report : SyncReport}
    (h : Sync.modeTurn (services feed) scope mode a = (.ok report, b)) : b.Calm := by
  have := (staysCalm_modeTurn spares never scope mode a calm).1
  rwa [h] at this

/-- A run from a calm world on ends well. -/
theorem Calm.run (calm : a.Calm) (scope : SyncScope) (modes : List SyncMode) :
    ∃ reports b, Sync.run (services feed) scope modes a = (.ok reports, b) := by
  rcases hrun : Sync.run (services feed) scope modes a with ⟨e | reports, b⟩
  · -- the mode that failed would have been stopped, and nothing stops it
    obtain ⟨done, mode, rest, reports, t, -, hdone, hturn⟩ := Action.exists_of_mapM_eq_error hrun
    have ht : t.Calm := (hdone.imp_of calm fun _ _ _ _ ht hturn =>
      ⟨ht.modeTurn spares never hturn, hturn⟩).1
    replace hturn : Sync.modeTurn (services feed) scope mode t = (.error e, b) := hturn
    have hstop : e.isStop = true := isStop_of_modeTurn_eq_error ht.healthy hturn
    have hends := (staysCalm_modeTurn spares never scope mode t ht).2
    rw [hturn] at hends
    exact absurd (hstop.symm.trans hends) (by decide)
  · exact ⟨reports, b, rfl⟩

end Run

/-- **Failures of the feed are contained.** On a store that answers and with nothing that stops the
run, the run ends well whatever the feed refuses. Each mode that is asked for has one report, in the
usual order of modes. For teams and for schedules it has an entry for each league in the order of
the scope, which failed exactly if what its mode needs first was refused when it had its turn, and
then counts nothing; for scores every entry is a success. -/
theorem failures_are_contained {world : World} (healthy : world.failing = false)
    (running : world.stopped = false) (spares : feed.SparesStore) (never : feed.NeverStops)
    (scope : SyncScope) (modes : List SyncMode) :
    ∃ reports next, Sync.run (services feed) scope modes world = (.ok reports, next) ∧
      Action.Chain (ModeTook feed scope (LeagueContained feed scope)) world
        (SyncMode.all.filter (modes.contains ·)) reports next := by
  have calm : world.Calm := ⟨healthy, running⟩
  obtain ⟨reports, next, hrun⟩ := calm.run spares never scope modes
  refine ⟨reports, next, hrun, chain_of_run_eq_ok hrun calm ?mode ?league⟩
  case mode => exact fun _ _ _ _ ht hturn => ht.modeTurn spares never hturn
  case league =>
    exact fun _ _ hmode _ _ _ _ _ ht hturn => leagueContained spares never hmode ht hturn

/-- Every week of one league is refused, the days of a second, and the season of a third, and no
team of a fourth is stored. The first league succeeds, the others fail each for its own reason, and the
game whose scoreboards and summary are refused does not keep the scores from being a success. -/
theorem refusals_stay_with_their_league :
    let game : Game := { id := "401", start := .epoch, status := .inProgress }
    let season : SeasonWindow :=
      { year := 1970, start := .epoch, finish := .epoch, typeName := "Regular", inSeason := true }
    let feed : Feed := fun _ q => match q with
      | .season .nba => { answer := .error .network }
      | .season _ => { answer := .ok season }
      | .dateRange .. => { answer := .error (.decode .scoreboard) }
      | _ => { answer := .error .network }
    let scope : SyncScope := { leagues := [.nfl, .wnba, .nba, .ncaab] }
    let world : World := ({ now := .epoch } : World).after [.process feed scope .nfl game]
    ∃ reports next,
      Sync.run (services feed) scope [.scores, .schedule, .scores] world = (.ok reports, next) ∧
      Action.Chain (ModeTook feed scope (LeagueContained feed scope)) world [.schedule, .scores]
        reports next ∧
      reports = [
        { mode := .schedule, leagues :=
          [{ league := .nfl },
            { league := .wnba, failure := some (.feed (.decode .scoreboard)) },
            { league := .nba, failure := some (.feed .network) },
            { league := .ncaab, failure := some (.noTeams .ncaab) }] },
        { mode := .scores, leagues := [{ league := .nfl, fetched := 1 }] }] := by
  intro game season feed scope world
  have result : (Sync.run (services feed) scope [.scores, .schedule, .scores] world).1 = .ok [
      { mode := .schedule, leagues :=
        [{ league := .nfl },
          { league := .wnba, failure := some (.feed (.decode .scoreboard)) },
          { league := .nba, failure := some (.feed .network) },
          { league := .ncaab, failure := some (.noTeams .ncaab) }] },
      { mode := .scores, leagues := [{ league := .nfl, fetched := 1 }] }] := by
    subst world scope feed season game
    decide +kernel
  obtain ⟨healthy, running⟩ : world.failing = false ∧ world.stopped = false := by
    subst world scope feed season game
    decide +kernel
  have spares : feed.SparesStore := by
    intro before q
    cases q with
    | season league => cases league <;> exact nofun
    | _ => exact nofun
  have never : feed.NeverStops := by
    intro before q
    cases q with
    | season league => cases league <;> exact ⟨rfl, nofun⟩
    | _ => exact ⟨rfl, nofun⟩
  obtain ⟨reports, next, hrun, hchain⟩ :=
    failures_are_contained healthy running spares never scope [.scores, .schedule, .scores]
  rw [hrun] at result
  exact ⟨reports, next, hrun, hchain, Except.ok.inj result⟩

end World

end SquarePool
