import SquarePool.Proofs.Store.LeagueRows
import SquarePool.Proofs.Sync.Containment

/-!
# Leagues apart

A run of teams goes through its leagues one after the other and writes all of them to one table,
where teams of different leagues may share an identifier. Main statement: what becomes of a league
is decided by its own rows and by what the feed answers for it, so that neither the answers for
other leagues nor the order of the leagues makes a difference.
-/

namespace SquarePool

namespace Feed

/-- Asked for the teams of a league, the feed answers with what it has for this league, whatever was
asked before; it neither stops the run nor makes the store fail. -/
structure GivesTeams (feed : Feed) (answers : League → Except FeedError (List Team)) : Prop where
  answer : ∀ before league, (feed before (.teams league)).answer = answers league
  never : ∀ league, answers league ≠ .error .cancelled
  runs : ∀ before league, (feed before (.teams league)).stops = false
  spares : ∀ before league, (feed before (.teams league)).failing ≠ some true

/-- The clock stands still while the feed is asked for teams. -/
def KeepsTime (feed : Feed) : Prop := ∀ before league, (feed before (.teams league)).now = none

end Feed

/-- What is reported of a league after an answer. -/
def LeagueReport.ofTeams (league : League) : Except FeedError (List Team) → LeagueReport
  | .ok teams => { league, fetched := teams.length, processed := teams.length }
  | .error e => { league, failure := some (.feed e) }

/-- The rows of a league after an answer: its teams are written in turn to the rows of this league,
and where there are none to write the rows stay as they are. -/
def Store.refreshedRows (store : Store) (now : Instant) (league : League) :
    Except FeedError (List Team) → List TeamRow
  | .ok teams =>
    ((store.onlyTeamsOf league).putTeams now (teams.map (TeamRecord.ofFeed league))).teams
  | .error _ => store.rowsOf league

namespace Store

variable {a b : Store} {now : Instant} {league : League} {answer : Except FeedError (List Team)}

/-- Only the rows of the league itself play a part. -/
theorem refreshedRows_congr (h : a.rowsOf league = b.rowsOf league) :
    a.refreshedRows now league answer = b.refreshedRows now league answer := by
  cases answer with
  | error e => exact h
  | ok teams => rw [refreshedRows, refreshedRows, onlyTeamsOf, onlyTeamsOf, h]

/-- The time at which they are written leaves no other trace in the rows. -/
theorem map_timeless_refreshedRows (store : Store) (now later : Instant) :
    (store.refreshedRows now league answer).map TeamRow.timeless =
      (store.refreshedRows later league answer).map TeamRow.timeless := by
  cases answer with
  | error e => rfl
  | ok teams =>
    show (Store.timeless _).teams = (Store.timeless _).teams
    rw [timeless_putTeams, timeless_putTeams]

end Store

namespace World

variable {feed : Feed} {answers : League → Except FeedError (List Team)} {scope : SyncScope}
  {league : League} {a b : World}

/-! ## One league -/

/-- **Writing teams** to a store that answers: all of them are written in turn. -/
theorem processTeams_of_calm (calm : a.Calm) (live : scope.dryRun = false) (league : League)
    (teams : List Team) :
    Sync.processTeams (services feed) scope league teams a =
      (.ok teams.length, a.holding (a.store.putTeams a.now (teams.map (.ofFeed league)))) := by
  induction teams generalizing a with
  | nil => rfl
  | cons team rest ih =>
    have hteam : Sync.store (services feed) (.putTeam (.ofFeed league team)) a = _ :=
      does_store calm.healthy (.putTeam (.ofFeed league team)) a.store
    have hrest := @ih (a.holding (a.store.putTeam a.now (.ofFeed league team)))
      ⟨calm.healthy, calm.running⟩
    have hstep : (if scope.dryRun then pure () else
        Sync.store (services feed) (.putTeam (.ofFeed league team)) : Sync.Step World Unit) a =
        (.ok (), a.holding (a.store.putTeam a.now (.ofFeed league team))) := by
      rw [if_neg (by simp [live])]
      exact hteam
    refine Sync.checkRunning_bind_eq_ok_iff.2 ⟨calm.running, ?_⟩
    exact (Action.bind_of_ok (Sync.recover_of_ok hstep) _).trans (Action.bind_of_ok hrest _)

/-- A league had its turn, from one world to the next: its own rows are those that its answer makes
of them, and the rows of every other league are the same. -/
structure Refreshed (feed : Feed) (answers : League → Except FeedError (List Team)) (a : World)
    (league : League) (b : World) : Prop where
  calm : b.Calm
  own : ∃ now, b.store.rowsOf league = a.store.refreshedRows now league (answers league) ∧
    (feed.KeepsTime → now = a.now)
  others : ∀ other, other ≠ league → b.store.rowsOf other = a.store.rowsOf other
  time : feed.KeepsTime → b.now = a.now

section Given

variable (gives : feed.GivesTeams answers) (live : scope.dryRun = false)

include gives

theorem calm_afterTeams (calm : a.Calm) (league : League) :
    (a.afterReply (.teams league) (feed a.asked (.teams league))).Calm := by
  constructor
  case healthy =>
    show (feed a.asked (.teams league)).failing.getD a.failing = false
    cases h : (feed a.asked (.teams league)).failing with
    | none => exact calm.healthy
    | some failing =>
      cases failing with
      | false => rfl
      | true => exact absurd h (gives.spares a.asked league)
  case running =>
    show (a.stopped || (feed a.asked (.teams league)).stops) = false
    rw [calm.running, gives.runs]
    rfl

include live

/-- What is done for a league while its log is open. -/
theorem refreshTeams_of_calm (calm : a.Calm) (league : League) :
    ∃ b, Sync.refreshTeams (services feed) scope league a =
        (.ok (.ofTeams league (answers league)), b) ∧
      Refreshed feed answers a league b := by
  let t := a.afterReply (.teams league) (feed a.asked (.teams league))
  have calm' : t.Calm := calm_afterTeams gives calm league
  have time : feed.KeepsTime → t.now = a.now := by
    intro keeps
    show (feed a.asked (.teams league)).now.getD a.now = a.now
    rw [keeps]
    rfl
  have hask : Sync.ask (services feed) (.teams league) a =
      ((answers league).mapError .feed, t) := by
    rw [ask_apply, gives.answer]
  cases hanswer : answers league with
  | error e =>
    rw [hanswer] at hask
    have hstop : (SyncError.feed e).isStop = false := by
      cases e with
      | cancelled => exact absurd hanswer (gives.never league)
      | _ => rfl
    refine ⟨t, Sync.fetchAndProcess_eq_ok_iff.2 (.inl ⟨_, hask, hstop, rfl⟩), calm', ?_,
      fun _ _ => rfl, time⟩
    refine ⟨a.now, ?_, fun _ => rfl⟩
    rw [hanswer]
    rfl
  | ok teams =>
    rw [hanswer] at hask
    have hprocess : Sync.processTeams (services feed) scope league teams t = _ :=
      processTeams_of_calm calm' live league teams
    refine ⟨_, Sync.fetchAndProcess_eq_ok_iff.2 (.inr ⟨teams, _, t, hask, hprocess, rfl⟩),
      ⟨calm'.healthy, calm'.running⟩, ⟨t.now, ?_, time⟩, ?_, time⟩
    · rw [hanswer]
      exact Store.rowsOf_putTeams (by simp [TeamRecord.ofFeed])
    · intro other hother
      exact Store.rowsOf_putTeams_of_ne (by simp [TeamRecord.ofFeed, hother.symm])

/-- **The turn of a league** ends well and leaves the other leagues alone. -/
theorem teamsTurn_of_calm (calm : a.Calm) (league : League) :
    ∃ b, Sync.leagueTurn (services feed) scope .teams league a =
        (.ok (.ofTeams league (answers league)), b) ∧
      Refreshed feed answers a league b := by
  obtain ⟨log, logs, hopen⟩ := openLog_leaves a feed scope .teams (some league)
  obtain ⟨c, hwork, refreshed⟩ := refreshTeams_of_calm (a := a.withLogs logs) gives live
    ⟨calm.healthy, calm.running⟩ league
  let entry := LeagueReport.ofTeams league (answers league)
  obtain ⟨logs', hclose⟩ := closeLog_leaves c feed log (entry.counted .teams) entry.failure
  refine ⟨c.withLogs logs', ?_, ⟨⟨refreshed.calm.healthy, refreshed.calm.running⟩, refreshed.own,
    refreshed.others, refreshed.time⟩⟩
  refine Sync.checkRunning_bind_eq_ok_iff.2 ⟨calm.running, ?_⟩
  have hwork' : Sync.leagueWork (services feed) scope .teams league (a.withLogs logs) =
      (.ok entry, c) := hwork
  rw [Sync.logged, Action.bind_of_ok hopen, Action.bind_of_ok hwork']
  exact Action.bind_of_ok hclose _

/-! ## All leagues -/

/-- **The turns of all leagues**: each has its own, and none touches the rows of another one. -/
theorem teamsTurns_of_calm (calm : a.Calm) {leagues : List League} (distinct : leagues.Nodup) :
    ∃ b, leagues.mapM (Sync.leagueTurn (services feed) scope .teams) a =
        (.ok (leagues.map fun league => .ofTeams league (answers league)), b) ∧
      (∀ league ∈ leagues, ∃ now,
        b.store.rowsOf league = a.store.refreshedRows now league (answers league) ∧
          (feed.KeepsTime → now = a.now)) ∧
      ∀ league, league ∉ leagues → b.store.rowsOf league = a.store.rowsOf league := by
  induction leagues generalizing a with
  | nil => exact ⟨a, rfl, by simp, fun _ _ => rfl⟩
  | cons first rest ih =>
    obtain ⟨fresh, distinct⟩ := List.nodup_cons.1 distinct
    obtain ⟨c, hturn, refreshed⟩ := teamsTurn_of_calm gives live calm first
    obtain ⟨b, hturns, own, others⟩ := ih refreshed.calm distinct
    refine ⟨b, ?_, ?_, ?_⟩
    · rw [List.mapM_cons, Action.bind_of_ok hturn, Action.bind_of_ok hturns]
      rfl
    · intro league hleague
      by_cases hfirst : league = first
      · -- the turns that follow are those of other leagues
        subst hfirst
        obtain ⟨now, hown, time⟩ := refreshed.own
        exact ⟨now, (others league fresh).trans hown, time⟩
      · obtain ⟨now, hown, time⟩ := own league ((List.mem_cons.1 hleague).resolve_left hfirst)
        refine ⟨now, hown.trans (Store.refreshedRows_congr (refreshed.others league hfirst)), ?_⟩
        exact fun keeps => (time keeps).trans (refreshed.time keeps)
    · intro league hleague
      rw [List.mem_cons, not_or] at hleague
      exact (others league hleague.2).trans (refreshed.others league hleague.1)

/-- One run over all leagues, on a store that answers. -/
theorem syncTeams_of_calm (calm : a.Calm) (distinct : scope.leagues.Nodup) :
    let run := Sync.syncTeams (services feed) scope a
    let entries := scope.leagues.map fun league => LeagueReport.ofTeams league (answers league)
    run.1 = .ok { mode := .teams, leagues := entries } ∧
    (∀ league ∈ scope.leagues, ∃ now,
      run.2.store.rowsOf league = a.store.refreshedRows now league (answers league) ∧
        (feed.KeepsTime → now = a.now)) ∧
    ∀ league, league ∉ scope.leagues → run.2.store.rowsOf league = a.store.rowsOf league := by
  intro run entries
  obtain ⟨b, hturns, own, others⟩ := teamsTurns_of_calm gives live calm distinct
  have hrun : run = (.ok { mode := .teams, leagues := entries }, b) := by
    refine (congrFun (Sync.syncMode_eq (show SyncMode.teams ≠ .scores by decide)) a).trans ?_
    exact Action.bind_of_ok hturns _
  rw [hrun]
  exact ⟨rfl, own, others⟩

end Given

/-! ## Two runs -/

variable {feed' : Feed} {answers' : League → Except FeedError (List Team)} {scope' : SyncScope}

/-- **Two runs** agree on a league for which the feed answers alike. -/
theorem rowsOf_syncTeams_congr (calm : a.Calm)
    (gives : feed.GivesTeams answers) (live : scope.dryRun = false)
    (distinct : scope.leagues.Nodup) (member : league ∈ scope.leagues)
    (gives' : feed'.GivesTeams answers') (live' : scope'.dryRun = false)
    (distinct' : scope'.leagues.Nodup) (member' : league ∈ scope'.leagues)
    (alike : answers' league = answers league) :
    let store := (Sync.syncTeams (services feed) scope a).2.store
    let store' := (Sync.syncTeams (services feed') scope' a).2.store
    store'.timeless.rowsOf league = store.timeless.rowsOf league ∧
    (feed.KeepsTime → feed'.KeepsTime → store'.rowsOf league = store.rowsOf league) := by
  obtain ⟨-, own, -⟩ := syncTeams_of_calm gives live calm distinct
  obtain ⟨-, own', -⟩ := syncTeams_of_calm gives' live' calm distinct'
  obtain ⟨now, hrows, time⟩ := own league member
  obtain ⟨now', hrows', time'⟩ := own' league member'
  rw [alike] at hrows'
  constructor
  · rw [Store.rowsOf_timeless, Store.rowsOf_timeless, hrows, hrows']
    exact Store.map_timeless_refreshedRows ..
  · intro keeps keeps'
    rw [hrows, hrows', time keeps, time' keeps']

/-- **Leagues are refreshed apart.** On a store that answers, a run of teams over leagues of which
none is listed twice ends well. Its report has an entry for each league, which says what the feed
answered for this one. The rows of a league are its rows from before with its teams written to them
in turn, and the same as before where its teams were refused or it is not listed. So two runs agree
on a league for which the feed answers alike, whatever it answers for the others; and runs that list
the same leagues in another order leave the same table and report the same entries, in another
order. The clock moves only where a reply of the feed sets it, so the teams of a league are written at
one time; where it moves from league to league, the times of the rows are left out of this. -/
theorem leagues_are_refreshed_apart {world : World} (healthy : world.failing = false)
    (running : world.stopped = false) (distinct : scope.leagues.Nodup)
    (live : scope.dryRun = false) (gives : feed.GivesTeams answers) :
    let run (feed : Feed) (scope : SyncScope) := Sync.syncTeams (services feed) scope world
    let entries := scope.leagues.map fun league => LeagueReport.ofTeams league (answers league)
    let store := (run feed scope).2.store
    (run feed scope).1 = .ok { mode := .teams, leagues := entries } ∧
    (∀ league ∈ scope.leagues, ∃ now,
      store.rowsOf league = world.store.refreshedRows now league (answers league) ∧
        (feed.KeepsTime → now = world.now)) ∧
    (∀ league, league ∉ scope.leagues → store.rowsOf league = world.store.rowsOf league) ∧
    ∀ (feed' : Feed) (answers' : League → Except FeedError (List Team)) (scope' : SyncScope),
      feed'.GivesTeams answers' → scope'.leagues.Nodup → scope'.dryRun = false →
      let store' := (run feed' scope').2.store
      (∀ league ∈ scope.leagues, league ∈ scope'.leagues → answers' league = answers league →
        store'.timeless.rowsOf league = store.timeless.rowsOf league ∧
        (feed.KeepsTime → feed'.KeepsTime → store'.rowsOf league = store.rowsOf league)) ∧
      (scope'.leagues.Perm scope.leagues →
        (∀ league ∈ scope.leagues, answers' league = answers league) →
          store'.timeless.teams.Perm store.timeless.teams ∧
          (feed.KeepsTime → feed'.KeepsTime → store'.teams.Perm store.teams) ∧
          ∃ entries', (run feed' scope').1 = .ok { mode := .teams, leagues := entries' } ∧
            entries'.Perm entries) := by
  intro run entries store
  have calm : world.Calm := ⟨healthy, running⟩
  obtain ⟨hreport, own, others⟩ := syncTeams_of_calm gives live calm distinct
  refine ⟨hreport, own, others, ?_⟩
  intro feed' answers' scope' gives' distinct' live' store'
  obtain ⟨hreport', -, others'⟩ := syncTeams_of_calm gives' live' calm distinct'
  have agree := fun league (member : league ∈ scope.leagues) member' alike =>
    rowsOf_syncTeams_congr calm gives live distinct member gives' live' distinct' member' alike
  refine ⟨agree, fun order alike => ⟨?_, ?_, _, hreport', ?_⟩⟩
  · refine Store.teams_perm_of_rowsOf fun league => ?_
    by_cases member : league ∈ scope.leagues
    · exact (agree league member (order.mem_iff.2 member) (alike league member)).1
    · rw [Store.rowsOf_timeless, Store.rowsOf_timeless, others league member,
        others' league (mt order.mem_iff.1 member)]
  · intro keeps keeps'
    refine Store.teams_perm_of_rowsOf fun league => ?_
    by_cases member : league ∈ scope.leagues
    · exact (agree league member (order.mem_iff.2 member) (alike league member)).2 keeps keeps'
    · exact (others' league (mt order.mem_iff.1 member)).trans (others league member).symm
  · have hentries : entries = scope.leagues.map fun league => .ofTeams league (answers' league) :=
      List.map_congr_left fun league member => by rw [alike league member]
    rw [hentries]
    exact order.map _

/-- Four leagues have a team of the same identifier. One is refused and keeps its team, one is not
listed, and in the others the team is renamed or joins. Listing the leagues the other way round
changes nothing, and neither does what a second feed answers for other leagues. -/
theorem teams_of_one_identifier_stay_apart :
    let named (name : String) : Team := { id := "1", name }
    let answers : League → Except FeedError (List Team)
      | .nfl => .ok [named "Chargers", { id := "2", name := "Jets" }, named "Rams"]
      | .nba => .ok [named "Hawks"]
      | _ => .error .network
    let answers' : League → Except FeedError (List Team)
      | .nfl => answers .nfl
      | .wnba => .ok [named "Wings", named "Sky"]
      | _ => .error (.decode .teams)
    let feedOf (answers : League → Except FeedError (List Team)) : Feed := fun _ q => match q with
      | .teams league => { answer := answers league }
      | _ => { answer := .error .network }
    let world : World :=
      { now := .epoch
        store := ({} : Store).putTeams .epoch
          [.ofFeed .nfl (named "Oilers"), .ofFeed .wnba (named "Dream"),
            .ofFeed .ncaab (named "Bears")] }
    let storeAfter (answers : League → Except FeedError (List Team)) (leagues : List League) :=
      (Sync.syncTeams (services (feedOf answers)) { leagues } world).2.store
    let names (store : Store) (league : League) := (store.rowsOf league).map (·.name)
    let store := storeAfter answers [.nfl, .wnba, .nba]
    League.all.map (names store) = [["Rams", "Jets"], ["Hawks"], ["Dream"], ["Bears"], []] ∧
      store.rowsOf .wnba = world.store.rowsOf .wnba ∧
      store.rowsOf .ncaab = world.store.rowsOf .ncaab ∧
      (storeAfter answers [.nba, .wnba, .nfl]).teams.Perm store.teams ∧
      (storeAfter answers' [.wnba, .nfl]).rowsOf .nfl = store.rowsOf .nfl ∧
      (storeAfter answers' [.wnba, .nfl]).teams ≠ store.teams := by
  intro named answers answers' feedOf world storeAfter names store
  have result : League.all.map (names store) =
      [["Rams", "Jets"], ["Hawks"], ["Dream"], ["Bears"], []] := by decide +kernel
  have differs : (storeAfter answers' [.wnba, .nfl]).teams ≠ store.teams := by decide +kernel
  have never : ∀ league, answers league ≠ .error .cancelled := fun league => by
    cases league <;> exact nofun
  have never' : ∀ league, answers' league ≠ .error .cancelled := fun league => by
    cases league <;> exact nofun
  have gives : (feedOf answers).GivesTeams answers :=
    ⟨fun _ _ => rfl, never, fun _ _ => rfl, fun _ _ => nofun⟩
  have gives' : (feedOf answers').GivesTeams answers' :=
    ⟨fun _ _ => rfl, never', fun _ _ => rfl, fun _ _ => nofun⟩
  have keeps (answers : League → Except FeedError (List Team)) : (feedOf answers).KeepsTime :=
    fun _ _ => rfl
  let scope : SyncScope := ⟨[.nfl, .wnba, .nba], false⟩
  have healthy : world.failing = false := rfl
  have distinct : scope.leagues.Nodup := by decide
  obtain ⟨-, own, others, two⟩ := leagues_are_refreshed_apart healthy rfl distinct rfl gives
  obtain ⟨now, hown, -⟩ := own .wnba (by decide)
  have hkept : world.store.refreshedRows now .wnba (answers .wnba) = world.store.rowsOf .wnba := rfl
  have hreordered := (two (feedOf answers) answers ⟨[.nba, .wnba, .nfl], false⟩ gives (by decide)
    rfl).2 (by decide) (fun _ _ => rfl)
  have hchanged := (two (feedOf answers') answers' ⟨[.wnba, .nfl], false⟩ gives' (by decide) rfl).1
    .nfl (by decide) (by decide) rfl
  refine ⟨result, ?refused, ?unlisted, ?reordered, ?changed, differs⟩
  -- at this transparency the runs are compared as terms, and not evaluated
  all_goals simp only [store, storeAfter]
  case refused => with_reducible exact hown.trans hkept
  case unlisted => with_reducible exact others .ncaab (by decide)
  case reordered => with_reducible exact hreordered.2.1 (keeps answers) (keeps answers)
  case changed => with_reducible exact hchanged.2 (keeps answers) (keeps answers')

end World

end SquarePool
