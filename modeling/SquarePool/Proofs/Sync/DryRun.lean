import Mathlib.Data.List.Dedup
import Mathlib.Data.List.Permutation
import SquarePool.Proofs.Sync.Containment

/-!
# Dry runs

A dry run asks the feed what any run asks and writes nothing. Main statement: it leaves the store as
it was whatever fails, and a league for which something could be fetched is reported with as many
items processed as fetched, which is the number that the feed gave; only that the games of men's
college basketball, which come once with each team, are counted once for each identifier.
-/

namespace SquarePool

/-! ## Games of each identifier -/

namespace Game

theorem mem_ids_unseen {seen : List String} {games : List Game} {id : String} :
    id ∈ (unseen seen games).map Game.id ↔ id ∈ games.map Game.id ∧ id ∉ seen := by
  induction games generalizing seen with
  | nil => simp [unseen]
  | cons game rest ih =>
    by_cases h : game.id ∈ seen
    · rw [unseen, if_pos h, ih, List.map_cons, List.mem_cons]
      constructor
      · exact fun ⟨hrest, hseen⟩ => ⟨.inr hrest, hseen⟩
      · rintro ⟨rfl | hrest, hseen⟩
        · exact absurd h hseen
        · exact ⟨hrest, hseen⟩
    · rw [unseen, if_neg h, List.map_cons, List.mem_cons, ih, List.map_cons, List.mem_cons,
        List.mem_cons]
      by_cases hid : id = game.id
      · subst hid
        simp [h]
      · simp [hid]

theorem nodup_ids_unseen (seen : List String) (games : List Game) :
    ((unseen seen games).map Game.id).Nodup := by
  induction games generalizing seen with
  | nil => simp [unseen]
  | cons game rest ih =>
    by_cases h : game.id ∈ seen
    · rw [unseen, if_pos h]
      exact ih seen
    · rw [unseen, if_neg h, List.map_cons, List.nodup_cons]
      refine ⟨?_, ih _⟩
      rw [mem_ids_unseen]
      simp

/-- There are as many games left as there are identifiers. -/
theorem length_firstOfEachId (games : List Game) :
    (firstOfEachId games).length = (games.map Game.id).dedup.length := by
  have hperm : ((firstOfEachId games).map Game.id).Perm (games.map Game.id).dedup := by
    refine (List.perm_ext_iff_of_nodup (nodup_ids_unseen [] games) (List.nodup_dedup _)).2 ?_
    intro id
    rw [mem_ids_unseen, List.mem_dedup]
    simp
  rw [← hperm.length_eq, List.length_map]

end Game

/-! ## What a feed gives -/

/-- The identifiers of the items in an answer. -/
def Question.idsIn : (q : Question) → q.Answer → List String
  | .teams _, answer => answer.map Team.id
  | .scoreboard .., games | .dateRange .., games | .schedule .., games => games.map Game.id
  | .summary .., game => [game.id]
  | .season _, _ => []

namespace Feed

/-- The identifiers of the items that a feed gives in answer to some questions, asked in turn after
those before them. -/
def given (feed : Feed) (before : List Question) : List Question → List String
  | [] => []
  | q :: rest =>
    (feed before q).answer.toOption.elim [] q.idsIn ++ given feed (before ++ [q]) rest

theorem given_append (feed : Feed) (before qs rest : List Question) :
    feed.given before (qs ++ rest) = feed.given before qs ++ feed.given (before ++ qs) rest := by
  induction qs generalizing before with
  | nil => simp [given]
  | cons q qs ih =>
    rw [List.cons_append, given, given, ih (before ++ [q])]
    simp

/-- How many items a feed gives for a league in a mode. The games of men's college basketball come
with each of their teams and count once. -/
def count (feed : Feed) (mode : SyncMode) (league : League) (before qs : List Question) : Nat :=
  if mode = .schedule ∧ league = .ncaab then (feed.given before qs).dedup.length
  else (feed.given before qs).length

end Feed

namespace World

variable {α β : Type} {feed : Feed} {scope : SyncScope} {mode : SyncMode} {league : League}
  {a b : World}

/-! ## The store -/

/-- The store is the same. -/
def SameStore (a b : World) : Prop := b.store = a.store

instance : IsPreorder World SameStore where
  refl _ := rfl
  trans _ _ _ hab hbc := hbc.trans hab

/-- Nothing that a dry run does with its surroundings changes the store. -/
theorem sameStore_upholds (dry : scope.dryRun = true) :
    Sync.Upholds (services feed) scope SameStore where
  ask _ _ := rfl
  store r hr world := by
    show (request r world).2.store = world.store
    unfold request
    split
    · rfl
    · -- of the requests of a mode, a dry run sends only those that read
      cases r <;> first | rfl | simp [Request.isOfMode, dry] at hr
  processGame league game world := by
    rw [processGame_of_dryRun dry]
    exact rfl

/-! ## Items given -/

theorem given_ask (feed : Feed) (q : Question) (a : World) :
    (Sync.ask (services feed) q a).1.toOption.elim [] q.idsIn = feed.given a.asked [q] := by
  rw [ask_apply, Feed.given, Feed.given, List.append_nil]
  cases (feed a.asked q).answer <;> rfl

/-- A step that fetches games gives those that the feed gave for its questions; where it fails the
feed gave none. -/
def Gives (feed : Feed) (fetch : Sync.Step World (List Game)) : Prop :=
  ∀ a : World, ∃ qs, (fetch a).2.asked = a.asked ++ qs ∧
    (fetch a).1.toOption.elim [] (List.map Game.id) = feed.given a.asked qs

theorem gives_scoreboard (league : League) (query : ScoreboardQuery) :
    Gives feed (Sync.ask (services feed) (.scoreboard league query)) :=
  fun a => ⟨[_], rfl, given_ask feed (.scoreboard league query) a⟩

theorem gives_schedule (league : League) (teamId : String) :
    Gives feed (Sync.ask (services feed) (.schedule league teamId)) :=
  fun a => ⟨[_], rfl, given_ask feed (.schedule league teamId) a⟩

theorem gives_dateRange (league : League) (first last : Date) :
    Gives feed (Sync.ask (services feed) (.dateRange league first last)) :=
  fun a => ⟨[_], rfl, given_ask feed (.dateRange league first last) a⟩

theorem gather_gives {fetch : α → Sync.Step World (List Game)} (h : ∀ item, Gives feed (fetch item))
    {items : List α} {games : List Game}
    (hgather : Sync.gather (services feed) fetch items a = (.ok games, b)) :
    ∃ qs, b.asked = a.asked ++ qs ∧ games.map Game.id = feed.given a.asked qs := by
  induction items generalizing a games with
  | nil =>
    cases hgather
    exact ⟨[], by simp, rfl⟩
  | cons item rest ih =>
    obtain ⟨-, hrest⟩ := Sync.checkRunning_bind_eq_ok_iff.1 hgather
    obtain ⟨found, t, hfound, hrest⟩ := Action.bind_eq_ok_iff.1 hrest
    obtain ⟨others, t', hothers, hend⟩ := Action.bind_eq_ok_iff.1 hrest
    cases hend
    obtain ⟨qs, hasked, hids⟩ := h item a
    obtain ⟨qs', hasked', hids'⟩ := ih hothers
    have hfetched : t.asked = a.asked ++ qs ∧
        (found.toOption.getD []).map Game.id = feed.given a.asked qs := by
      rw [(Sync.recover_eq_ok_iff.1 hfound).1] at hasked hids
      cases found <;> exact ⟨hasked, hids⟩
    refine ⟨qs ++ qs', ?_, ?_⟩
    · rw [hasked', hfetched.1, List.append_assoc]
    · rw [List.map_append, hfetched.2, hids', hfetched.1, feed.given_append]

theorem gamesByWeek_gives {season : Int} {regular post : Nat} {games : List Game}
    (h : Sync.gamesByWeek (services feed) league season regular post a = (.ok games, b)) :
    ∃ qs, b.asked = a.asked ++ qs ∧ games.length = (feed.given a.asked qs).length := by
  obtain ⟨qs, hb, hids⟩ := gather_gives (fun week => gives_scoreboard league _) h
  exact ⟨qs, hb, by rw [← hids, List.length_map]⟩

theorem gamesByTeam_gives {games : List Game}
    (h : Sync.gamesByTeam (services feed) league a = (.ok games, b)) :
    ∃ qs, b.asked = a.asked ++ qs ∧ games.length = (feed.given a.asked qs).dedup.length := by
  obtain ⟨teams, t, hteams, hrest⟩ := Action.bind_eq_ok_iff.1 h
  have hasked : t.asked = a.asked := by
    have h : (Sync.store (services feed) (.teams league) a).2.asked = a.asked :=
      asked_request (.teams league) a
    rwa [hteams] at h
  cases teams with
  | nil => cases hrest
  | cons team rest =>
    obtain ⟨found, t', hfound, hend⟩ := Action.bind_eq_ok_iff.1 hrest
    cases hend
    obtain ⟨qs, hb, hids⟩ := gather_gives
      (fun team : TeamRow => gives_schedule league team.id) hfound
    rw [hasked] at hb hids
    exact ⟨qs, hb, by rw [Game.length_firstOfEachId, hids]⟩

theorem gamesByDay_gives {season : SeasonWindow} {games : List Game}
    (h : Sync.gamesByDay (services feed) league season a = (.ok games, b)) :
    ∃ qs, b.asked = a.asked ++ qs ∧ games.length = (feed.given a.asked qs).length := by
  obtain ⟨first, h⟩ : ∃ first, Sync.ask (services feed)
      (.dateRange league first season.finish.date) a = (.ok games, b) := ⟨_, h⟩
  obtain ⟨qs, hb, hids⟩ := @gives_dateRange feed league first season.finish.date a
  rw [h] at hb hids
  refine ⟨qs, hb, ?_⟩
  rw [← hids]
  exact (List.length_map _).symm

/-- The schedule of a league holds the games that the feed gave for it. -/
theorem scheduleOf_gives {games : List Game}
    (h : Sync.scheduleOf (services feed) league a = (.ok games, b)) :
    ∃ qs, b.asked = a.asked ++ qs ∧ games.length = feed.count .schedule league a.asked qs := by
  obtain ⟨season, t, hseason, hrest⟩ := Action.bind_eq_ok_iff.1 h
  have hasked : t.asked = a.asked ++ [.season league] :=
    (congrArg (World.asked ∘ Prod.snd) hseason).symm
  -- a season is no item, so what is given after it is all that is given
  suffices hgames : ∃ qs, b.asked = t.asked ++ qs ∧
      games.length = feed.count .schedule league t.asked qs by
    obtain ⟨qs, hb, hlength⟩ := hgames
    refine ⟨.season league :: qs, by rw [hb, hasked]; simp, ?_⟩
    have hgiven : feed.given a.asked (.season league :: qs) = feed.given t.asked qs := by
      rw [Feed.given, hasked]
      cases (feed a.asked (.season league)).answer <;> rfl
    rw [hlength, Feed.count, Feed.count, hgiven]
  unfold Feed.count
  cases hweeks : league.scheduleWeeks with
  | some weeks =>
    rw [hweeks] at hrest
    have hl : league ≠ .ncaab := by
      rintro rfl
      exact nomatch hweeks
    simp only [hl, and_false, if_false]
    exact gamesByWeek_gives hrest
  | none =>
    rw [hweeks] at hrest
    dsimp only at hrest
    by_cases hl : league = .ncaab
    · rw [if_pos hl] at hrest
      simp only [hl, and_self, if_true]
      exact gamesByTeam_gives hrest
    · rw [if_neg hl] at hrest
      simp only [hl, and_false, if_false]
      exact gamesByDay_gives hrest

/-! ## Counting without writing -/

/-- Where every step succeeds and changes nothing, all items count. -/
theorem countSucceeding_of_successes {step : α → Sync.Step World β} {items : List α} {n : Nat}
    (h : ∀ item t, ∃ r, step item t = (.ok r, t))
    (hcount : Sync.countSucceeding (services feed) step items a = (.ok n, b)) :
    n = items.length ∧ b = a := by
  induction items generalizing n with
  | nil =>
    cases hcount
    exact ⟨rfl, rfl⟩
  | cons item rest ih =>
    obtain ⟨-, hrest⟩ := Sync.checkRunning_bind_eq_ok_iff.1 hcount
    obtain ⟨r, hr⟩ := h item a
    rw [Action.bind_of_ok (Sync.recover_of_ok hr)] at hrest
    obtain ⟨others, t, hothers, hend⟩ := Action.bind_eq_ok_iff.1 hrest
    cases hend
    obtain ⟨rfl, rfl⟩ := ih hothers
    exact ⟨rfl, rfl⟩

theorem processTeams_of_dryRun (dry : scope.dryRun = true) {teams : List Team} {n : Nat}
    (h : Sync.processTeams (services feed) scope league teams a = (.ok n, b)) :
    n = teams.length ∧ b = a :=
  countSucceeding_of_successes (fun _ _ => ⟨(), by rw [if_pos dry]; rfl⟩) h

theorem processGames_of_dryRun (dry : scope.dryRun = true) {games : List Game} {n : Nat}
    (h : Sync.processGames (services feed) scope league games a = (.ok n, b)) :
    n = games.length ∧ b = a :=
  countSucceeding_of_successes
    (fun game _ => ⟨.skipped, processGame_of_dryRun dry league game⟩) h

/-- What a dry run counts for a league is what the feed gave for it. -/
theorem leagueWork_of_dryRun (dry : scope.dryRun = true) (hmode : mode ≠ .scores)
    {entry : LeagueReport} (success : entry.failure = none)
    (h : Sync.leagueWork (services feed) scope mode league a = (.ok entry, b)) :
    entry.processed = entry.fetched ∧
      ∃ qs, b.asked = a.asked ++ qs ∧ entry.fetched = feed.count mode league a.asked qs := by
  cases mode with
  | teams =>
    change Sync.refreshTeams (services feed) scope league a = _ at h
    rcases Sync.fetchAndProcess_eq_ok_iff.1 h with
      ⟨_, -, -, rfl⟩ | ⟨teams, n, t, hfetch, hprocess, rfl⟩
    · cases success
    · obtain ⟨rfl, rfl⟩ := processTeams_of_dryRun dry hprocess
      have hids := given_ask feed (.teams league) a
      rw [hfetch] at hids
      refine ⟨rfl, _, (congrArg (World.asked ∘ Prod.snd) hfetch).symm, ?_⟩
      rw [Feed.count, if_neg (by simp), ← hids]
      exact (List.length_map _).symm
  | schedule =>
    change Sync.loadSchedule (services feed) scope league a = _ at h
    rcases Sync.fetchAndProcess_eq_ok_iff.1 h with
      ⟨_, -, -, rfl⟩ | ⟨games, n, t, hfetch, hprocess, rfl⟩
    · cases success
    · obtain ⟨rfl, rfl⟩ := processGames_of_dryRun dry hprocess
      exact ⟨rfl, scheduleOf_gives hfetch⟩
  | scores => exact absurd rfl hmode

/-- A league had its turn, from one world to the next, and unless it failed its entry counts the
items that the feed gave for its questions, as fetched and as processed. -/
structure LeagueCounted (feed : Feed) (scope : SyncScope) (mode : SyncMode) (a : World)
    (league : League) (entry : LeagueReport) (b : World) : Prop where
  took : Sync.leagueTurn (services feed) scope mode league a = (.ok entry, b)
  processed : entry.failure = none → entry.processed = entry.fetched
  fetched : entry.failure = none →
    ∃ qs, b.asked = a.asked ++ qs ∧ entry.fetched = feed.count mode league a.asked qs

theorem leagueCounted (dry : scope.dryRun = true) (hmode : mode ≠ .scores) {entry : LeagueReport}
    (h : Sync.leagueTurn (services feed) scope mode league a = (.ok entry, b)) :
    LeagueCounted feed scope mode a league entry b := by
  obtain ⟨-, logs, logs', c, hwork, rfl⟩ := leagueTurn_eq_ok h
  exact
    { took := h
      processed := fun success => (leagueWork_of_dryRun dry hmode success hwork).1
      fetched := fun success => (leagueWork_of_dryRun dry hmode success hwork).2 }

end World

/-- The feed answers every question, and does nothing beside it that hinders a run. -/
structure Feed.Obliges (feed : Feed) : Prop where
  spares : feed.SparesStore
  never : feed.NeverStops
  answers : ∀ before q, ¬ feed.Refuses before q

namespace World

variable {feed : Feed} {scope : SyncScope}

/-- Where every question is answered and a team is stored, nothing that a league needs first is
refused. -/
theorem not_fails (obliges : feed.Obliges) {mode : SyncMode} {league : League} {a : World}
    (teams : mode = .schedule → league = .ncaab → a.store.teamsOf .ncaab ≠ []) :
    ¬ feed.Fails a league mode := by
  cases mode with
  | teams => exact obliges.answers _ _
  | schedule =>
    rintro (h | ⟨-, -, _, -, h⟩ | ⟨rfl, h⟩)
    · exact obliges.answers _ _ h
    · exact obliges.answers _ _ h
    · exact teams rfl rfl h
  | scores => exact id

/-- Where nothing is refused, no league fails. -/
theorem successful_of_dryRun (dry : scope.dryRun = true) (obliges : feed.Obliges)
    {world next : World} (calm : world.Calm) {modes : List SyncMode} {reports : List SyncReport}
    (teams : .schedule ∈ modes → .ncaab ∈ scope.leagues → world.store.teamsOf .ncaab ≠ [])
    (h : Sync.run (services feed) scope modes world = (.ok reports, next)) :
    ∀ report ∈ reports, ∀ entry ∈ report.leagues, entry.failure = none := by
  have hkeeps : Sync.RelatesAll (services feed) (services feed) scope fun _ x _ =>
      x.Keeps SameStore := (sameStore_upholds dry).relatesAll
  let start : World → Prop := fun t => t.Calm ∧ t.store = world.store
  have hmode : ∀ mode t report t', start t →
      Sync.modeTurn (services feed) scope mode t = (.ok report, t') → start t' := by
    rintro mode t report t' ⟨ht, hstore⟩ hturn
    have hsame : SameStore t (Sync.modeTurn (services feed) scope mode t).2 :=
      hkeeps.modeTurn mode t
    rw [hturn] at hsame
    exact ⟨ht.modeTurn obliges.spares obliges.never hturn, hsame.trans hstore⟩
  have hleague : ∀ mode ∈ Sync.modesOf modes, mode ≠ .scores → ∀ league ∈ scope.leagues,
      ∀ t entry t', start t →
        Sync.leagueTurn (services feed) scope mode league t = (.ok entry, t') →
          start t' ∧ entry.failure = none := by
    rintro mode hmem hscores league hscope t entry t' ⟨ht, hstore⟩ hturn
    have hsame : SameStore t (Sync.leagueTurn (services feed) scope mode league t).2 :=
      hkeeps.leagueTurn hscores (fun q _ _ => hkeeps.ask q) t
    rw [hturn] at hsame
    obtain ⟨hcalm, hcontained⟩ :=
      leagueContained obliges.spares obliges.never hscores ht hturn
    refine ⟨⟨hcalm, hsame.trans hstore⟩, ?_⟩
    have hgiven : ¬ feed.Fails t league mode := by
      refine not_fails obliges ?_
      rintro rfl rfl
      have hasked : SyncMode.schedule ∈ modes := by
        simpa [Sync.modesOf] using (List.mem_filter.1 hmem).2
      rw [hstore]
      exact teams hasked hscope
    exact Option.not_isSome_iff_eq_none.1 fun hfailed => hgiven (hcontained.failed.1 hfailed)
  have hchain := chain_of_run_eq_ok (Q := fun _ _ _ entry _ => entry.failure = none) h
    (⟨calm, rfl⟩ : start world) hmode hleague
  refine hchain.forall_mem fun t mode report t' hturn => ?_
  by_cases hscores : mode = .scores
  · exact hturn.covers.scores hscores
  · exact (hturn.leagues hscores).forall_mem fun _ _ _ _ hentry => hentry

/-- **Dry runs write nothing.** Whatever the store holds, the feed answers and the faults are, a dry
run leaves the store as it was. If it ends well, each league that did not fail in the turns of teams
and schedules is reported with as many items processed as fetched, and these are the items that the
feed gave in that turn, where the games of men's college basketball count once for each identifier.
If nothing fails, then it ends well and no league fails. -/
theorem dry_run_writes_nothing (dry : scope.dryRun = true) (world : World) (feed : Feed)
    (modes : List SyncMode) :
    (Sync.run (services feed) scope modes world).2.store = world.store ∧
    (∀ reports next, Sync.run (services feed) scope modes world = (.ok reports, next) →
      Action.Chain (ModeTook feed scope (LeagueCounted feed scope)) world
        (SyncMode.all.filter (modes.contains ·)) reports next) ∧
    (world.failing = false → world.stopped = false → feed.Obliges →
      (.schedule ∈ modes → .ncaab ∈ scope.leagues → world.store.teamsOf .ncaab ≠ []) →
      ∃ reports next, Sync.run (services feed) scope modes world = (.ok reports, next) ∧
        ∀ report ∈ reports, ∀ entry ∈ report.leagues, entry.failure = none) := by
  refine ⟨?store, ?counts, ?success⟩
  case store => exact (sameStore_upholds dry).keeps_run modes world
  case counts =>
    intro reports next h
    exact chain_of_run_eq_ok (I := fun _ => True) h trivial (fun _ _ _ _ _ _ => trivial)
      fun _ _ hmode _ _ _ _ _ _ hturn => ⟨trivial, leagueCounted dry hmode hturn⟩
  case success =>
    intro healthy running obliges teams
    have calm : world.Calm := ⟨healthy, running⟩
    obtain ⟨reports, next, hrun⟩ := calm.run obliges.spares obliges.never scope modes
    refine ⟨reports, next, hrun, fun report hreport => ?_⟩
    exact successful_of_dryRun dry obliges calm teams hrun report hreport

/-- A feed that gives each league two teams, one season and one game, and refuses nothing. -/
def giving (game : Game) : Feed := fun _ q =>
  match q with
  | .teams _ => { answer := .ok [{ id := "1" }, { id := "2" }] }
  | .season _ =>
    { answer := .ok ⟨1970, .epoch, .epoch, "Regular", true⟩ }
  | .summary .. => { answer := .ok game }
  | .scoreboard .. | .dateRange .. | .schedule .. => { answer := .ok [game] }

theorem giving_obliges (game : Game) : (giving game).Obliges where
  spares _ q := by cases q <;> exact nofun
  never _ q := by cases q <;> exact ⟨rfl, nofun⟩
  answers _ q := by
    rintro ⟨e, he⟩
    cases q <;> cases he

/-- A league has two teams and one game, and nothing fails. -/
theorem dry_run_counts_teams_and_games :
    let feed := giving { id := "401", start := .epoch, status := .inProgress }
    let scope : SyncScope := { leagues := [.nba], dryRun := true }
    let world : World := { now := .epoch }
    ∃ reports next,
      Sync.run (services feed) scope [.schedule, .teams] world = (.ok reports, next) ∧
      next.store = world.store ∧
      Action.Chain (ModeTook feed scope (LeagueCounted feed scope)) world [.teams, .schedule]
        reports next ∧
      reports = [
        { mode := .teams, leagues := [{ league := .nba, fetched := 2, processed := 2 }] },
        { mode := .schedule, leagues := [{ league := .nba, fetched := 1, processed := 1 }] }] := by
  intro feed scope world
  obtain ⟨hstore, hcounts, hsuccess⟩ :=
    @dry_run_writes_nothing scope rfl world feed [.schedule, .teams]
  obtain ⟨reports, next, hrun, -⟩ :=
    hsuccess rfl rfl (giving_obliges _) fun _ h => by simp [scope] at h
  have result : (Sync.run (services feed) scope [.schedule, .teams] world).1 = .ok [
      { mode := .teams, leagues := [{ league := .nba, fetched := 2, processed := 2 }] },
      { mode := .schedule, leagues := [{ league := .nba, fetched := 1, processed := 1 }] }] := by
    subst world scope feed
    decide +kernel
  have hchain := hcounts reports next hrun
  rw [hrun] at hstore result
  exact ⟨reports, next, hrun, hstore, hchain, Except.ok.inj result⟩

/-- Nothing fails, and the schedules of both stored teams hold the one game that they play against
each other. The feed gave two items, and one is counted. -/
theorem dry_run_counts_a_shared_game_once :
    let feed := giving { id := "401", start := .epoch }
    let world : World := ({ now := .epoch } : World).after [
      .request (.putTeam (.ofFeed .ncaab { id := "1" })),
      .request (.putTeam (.ofFeed .ncaab { id := "2" }))]
    let asked : List Question := [.season .ncaab, .schedule .ncaab "1", .schedule .ncaab "2"]
    feed.Obliges ∧ world.failing = false ∧ world.stopped = false ∧ world.asked = [] ∧
      Sync.run (services feed) { leagues := [.ncaab], dryRun := true } [.schedule] world =
        (.ok [
          { mode := .schedule, leagues := [{ league := .ncaab, fetched := 1, processed := 1 }] }],
          { world with asked }) ∧
      feed.given [] asked = ["401", "401"] := by
  intro feed world asked
  refine ⟨giving_obliges _, rfl, rfl, rfl, ?ran, rfl⟩
  case ran =>
    subst asked world feed
    cbv

end World

end SquarePool
