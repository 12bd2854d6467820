import SquarePool.Proofs.Store.Listings
import SquarePool.Proofs.Sync.Answers

/-!
# Where scores come from

A game that may have a new score is looked for on the scoreboards of today and of yesterday, and
where neither lists it its summary is asked for. Main statement: from a calm world on, a run of
scores goes through the leagues that have such games and through the games of each from the earliest
on. For each league it asks for two scoreboards, and then for the summaries of exactly those games
that are on neither. A game is reconciled from its last copy of today, or else of yesterday, or else
from its summary, and every game counts but those whose summary is refused.
-/

namespace SquarePool

/-! ## Copies of a game -/

namespace Game

/-- The last copy of a game on a scoreboard. -/
def lastCopy? (id : String) (board : List Game) : Option Game :=
  (board.filter (·.id == id)).getLast?

/-- The copy of a game that counts: the last one of today, or else of yesterday. -/
def latestCopy? (id : String) (today yesterday : List Game) : Option Game :=
  (lastCopy? id today).or (lastCopy? id yesterday)

theorem find?_reverse (id : String) (board : List Game) :
    board.reverse.find? (·.id == id) = lastCopy? id board := by
  rw [lastCopy?, ← List.head?_filter, ← List.head?_reverse, List.filter_reverse]

/-- Searched from its end, a list of both scoreboards gives the copy that counts. -/
theorem find?_reverse_append (id : String) (today yesterday : List Game) :
    (yesterday ++ today).reverse.find? (·.id == id) = latestCopy? id today yesterday := by
  rw [List.reverse_append, List.find?_append, find?_reverse, find?_reverse, latestCopy?]

theorem latestCopy?_eq_none_iff {id : String} {today yesterday : List Game} :
    latestCopy? id today yesterday = none ↔ id ∉ (today ++ yesterday).map Game.id := by
  simp [latestCopy?, lastCopy?, not_or]

end Game

/-! ## What is gone through -/

/-- What a run of scores goes through: each league in scope that has games in need of an update, in
the usual order of leagues, with those games from the earliest on. -/
structure SyncScope.Agenda (scope : SyncScope) (needing : List GameRow)
    (agenda : List (League × List GameRow)) : Prop where
  leagues : agenda.map Prod.fst =
    League.all.filter fun league =>
      decide (league ∈ scope.leagues ∧ ∃ row ∈ needing, row.league = league)
  games : ∀ own ∈ agenda, own.2.Perm (needing.filter (·.league == own.1)) ∧
    own.2.Pairwise fun a b => a.start < b.start ∨ a.start = b.start ∧ a.id ≤ b.id

theorem GameRow.comesBefore_iff_start {a b : GameRow} :
    a.comesBefore b = true ↔ a.start < b.start ∨ a.start = b.start ∧ a.id ≤ b.id := by
  simp [comesBefore]

namespace Sync

theorem leagues_byLeague (scope : SyncScope) (rows : List GameRow) :
    (byLeague scope rows).map Prod.fst =
      League.all.filter fun league =>
        decide (league ∈ scope.leagues ∧ ∃ row ∈ rows, row.league = league) := by
  -- a league that has no such games drops out, so the leagues alone are a filter
  have hguard : (byLeague scope rows).map Prod.fst =
      (League.all.filter (scope.leagues.contains ·)).filterMap
        (Option.guard fun league => decide (∃ row ∈ rows, row.league = league)) := by
    rw [byLeague, List.map_filterMap]
    refine List.filterMap_congr fun league _ => ?_
    have hnone : rows.filter (·.league == league) = [] ↔ ¬ ∃ row ∈ rows, row.league = league := by
      simp [List.filter_eq_nil_iff]
    cases hown : rows.filter (·.league == league) with
    | nil => simp [Option.guard, hnone.1 hown]
    | cons row rest =>
      have hsome : ∃ row ∈ rows, row.league = league := by
        rw [← not_not (a := ∃ row ∈ rows, row.league = league), ← hnone, hown]
        exact nofun
      simp [Option.guard, hsome]
  rw [hguard, List.filterMap_eq_filter, List.filter_filter]
  refine List.filter_congr fun league _ => ?_
  simp [Bool.and_comm]

theorem eq_filter_of_mem_byLeague {scope : SyncScope} {rows own : List GameRow} {league : League}
    (h : (league, own) ∈ byLeague scope rows) : own = rows.filter (·.league == league) := by
  obtain ⟨league', -, hown⟩ := List.mem_filterMap.1 h
  split at hown
  · exact nomatch hown
  · obtain ⟨rfl, rfl⟩ := Prod.mk.inj (Option.some.inj hown)
    rfl

theorem agenda_byLeague (scope : SyncScope) (store : Store) (fits : GameRow → Bool) :
    scope.Agenda (store.games.filter fits) (byLeague scope (store.gamesWhere fits)) where
  leagues := by
    rw [leagues_byLeague]
    refine List.filter_congr fun league _ => decide_eq_decide.2 ?_
    simp only [Store.mem_gamesWhere, List.mem_filter]
  games := by
    rintro ⟨league, own⟩ hown
    have sorted : (store.gamesWhere fits).Pairwise fun a b => a.comesBefore b = true :=
      List.pairwise_mergeSort GameRow.comesBefore_trans GameRow.comesBefore_total _
    rw [eq_filter_of_mem_byLeague hown]
    exact ⟨(store.gamesWhere_perm fits).filter _,
      (sorted.imp GameRow.comesBefore_iff_start.1).filter _⟩

/-! ## Steps that are counted -/

variable {σ α β : Type} {services : Services σ} {step : α → Step σ β} {items : List α} {s u : σ}

/-- Steps that are counted are taken in turn, and those that succeed count. -/
theorem exists_chain_of_countSucceeding {n : Nat}
    (h : countSucceeding services step items s = (.ok n, u)) :
    ∃ results : List (Option β),
      Action.Chain (fun t item value t' => ∃ result, step item t = (result, t') ∧
        SyncError.ends result = false ∧ value = result.toOption) s items results u ∧
      n + results.countP Option.isNone = items.length := by
  induction items generalizing s n with
  | nil =>
    cases h
    exact ⟨[], .nil _, rfl⟩
  | cons item rest ih =>
    obtain ⟨-, h⟩ := checkRunning_bind_eq_ok_iff.1 h
    obtain ⟨result, t, hitem, h⟩ := Action.bind_eq_ok_iff.1 h
    obtain ⟨others, t', hrest, h⟩ := Action.bind_eq_ok_iff.1 h
    obtain ⟨hstep, hends⟩ := recover_eq_ok_iff.1 hitem
    cases h
    obtain ⟨results, hchain, hcount⟩ := ih hrest
    refine ⟨result.toOption :: results, .cons ⟨result, hstep, hends, rfl⟩ hchain, ?_⟩
    rw [List.countP_cons, List.length_cons, ← hcount]
    cases result with
    | error e =>
      show others + 0 + (results.countP Option.isNone + 1) = _
      omega
    | ok value =>
      show others + 1 + (results.countP Option.isNone + 0) = _
      omega

end Sync

namespace World

variable {feed : Feed} {scope : SyncScope} {league : League} {today yesterday : List Game}
  {a b : World}

/-- A tracked game was brought up to date, from one world to the next: from a scoreboard, or else
from its summary; or its summary was refused. The result is what came of it. -/
inductive Updated (feed : Feed) (scope : SyncScope) (league : League)
    (today yesterday : List Game) : World → GameRow → Option Outcome → World → Prop where
  | fromBoard {a b : World} {row : GameRow} {game : Game} {outcome : Outcome}
    (copy : Game.latestCopy? row.externalId today yesterday = some game)
    (processed : Sync.processGame (services feed) scope league game a = (.ok outcome, b)) :
    Updated feed scope league today yesterday a row (some outcome) b
  | fromSummary {a b : World} {row : GameRow} {game : Game} {outcome : Outcome}
    (unlisted : row.externalId ∉ (today ++ yesterday).map Game.id)
    (summary : (feed a.asked (.summary league row.externalId)).answer = .ok game)
    (processed : Sync.processGame (services feed) scope league game
      (a.asking feed [.summary league row.externalId]) = (.ok outcome, b)) :
    Updated feed scope league today yesterday a row (some outcome) b
  | refused {a : World} {row : GameRow}
    (unlisted : row.externalId ∉ (today ++ yesterday).map Game.id)
    (refuses : feed.Refuses a.asked (.summary league row.externalId)) :
    Updated feed scope league today yesterday a row none
      (a.asking feed [.summary league row.externalId])

end World

/-- The summaries that are asked for: of the games that are on neither scoreboard. -/
def Question.summaries (league : League) (boards : List Game) (tracked : List GameRow) :
    List Question :=
  (tracked.filter fun row => decide (row.externalId ∉ boards.map Game.id)).map fun row =>
    .summary league row.externalId

theorem Question.summaries_cons (league : League) (boards : List Game) (row : GameRow)
    (rest : List GameRow) :
    summaries league boards (row :: rest) =
      summaries league boards [row] ++ summaries league boards rest := by
  rw [summaries, summaries, summaries, ← List.map_append, ← List.filter_append,
    List.singleton_append]

theorem Question.summaries_of_listed {league : League} {boards : List Game} {row : GameRow}
    (h : row.externalId ∈ boards.map Game.id) : summaries league boards [row] = [] := by
  simp only [summaries, List.filter_singleton, h, not_true, decide_false, cond_false, List.map_nil]

theorem Question.summaries_of_unlisted {league : League} {boards : List Game} {row : GameRow}
    (h : row.externalId ∉ boards.map Game.id) :
    summaries league boards [row] = [.summary league row.externalId] := by
  simp only [summaries, List.filter_singleton, h, not_false_eq_true, decide_true, cond_true,
    List.map_singleton]

namespace World

variable {feed : Feed} {scope : SyncScope} {a b : World}

/-- The scores of a league were refreshed, from one world to the next. The scoreboards of today and
of the day before were asked for, of which one that is refused lists nothing; then the games were
brought up to date in turn, and each of them counts unless its summary was refused. -/
structure Scored (feed : Feed) (scope : SyncScope) (a : World) (own : League × List GameRow)
    (entry : LeagueReport) (b : World) : Prop where
  updated :
    let first := Question.scoreboard own.1 (.forDate a.now.date)
    let second := Question.scoreboard own.1 (.forDate (a.now.date.addDays (-1)))
    let today := feed.games a.asked [first]
    let yesterday := feed.games (a.asked ++ [first]) [second]
    ∃ results,
      Action.Chain (Updated feed scope own.1 today yesterday) (a.asking feed [first, second]) own.2
        results b ∧
      b.asked = a.asked ++ first :: second ::
        Question.summaries own.1 (today ++ yesterday) own.2 ∧
      entry.processed + results.countP Option.isNone = entry.fetched
  about : entry.league = own.1
  fetched : entry.fetched = own.2.length
  succeeds : entry.failure = none

theorem asked_processGame (league : League) (game : Game) :
    (Sync.processGame (services feed) scope league game a).2.asked = a.asked := by
  rcases processGame_leaves a feed scope league game with h | h
  all_goals rw [h]
  rfl

variable {league : League} {today yesterday : List Game} {tracked : List GameRow}
  {results : List (Option Outcome)}

theorem Updated.asked {row : GameRow} {value : Option Outcome}
    (h : Updated feed scope league today yesterday a row value b) :
    b.asked = a.asked ++ Question.summaries league (today ++ yesterday) [row] := by
  cases h with
  | fromBoard copy processed =>
    have listed : row.externalId ∈ (today ++ yesterday).map Game.id := by
      by_contra unlisted
      exact nomatch copy.symm.trans (Game.latestCopy?_eq_none_iff.2 unlisted)
    have hasked := congrArg (fun r => r.2.asked) processed
    rw [Question.summaries_of_listed listed, List.append_nil, ← hasked]
    exact asked_processGame league _
  | fromSummary unlisted summary processed =>
    have hasked := congrArg (fun r => r.2.asked) processed
    rw [Question.summaries_of_unlisted unlisted, ← hasked]
    exact asked_processGame league _
  | refused unlisted refuses =>
    rw [Question.summaries_of_unlisted unlisted]
    rfl

/-- **A summary is asked for** exactly where neither scoreboard lists the game. -/
theorem asked_of_updated
    (h : Action.Chain (Updated feed scope league today yesterday) a tracked results b) :
    b.asked = a.asked ++ Question.summaries league (today ++ yesterday) tracked := by
  induction h with
  | nil => exact (List.append_nil _).symm
  | @cons s t u row value rows values hrow _ ih =>
    rw [ih, hrow.asked, Question.summaries_cons league _ row rows, List.append_assoc]

/-- On a store that answers, every game that is processed counts. -/
theorem processGame_of_calm (calm : a.Calm) (league : League) (game : Game) :
    ∃ outcome b, Sync.processGame (services feed) scope league game a = (.ok outcome, b) ∧
      b.Calm := by
  cases dry : scope.dryRun with
  | true => exact ⟨_, _, processGame_of_dryRun dry league game, calm⟩
  | false =>
    exact ⟨_, _, processGame_of_healthy calm.healthy dry league game, calm.healthy, calm.running⟩

/-- On a store that answers, the games in need of an update are gone through by their leagues. -/
theorem readAndUpdate_apply (healthy : a.failing = false) (scope : SyncScope) :
    Sync.readAndUpdate (services feed) scope a =
      (do
        let leagues ← (Sync.byLeague scope (a.store.gamesWhere (·.needsUpdate a.now))).mapM
          fun (league, games) => Sync.updateGames (services feed) scope league games
        pure (.ok { mode := .scores, leagues }) :
        Sync.Step World (Except SyncError SyncReport)) a := by
  have hread : Sync.recover (Sync.store (services feed) .needingUpdate) a =
      (.ok (.ok (a.store.gamesWhere (·.needsUpdate a.now))), a) :=
    Sync.recover_of_ok (does_store healthy .needingUpdate a.store)
  rw [Sync.readAndUpdate, Action.bind_of_ok hread]

section Quiet

variable (spares : feed.SparesStore) (never : feed.NeverStops) (calm : a.Calm)

include spares never calm

theorem recentGames_of_calm (league : League) :
    let first := Question.scoreboard league (.forDate a.now.date)
    let second := Question.scoreboard league (.forDate (a.now.date.addDays (-1)))
    Sync.recentGames (services feed) league a =
      (.ok (feed.games (a.asked ++ [first]) [second] ++ feed.games a.asked [first]),
        a.asking feed [first, second]) := by
  intro first second
  have hnew : Sync.ask (services feed) first a = _ :=
    @fetches_scoreboard feed league (.forDate a.now.date) a
  have hold : Sync.ask (services feed) second (a.asking feed [first]) = _ :=
    @fetches_scoreboard feed league (.forDate (a.now.date.addDays (-1))) (a.asking feed [first])
  have happly : Sync.recentGames (services feed) league a =
      (Sync.joinBoards (Sync.ask (services feed) second (Sync.ask (services feed) first a).2).1
        (Sync.ask (services feed) first a).1,
        (Sync.ask (services feed) second (Sync.ask (services feed) first a).2).2) :=
    Sync.recentGames_apply league a
  -- neither answer is a stop, so one that is refused is read as an empty scoreboard
  have hends := (staysCalm_recentGames spares never league a calm).2
  rw [happly, Sync.ends_joinBoards] at hends
  rw [happly, Sync.joinBoards, hends, if_neg (by simp), hnew]
  dsimp only
  rw [hold, feed.games_singleton, asked_asking, feed.games_singleton]
  rfl

theorem updated_of_updateGame {row : GameRow} {result : Except SyncError Outcome}
    (h : Sync.updateGame (services feed) scope league (yesterday ++ today) row a = (result, b)) :
    b.Calm ∧ Updated feed scope league today yesterday a row result.toOption b := by
  rw [Sync.updateGame, Game.find?_reverse_append] at h
  cases copy : Game.latestCopy? row.externalId today yesterday with
  | some game =>
    obtain ⟨outcome, b', hgame, calm'⟩ := @processGame_of_calm feed scope a calm league game
    rw [copy] at h
    cases hgame.symm.trans h
    exact ⟨calm', .fromBoard copy hgame⟩
  | none =>
    have unlisted := Game.latestCopy?_eq_none_iff.1 copy
    have calm' := calm.asking spares never [.summary league row.externalId]
    rw [copy] at h
    cases summary : (feed a.asked (.summary league row.externalId)).answer with
    | error e =>
      cases (Action.bind_of_error (ask_of_error summary) _).symm.trans h
      exact ⟨calm', .refused unlisted ⟨e, summary⟩⟩
    | ok game =>
      obtain ⟨outcome, b', hgame, calm''⟩ := @processGame_of_calm feed scope _ calm' league game
      cases hgame.symm.trans ((Action.bind_of_ok (ask_of_ok summary) _).symm.trans h)
      exact ⟨calm'', .fromSummary unlisted summary hgame⟩

theorem scored_of_updateGames {own : League × List GameRow} {entry : LeagueReport}
    (h : Sync.updateGames (services feed) scope own.1 own.2 a = (.ok entry, b)) :
    b.Calm ∧ Scored feed scope a own entry b := by
  obtain ⟨-, h⟩ := Sync.checkRunning_bind_eq_ok_iff.1 h
  obtain ⟨live, t, hlive, h⟩ := Action.bind_eq_ok_iff.1 h
  cases (recentGames_of_calm spares never calm own.1).symm.trans hlive
  obtain ⟨n, t', hcount, h⟩ := Action.bind_eq_ok_iff.1 h
  cases h
  obtain ⟨results, hchain, htotal⟩ := Sync.exists_chain_of_countSucceeding hcount
  obtain ⟨calmNext, hupdated⟩ := hchain.imp_of (calm.asking spares never _)
    fun _ _ _ _ calm' ⟨result, hstep, _, hvalue⟩ =>
      hvalue ▸ updated_of_updateGame spares never calm' hstep
  refine ⟨calmNext, ⟨results, hupdated, ?_, htotal⟩, rfl, rfl, rfl⟩
  rw [asked_of_updated hupdated, asked_asking, List.append_assoc]
  rfl

/-- What is read is gone through. -/
theorem scored_of_readAndUpdate {result : Except SyncError SyncReport}
    (h : Sync.readAndUpdate (services feed) scope a = (.ok result, b)) :
    ∃ agenda leagues, result = .ok { mode := .scores, leagues } ∧
      scope.Agenda (a.store.games.filter (·.needsUpdate a.now)) agenda ∧
      Action.Chain (Scored feed scope) a agenda leagues b := by
  rw [readAndUpdate_apply calm.healthy] at h
  obtain ⟨leagues, t, hleagues, h⟩ := Action.bind_eq_ok_iff.1 h
  cases h
  refine ⟨_, leagues, rfl, Sync.agenda_byLeague scope a.store _, ?_⟩
  exact ((Action.mapM_eq_ok_iff.1 hleagues).imp_of calm fun _ _ _ _ calm' hown =>
    scored_of_updateGames spares never calm' hown).2

theorem syncScores_of_calm (scope : SyncScope) :
    ∃ report next, Sync.syncScores (services feed) scope a = (.ok report, next) := by
  have hends := ((@staysCalm_relatesAll feed scope spares never).syncMode .scores a calm).2
  rcases hrun : Sync.syncMode (services feed) scope .scores a with ⟨e | report, next⟩
  · have hturn : Sync.modeTurn (services feed) scope .scores a = (.error e, next) :=
      Sync.checkRunning_bind_eq_error_iff.2 (.inr ⟨calm.running, hrun⟩)
    have hstop := isStop_of_modeTurn_eq_error calm.healthy hturn
    rw [hrun] at hends
    exact absurd (hstop.symm.trans hends) (by decide)
  · exact ⟨report, next, hrun⟩

end Quiet

/-- The world once its stale games were ended, which is left out on a dry run. -/
def ending (world : World) (scope : SyncScope) : World :=
  world.holding
    (if scope.dryRun then world.store else (world.store.finalizeStale world.now).2)

theorem ending_withLogs (logs : List SyncLog) :
    (a.withLogs logs).ending scope = (a.ending scope).withLogs logs := by
  unfold ending
  cases scope.dryRun <;> rfl

/-- Once the stale games are ended, the others are read and gone through. -/
theorem endAndUpdate_apply (healthy : a.failing = false) (scope : SyncScope) :
    Sync.endAndUpdate (services feed) scope a =
      Sync.readAndUpdate (services feed) scope (a.ending scope) := by
  unfold Sync.endAndUpdate ending
  cases scope.dryRun with
  | true => rfl
  | false =>
    have hstale : Sync.recover (Sync.store (services feed) .finalizeStale) a =
        (.ok (.ok (a.store.finalizeStale a.now).1), a.holding (a.store.finalizeStale a.now).2) :=
      Sync.recover_of_ok (does_store healthy .finalizeStale a.store)
    exact Action.bind_of_ok hstale _

/-- On a store that answers, a run of scores opens its log, ends the stale games, goes through those
in need of an update by their leagues, and closes the log. -/
theorem syncScores_apply {world : World} (healthy : world.failing = false)
    (live : scope.dryRun = false) :
    Sync.syncScores (services feed) scope world =
      (do
        let leagues ← (Sync.byLeague scope
          ((world.ending scope).store.gamesWhere (·.needsUpdate world.now))).mapM
            fun (league, games) => Sync.updateGames (services feed) scope league games
        Sync.closeLog (services feed) (world.newLog .scores (Sync.only scope))
          (LeagueReport.total leagues) none
        pure { mode := .scores, leagues } : Sync.Step World SyncReport)
      ((world.ending scope).withLogs
        (world.store.logs ++ [world.newLog .scores (Sync.only scope)])) := by
  have hopen : Sync.openLog (services feed) scope .scores (Sync.only scope) world = _ :=
    openLog_of_healthy healthy live .scores (Sync.only scope)
  have hwork (logs : List SyncLog) :
      Sync.endAndUpdate (services feed) scope (world.withLogs logs) = _ :=
    (endAndUpdate_apply (a := world.withLogs logs) healthy scope).trans
      (readAndUpdate_apply (a := (world.withLogs logs).ending scope) healthy scope)
  rw [Sync.syncScores_eq, Sync.logged, bind_assoc, Action.bind_of_ok hopen, bind_assoc,
    Action.bind_apply, hwork, ending_withLogs, ← Action.bind_apply, bind_assoc]
  rfl

/-- **Scores come from where they are listed.** On a store that answers and with nothing that stops
the run, a run of scores ends the stale games and goes through the leagues in scope that have games
in need of an update after that, in the usual order, and through those games from the earliest on;
for other leagues nothing is asked. Each league has an entry, for which two scoreboards are asked
for and then a summary for each game on neither. Every game counts but those whose summary is
refused. The clock moves only where a reply of the feed sets it, so which games are stale and which
need an update is asked at one time. -/
theorem scores_come_from_where_they_are_listed {world : World} (healthy : world.failing = false)
    (running : world.stopped = false) (spares : feed.SparesStore) (never : feed.NeverStops)
    (scope : SyncScope) :
    ∃ agenda leagues logs logs' last,
      Sync.syncScores (services feed) scope world =
        (.ok { mode := .scores, leagues }, last.withLogs logs') ∧
      scope.Agenda ((world.ending scope).store.games.filter (·.needsUpdate world.now)) agenda ∧
      Action.Chain (Scored feed scope) ((world.ending scope).withLogs logs) agenda leagues
        last := by
  have calm : world.Calm := ⟨healthy, running⟩
  obtain ⟨report, next, hrun⟩ := syncScores_of_calm spares never calm scope
  have hturn := hrun
  rw [Sync.syncScores_eq] at hturn
  obtain ⟨result, t, hlogged, hresult⟩ := Action.bind_eq_ok_iff.1 hturn
  cases hresult
  -- between the opening and the closing of its log, the run is what it would be without one
  obtain ⟨logs, logs', last, hwork, rfl⟩ := logged_eq_ok hlogged
  rw [endAndUpdate_apply (a := world.withLogs logs) healthy, ending_withLogs] at hwork
  have calm' : ((world.ending scope).withLogs logs).Calm := ⟨healthy, running⟩
  obtain ⟨agenda, leagues, hreport, hagenda, hchain⟩ :=
    scored_of_readAndUpdate spares never calm' hwork
  cases hreport
  exact ⟨agenda, leagues, logs, logs', last, hrun, hagenda, hchain⟩

/-- Of two games that are being played one is on both scoreboards, twice on that of today, which is
asked for first; the other one is on neither, and its summary is refused. -/
theorem last_copy_of_today_counts :
    let game : Game := { id := "401", start := .epoch, status := .inProgress }
    let feed : Feed := fun before q => {
      answer := match q with
        | .scoreboard .. =>
          .ok (if before.isEmpty then [{ game with period := 1 }, { game with period := 2 }]
            else [{ game with period := 4 }])
        | _ => .error .network }
    let scope : SyncScope := { leagues := [.nba, .nfl] }
    let world : World := ({ now := .epoch } : World).after [.process feed scope .nfl game,
      .process feed scope .nfl { game with id := "402" }]
    ∃ agenda leagues logs logs' last,
      Sync.syncScores (services feed) scope world =
        (.ok { mode := .scores, leagues }, last.withLogs logs') ∧
      scope.Agenda ((world.ending scope).store.games.filter (·.needsUpdate world.now)) agenda ∧
      Action.Chain (Scored feed scope) ((world.ending scope).withLogs logs) agenda leagues last ∧
      leagues = [{ league := .nfl, fetched := 2, processed := 1 }] ∧
      last.asked.drop 2 = [.summary .nfl "402"] ∧
      last.store.games.map (fun row => (row.externalId, row.progress.period)) =
        [("401", some 2), ("402", some 0)] := by
  intro game feed scope world
  have spares : feed.SparesStore := fun _ _ => nofun
  have never : feed.NeverStops := by
    intro before q
    cases q <;> exact ⟨rfl, nofun⟩
  obtain ⟨healthy, running⟩ : world.failing = false ∧ world.stopped = false := by
    subst world scope feed game
    decide +kernel
  obtain ⟨agenda, leagues, logs, logs', last, hrun, hagenda, hchain⟩ :=
    @scores_come_from_where_they_are_listed feed world healthy running spares never scope
  have result : let r := Sync.syncScores (services feed) scope world
      r.1 = .ok { mode := .scores, leagues := [{ league := .nfl, fetched := 2, processed := 1 }] } ∧
        r.2.asked.drop 2 = [.summary .nfl "402"] ∧
        r.2.store.games.map (fun row => (row.externalId, row.progress.period)) =
          [("401", some 2), ("402", some 0)] := by
    -- the rows stand in listing order already
    have listed : (world.ending scope).store.gamesWhere (·.needsUpdate world.now) =
        (world.ending scope).store.games.filter (·.needsUpdate world.now) := by
      refine List.mergeSort_of_pairwise ?_
      subst world scope feed game
      decide +kernel
    rw [syncScores_apply healthy rfl, listed]
    subst world scope feed game
    decide +kernel
  rw [hrun] at result
  exact ⟨agenda, leagues, logs, logs', last, hrun, hagenda, hchain,
    congrArg SyncReport.leagues (Except.ok.inj result.1), result.2⟩

end World

end SquarePool
