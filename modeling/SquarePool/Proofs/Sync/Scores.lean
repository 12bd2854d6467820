import SquarePool.Proofs.Session
import SquarePool.Proofs.Store.Window

/-!
# What a run of scores touches

A run of scores writes over the games that it tracks. Where the scoreboards do not list one, its
summary is asked for, and the game in the answer is written under its own identifier. Main
statement: a run adds no game, removes none and leaves every game alone that is neither stale nor
tracked, except for those that the feed gave as the summary of another game.
-/

namespace SquarePool

/-- Among the questions the summary of some game was asked for, and the answer was another game,
the one with this identifier. -/
def Feed.Misdirects (feed : Feed) (asked : List Question) (externalId : String) : Prop :=
  ∃ (earlier later : List Question) (league : League) (gameId : String) (game : Game),
    asked = earlier ++ .summary league gameId :: later ∧
    (feed earlier (.summary league gameId)).answer = .ok game ∧ game.id = externalId ∧
    gameId ≠ externalId

theorem Feed.Misdirects.mono {feed : Feed} {asked asked' : List Question} {externalId : String}
    (h : feed.Misdirects asked externalId) (pre : asked <+: asked') :
    feed.Misdirects asked' externalId := by
  obtain ⟨more, rfl⟩ := pre
  obtain ⟨earlier, later, league, gameId, game, rfl, answered⟩ := h
  exact ⟨earlier, later ++ more, league, gameId, game, by simp, answered⟩

/-- A game that was reconciled has a row. -/
theorem Store.isSome_reconcile {store : Store} {now : Instant} {mute : Bool} {league : League}
    {game : Game} : ((store.reconcile now mute league game).2.gameByExternalId? game.id).isSome := by
  rcases outranks_or_not store league game with ⟨old, hold, kept⟩ | applied
  · rw [row_of_outranks hold kept]
    rfl
  · rw [row_of_not_outranks applied]
    rfl

namespace World

variable {feed : Feed} {scope : SyncScope} {touched : String → Prop}

/-- From one world to the next no game is lost, and a game whose row changes is in the set
`touched`, or the feed gave it as the summary of another one. -/
structure Confined (feed : Feed) (touched : String → Prop) (a b : World) : Prop where
  asked : a.asked <+: b.asked
  valid : a.store.Valid → b.store.Valid
  present : a.store.Valid → ∀ externalId, (a.store.gameByExternalId? externalId).isSome →
    (b.store.gameByExternalId? externalId).isSome
  same : a.store.Valid → ∀ externalId, ¬ touched externalId →
    ¬ feed.Misdirects b.asked externalId →
    b.store.gameByExternalId? externalId = a.store.gameByExternalId? externalId

instance : IsPreorder World (Confined feed touched) where
  refl a := ⟨List.prefix_refl _, id, fun _ _ => id, fun _ _ _ _ => rfl⟩
  trans a b c hab hbc :=
    { asked := hab.asked.trans hbc.asked
      valid := hbc.valid ∘ hab.valid
      present := fun valid externalId h =>
        hbc.present (hab.valid valid) externalId (hab.present valid externalId h)
      same := fun valid externalId untouched directed => by
        have directed' : ¬ feed.Misdirects b.asked externalId :=
          fun h => directed (h.mono hbc.asked)
        rw [hbc.same (hab.valid valid) externalId untouched directed,
          hab.same valid externalId untouched directed'] }

/-- A step after which the same games are there. -/
theorem Confined.of_games {a b : World} (asked : a.asked <+: b.asked)
    (valid : a.store.Valid → b.store.Valid) (games : b.store.games = a.store.games) :
    Confined feed touched a b where
  asked := asked
  valid := valid
  present _ externalId h := by rwa [Store.gameByExternalId?_of_games games]
  same _ externalId _ _ := Store.gameByExternalId?_of_games games externalId

theorem confined_ask (q : Question) : (ask feed q).Keeps (Confined feed touched) :=
  fun world => .of_games (List.prefix_append world.asked [q]) id rfl

/-- A request that touches no game. -/
theorem confined_request {r : Request}
    (h : ∀ (store : Store) (now : Instant), (store.perform now r).2.games = store.games) :
    (request r).Keeps (Confined feed touched) := by
  intro world
  unfold request
  split
  · exact refl_of _ _
  · exact .of_games (List.prefix_refl _) (fun valid => valid.perform world.now r) (h _ _)

theorem confined_store {r : Request}
    (h : ∀ (store : Store) (now : Instant), (store.perform now r).2.games = store.games) :
    (Sync.store (services feed) r).Keeps (Confined feed touched) :=
  (confined_request h).mapError SyncError.store

/-- A game that is in the set anyway, or was misdirected before, need not be named. -/
theorem Confined.narrow {a b : World} {externalId : String}
    (h : Confined feed (fun x => touched x ∨ x = externalId) a b)
    (known : touched externalId ∨ feed.Misdirects a.asked externalId) :
    Confined feed touched a b where
  asked := h.asked
  valid := h.valid
  present := h.present
  same valid other untouched directed := by
    refine h.same valid other ?_ directed
    rintro (touches | rfl)
    · exact untouched touches
    · exact known.elim untouched fun misdirected => directed (misdirected.mono h.asked)

/-- Processing a game touches its own row and no other. -/
theorem confined_processGame (league : League) (game : Game) :
    (Sync.processGame (services feed) scope league game).Keeps
      (Confined feed fun x => touched x ∨ x = game.id) := by
  intro world
  rcases processGame_leaves world feed scope league game with hsame | hnext
  · rw [hsame]
    exact refl_of _ _
  · rw [hnext]
    exact
      { asked := List.prefix_refl _
        valid := fun valid => valid.reconcile world.now world.mute league game
        present := fun valid externalId h => by
          by_cases hid : game.id = externalId
          · subst hid
            exact Store.isSome_reconcile
          · show ((Store.reconcile _ _ _ _ _).2.gameByExternalId? externalId).isSome
            rwa [valid.row_of_ne hid]
        same := fun valid externalId untouched _ => by
          have hid : game.id ≠ externalId := fun h => untouched (.inr h.symm)
          exact valid.row_of_ne hid }

/-! ## Tracked games -/

theorem ask_eq_ok {q : Question} {a : q.Answer} {world next : World}
    (h : Sync.ask (services feed) q world = (.ok a, next)) :
    (feed world.asked q).answer = .ok a ∧ next.asked = world.asked ++ [q] := by
  obtain ⟨hanswer, rfl⟩ := Prod.mk.inj h
  refine ⟨?_, rfl⟩
  change (feed world.asked q).answer.mapError SyncError.feed = .ok a at hanswer
  cases hreply : (feed world.asked q).answer with
  | error cause =>
    rw [hreply] at hanswer
    exact nomatch hanswer
  | ok b =>
    rw [hreply] at hanswer
    exact congrArg Except.ok (Except.ok.inj hanswer)

/-- A tracked game is updated under its own identifier, or under the one that its summary has. -/
theorem confined_updateGame {tracked : GameRow} (h : touched tracked.externalId)
    (league : League) (live : List Game) :
    (Sync.updateGame (services feed) scope league live tracked).Keeps (Confined feed touched) := by
  unfold Sync.updateGame
  split
  · rename_i game hfind
    have hid : game.id = tracked.externalId := by simpa using List.find?_some hfind
    exact fun world => (confined_processGame league game world).narrow (.inl (hid ▸ h))
  · intro world
    have hask : Confined feed touched world
        (Sync.ask (services feed) (.summary league tracked.externalId) world).2 :=
      confined_ask _ world
    refine Action.related_bind hask fun game next hnext => ?_
    obtain ⟨answered, hasked⟩ := ask_eq_ok hnext
    refine (confined_processGame league game next).narrow ?_
    by_cases hid : tracked.externalId = game.id
    · exact .inl (hid ▸ h)
    · exact .inr ⟨world.asked, [], league, tracked.externalId, game, hasked, answered, rfl, hid⟩

theorem confined_updateGames (league : League) {tracked : List GameRow}
    (h : ∀ row ∈ tracked, touched row.externalId) :
    (Sync.updateGames (services feed) scope league tracked).Keeps (Confined feed touched) :=
  .bind Sync.keeps_checkRunning fun _ =>
    .bind (Sync.keeps_recentGames_of confined_ask league) fun live =>
      .bind (Sync.keeps_countSucceeding_of_mem fun row hrow =>
        confined_updateGame (h row hrow) league live) fun _ => .pure _

theorem confined_closeLog (log : Option SyncLog) (records : Nat) (failure : Option SyncError) :
    (Sync.closeLog (services feed) log records failure).Keeps (Confined feed touched) :=
  Sync.keeps_closeLog_of (fun _ _ _ _ => confined_request fun _ _ => rfl) log records failure

/-- The games of a league are among those that are tracked, and the league is in scope. -/
theorem mem_of_mem_byLeague {rows own : List GameRow} {league : League}
    (h : (league, own) ∈ Sync.byLeague scope rows) {row : GameRow} (hrow : row ∈ own) :
    row ∈ rows ∧ row.league ∈ scope.leagues := by
  obtain ⟨league', hleague, hown⟩ := List.mem_filterMap.1 h
  have hscope := (List.mem_filter.1 hleague).2
  split at hown
  · exact nomatch hown
  · obtain ⟨rfl, rfl⟩ := Prod.mk.inj (Option.some.inj hown)
    obtain ⟨hmem, hof⟩ := List.mem_filter.1 hrow
    refine ⟨hmem, ?_⟩
    rw [eq_of_beq hof]
    simpa using hscope

/-- The set `touched` holds every game that is stale, and every game in scope that may have a new
score. -/
def Covers (touched : String → Prop) (scope : SyncScope) (world : World) : Prop :=
  ∀ row ∈ world.store.games,
    row.isStale world.now = true ∨ row.needsUpdate world.now = true ∧ row.league ∈ scope.leagues →
      touched row.externalId

/-- What the store gives as needing an update does so. -/
theorem needsUpdate_of_mem {world next : World} {tracked : List GameRow}
    (h : Sync.recover (Sync.store (services feed) .needingUpdate) world =
      (.ok (.ok tracked), next)) {row : GameRow} (hrow : row ∈ tracked) :
    row ∈ world.store.games ∧ row.needsUpdate world.now = true := by
  cases hfailing : world.failing with
  | true =>
    have hfail : Sync.store (services feed) .needingUpdate world = (.error (.store _), world) :=
      Action.mapError_of_error (request_of_failing hfailing .needingUpdate) SyncError.store
    rw [Sync.recover_of_failure hfail rfl] at h
    exact nomatch h
  | false =>
    have hread : Sync.store (services feed) .needingUpdate world =
        (.ok (world.store.gamesWhere (·.needsUpdate world.now)), world) :=
      does_store hfailing .needingUpdate world.store
    have htracked := (Sync.recover_of_ok hread).symm.trans h
    obtain rfl := Except.ok.inj (Except.ok.inj (congrArg Prod.fst htracked))
    exact Store.mem_gamesWhere.1 hrow

/-- From the tracked games on. -/
theorem confined_updateTracked {world : World} (covers : Covers touched scope world)
    (log : Option SyncLog) :
    Confined feed touched world (Sync.updateTracked (services feed) scope log world).2 := by
  have hread : Confined feed touched world
      (Sync.recover (Sync.store (services feed) .needingUpdate) world).2 :=
    Sync.keeps_recover (confined_store fun _ _ => rfl) world
  refine Action.related_bind hread fun found next hfound => ?_
  cases found with
  | error failure =>
    have hrest : (Sync.closeLog (services feed) log 0 (some failure) >>= fun _ =>
        Action.fail failure : Sync.Step World SyncReport).Keeps (Confined feed touched) :=
      .bind (confined_closeLog log 0 _) fun _ => .fail _
    exact hrest next
  | ok tracked =>
    have hleagues : ∀ own ∈ Sync.byLeague scope tracked,
        (Sync.updateGames (services feed) scope own.1 own.2).Keeps (Confined feed touched) := by
      rintro ⟨league, own⟩ hown
      refine confined_updateGames league fun row hrow => ?_
      obtain ⟨hmem, hscope⟩ := mem_of_mem_byLeague hown hrow
      obtain ⟨hstored, hneeds⟩ := needsUpdate_of_mem hfound hmem
      exact covers row hstored (.inr ⟨hneeds, hscope⟩)
    have hrest : ((Sync.byLeague scope tracked).mapM (fun own =>
        Sync.updateGames (services feed) scope own.1 own.2) >>= fun leagues =>
          Sync.closeLog (services feed) log (LeagueReport.total leagues) none >>= fun _ =>
            pure { mode := .scores, leagues } : Sync.Step World SyncReport).Keeps
              (Confined feed touched) :=
      .bind (.mapM_of_mem hleagues) fun _ => .bind (confined_closeLog log _ none) fun _ => .pure _
    exact hrest next

/-! ## Before the tracked games -/

/-- The games that are covered stay so, and others do not change. -/
def Prepares (feed : Feed) (touched : String → Prop) (scope : SyncScope) (a b : World) : Prop :=
  Covers touched scope a → Confined feed touched a b ∧ Covers touched scope b

instance : IsPreorder World (Prepares feed touched scope) where
  refl a covers := ⟨refl_of _ a, covers⟩
  trans a b c hab hbc covers := by
    obtain ⟨hconfined, hcovers⟩ := hab covers
    obtain ⟨hconfined', hcovers'⟩ := hbc hcovers
    exact ⟨trans_of _ hconfined hconfined', hcovers'⟩

theorem prepares_openLog (mode : SyncMode) (league : Option League) :
    (Sync.openLog (services feed) scope mode league).Keeps (Prepares feed touched scope) := by
  have hrequest : (request (.openLog mode league)).Keeps (Prepares feed touched scope) := by
    intro world covers
    refine ⟨confined_request (fun _ _ => rfl) world, ?_⟩
    unfold request
    split <;> exact covers
  have hstore : (Sync.store (services feed) (.openLog mode league)).Keeps
      (Prepares feed touched scope) :=
    hrequest.mapError SyncError.store
  unfold Sync.openLog
  by_cases hd : scope.dryRun = true
  · rw [if_pos hd]
    exact .pure none
  · rw [if_neg hd]
    exact .bind (Sync.keeps_recover hstore) fun _ => .pure _

theorem prepares_finalizeStale :
    (Sync.store (services feed) .finalizeStale).Keeps (Prepares feed touched scope) := by
  have hrequest : (request .finalizeStale).Keeps (Prepares feed touched scope) := by
    intro world covers
    unfold request
    split
    · exact ⟨refl_of _ _, covers⟩
    · refine ⟨⟨?asked, ?valid, ?present, ?same⟩, ?covers⟩
      case asked => exact List.prefix_refl _
      case valid => exact fun valid => valid.finalizeStale world.now
      case present =>
        intro _ externalId h
        show ((world.store.finalizeStale world.now).2.gameByExternalId? externalId).isSome
        rw [Store.gameByExternalId?_finalizeStale, Option.isSome_map]
        exact h
      case same =>
        intro _ externalId untouched _
        show (world.store.finalizeStale world.now).2.gameByExternalId? externalId = _
        rw [Store.gameByExternalId?_finalizeStale]
        cases hrow : world.store.gameByExternalId? externalId with
        | none => rfl
        | some row =>
          have fresh : ¬ row.isStale world.now = true := fun stale =>
            untouched (Store.externalId_of_gameByExternalId? hrow ▸
              covers row (Table.mem_of_find? hrow) (.inl stale))
          rw [Option.map_some, if_neg fresh]
      case covers =>
        intro row hrow hneeds
        obtain ⟨old, hold, rfl⟩ := List.mem_map.1 hrow
        by_cases stale : old.isStale world.now = true
        · -- what was just ended is neither stale nor in need of a score
          rw [if_pos stale, old.isStale_ended, old.needsUpdate_ended] at hneeds
          simp at hneeds
        · rw [if_neg stale] at hneeds ⊢
          exact covers old hold hneeds
  exact hrequest.mapError SyncError.store

/-- What is confined after a preparation is confined from before it. -/
theorem confined_bind {α β : Type} {x : Sync.Step World α} {f : α → Sync.Step World β}
    (hx : x.Keeps (Prepares feed touched scope))
    (hf : ∀ a next, Covers touched scope next → Confined feed touched next (f a next).2)
    {world : World} (covers : Covers touched scope world) :
    Confined feed touched world ((x >>= f) world).2 := by
  obtain ⟨hconfined, hcovers⟩ := hx world covers
  refine Action.related_bind hconfined fun a next hnext => hf a next ?_
  rwa [hnext] at hcovers

/-- **A run of scores** changes games that are covered, and those that the feed misdirects. -/
theorem confined_syncScores {world : World} (covers : Covers touched scope world) :
    Confined feed touched world (Sync.syncScores (services feed) scope world).2 := by
  unfold Sync.syncScores
  refine confined_bind (prepares_openLog _ _) (fun log opened hopened => ?_) covers
  by_cases hd : scope.dryRun = true
  · rw [if_pos hd]
    exact confined_updateTracked hopened log
  · rw [if_neg hd]
    exact confined_bind (Sync.keeps_recover prepares_finalizeStale)
      (fun _ ended hended => confined_updateTracked hended log) hopened

/-- **Scores touch what they track.** However the feed answers and however the run ends, the games
in the store are those that were there before, and each that was neither stale nor about to have a
new score in a league of the run has the row that it had; except for games that the feed gave as the
summary of another game. The clock moves only where a reply of the feed sets it. -/
theorem scores_touch_tracked_games {world : World} (reachable : world.store.Reachable)
    (scope : SyncScope) (feed : Feed) (stopped : Bool) :
    let next := (Sync.syncScores (services feed) scope (world.beforeRun stopped)).2
    (∀ externalId ∈ world.store.games.map (·.externalId),
      externalId ∈ next.store.games.map (·.externalId)) ∧
    (∀ externalId ∈ next.store.games.map (·.externalId),
      externalId ∈ world.store.games.map (·.externalId) ∨
        feed.Misdirects next.asked externalId) ∧
    ∀ row ∈ world.store.games, row.isStale world.now = false →
      ¬ (row.needsUpdate world.now = true ∧ row.league ∈ scope.leagues) →
      ¬ feed.Misdirects next.asked row.externalId →
      next.store.gameByExternalId? row.externalId = some row := by
  intro next
  have valid : (world.beforeRun stopped).store.Valid := reachable.valid
  let touched : String → Prop := fun externalId => ∃ row ∈ world.store.games,
    row.externalId = externalId ∧ (row.isStale world.now = true ∨
      row.needsUpdate world.now = true ∧ row.league ∈ scope.leagues)
  have covers : Covers touched scope (world.beforeRun stopped) := by
    intro row hrow hneeds
    exact ⟨row, hrow, rfl, hneeds⟩
  have confined : Confined feed touched (world.beforeRun stopped) next :=
    confined_syncScores covers
  refine ⟨?kept, ?added, ?same⟩
  case kept =>
    intro externalId h
    exact Table.isSome_find?_iff.1 (confined.present valid externalId (Table.isSome_find?_iff.2 h))
  case added =>
    intro externalId h
    by_cases hold : externalId ∈ world.store.games.map (·.externalId)
    · exact .inl hold
    · -- a game that was not there is in no set of stored games
      refine .inr (Classical.byContradiction fun directed => hold ?_)
      have untouched : ¬ touched externalId := by
        rintro ⟨row, hrow, rfl, -⟩
        exact hold (List.mem_map_of_mem hrow)
      have hsome : (next.store.gameByExternalId? externalId).isSome := Table.isSome_find?_iff.2 h
      rw [confined.same valid externalId untouched directed] at hsome
      exact Table.isSome_find?_iff.1 hsome
  case same =>
    intro row hrow fresh untracked directed
    have hfind : world.store.gameByExternalId? row.externalId = some row :=
      Table.find?_of_mem reachable.valid.externalIds hrow
    refine (confined.same valid row.externalId ?_ directed).trans hfind
    rintro ⟨other, hother, hid, hneeds⟩
    obtain rfl : other = row :=
      Table.eq_of_mem_of_key reachable.valid.externalIds hother hrow hid
    rcases hneeds with stale | tracked
    · simp [fresh] at stale
    · exact untracked tracked

/-- The feed gives each summary that it is asked for. Of two games the one that is played is updated,
and the one that is planned for next week is left alone. -/
theorem scores_leave_a_planned_game :
    let played : Game := { id := "401", start := .epoch, status := .inProgress }
    let planned : Game := { id := "402", start := Instant.epoch.addSeconds 604800 }
    let feed : Feed := fun _ q => match q with
      | .scoreboard .. => { answer := .ok [] }
      | .summary _ gameId => { answer := .ok { id := gameId, start := .epoch, status := .final } }
      | _ => { answer := .error .network }
    let scope : SyncScope := { leagues := [.nfl] }
    let session : List Operation :=
      [.process feed scope .nfl played, .process feed scope .nfl planned]
    let world : World := ({ now := .epoch } : World).after session
    let row : GameRow :=
      { GameRecord.ofFeed .nfl planned with
        id := 2, created := .epoch, modified := .epoch, synced := .epoch }
    let next := (Sync.syncScores (services feed) scope (world.beforeRun false)).2
    (∀ externalId, externalId ∈ next.store.games.map (·.externalId) ↔
      externalId ∈ world.store.games.map (·.externalId)) ∧
    next.store.gameByExternalId? "402" = some row := by
  intro played planned feed scope session world row
  have directed : ∀ asked externalId, ¬ feed.Misdirects asked externalId := by
    rintro asked _ ⟨_, _, _, gameId, game, _, answered, rfl, ne⟩
    obtain rfl := Except.ok.inj answered
    exact ne rfl
  obtain ⟨stored, fresh, untracked⟩ : row ∈ world.store.games ∧ row.isStale world.now = false ∧
      ¬ (row.needsUpdate world.now = true ∧ row.league ∈ scope.leagues) := by
    subst row world session scope planned played
    decide +kernel
  obtain ⟨kept, added, same⟩ :=
    @scores_touch_tracked_games world ⟨.epoch, session, rfl⟩ scope feed false
  refine ⟨?games, same row stored fresh untracked (directed _ _)⟩
  intro externalId
  constructor
  · intro h
    exact (added externalId h).resolve_right (directed _ _)
  · exact kept externalId

/-- The feed gives the summary of another game. That game is added to the store. -/
theorem scores_add_a_misdirected_game :
    let played : Game := { id := "401", start := .epoch, status := .inProgress }
    let feed : Feed := fun _ q => match q with
      | .scoreboard .. => { answer := .ok [] }
      | .summary .. => { answer := .ok { id := "999", start := .epoch, status := .inProgress } }
      | _ => { answer := .error .network }
    let scope : SyncScope := { leagues := [.nfl] }
    let world : World := ({ now := .epoch } : World).after [.process feed scope .nfl played]
    let next := (Sync.syncScores (services feed) scope (world.beforeRun false)).2
    world.store.games.map (·.externalId) = ["401"] ∧
      next.store.games.map (·.externalId) = ["401", "999"] := by
  refine ⟨?before, ?after⟩
  case before => rfl
  case after => decide +kernel

end World

end SquarePool
