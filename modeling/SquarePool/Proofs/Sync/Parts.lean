import SquarePool.Proofs.Sync.Outcomes
import SquarePool.Rehearsal.Script

/-!
# The parts of a run

A run is put together from a few kinds of step: it asks the feed, sends requests to the store, looks
at the clock and at whether it was stopped, and it goes on after a failure that is no stop. Main
statement: a relation between the steps of two runs, which may take place in different
surroundings, holds of the whole runs as soon as it holds of the smallest steps and is kept by each
way of putting steps together. A property of the steps of one run is the case of two equal ones.
-/

namespace SquarePool

/-- The requests that a mode sends on its own account; writing is left out on a dry run. -/
def Request.isOfMode (scope : SyncScope) : Request → Bool
  | .teams _ | .needingUpdate => true
  | .putTeam _ | .finalizeStale | .openLog .. | .closeLog .. => !scope.dryRun
  | _ => false

/-- The mode in which a question is asked. Scoreboards are asked for by week when schedules are
loaded and by day for scores. -/
def Question.mode : Question → SyncMode
  | .teams _ => .teams
  | .season _ | .dateRange .. | .schedule .. => .schedule
  | .summary .. => .scores
  | .scoreboard _ query => if query.week.isSome then .schedule else .scores

/-- The request opens or closes a log. -/
def Request.isOfLog : Request → Bool
  | .openLog .. | .closeLog .. => true
  | _ => false

namespace Sync

variable {σ τ α β : Type} {A : Services σ} {B : Services τ} {scope : SyncScope}
  {P : (α : Type) → Step σ α → Step τ α → Prop}

/-- A relation between steps is kept by doing nothing and by doing one thing after another. -/
structure Sequences (P : (α : Type) → Step σ α → Step τ α → Prop) : Prop where
  pure : ∀ {α : Type} (a : α), P α (pure a) (pure a)
  bind : ∀ {α β : Type} {x : Step σ α} {y : Step τ α} {f : α → Step σ β} {g : α → Step τ β},
    P α x y → (∀ a, P β (f a) (g a)) → P β (x >>= f) (y >>= g)

/-- A relation between steps is kept by the ways in which a run puts steps together. -/
structure Composes (A : Services σ) (B : Services τ)
    (P : (α : Type) → Step σ α → Step τ α → Prop) : Prop extends Sequences P where
  fail : ∀ {α : Type} {e : SyncError}, e.isStop = false → P α (Action.fail e) (Action.fail e)
  /-- What follows a failure that a step recovered from may count on it being no stop. -/
  rescue : ∀ {α β : Type} {x : Step σ α} {y : Step τ α} {f : Except SyncError α → Step σ β}
    {g : Except SyncError α → Step τ β}, P α x y → (∀ a, P β (f (.ok a)) (g (.ok a))) →
      (∀ e : SyncError, e.isStop = false → P β (f (.error e)) (g (.error e))) →
        P β (recover x >>= f) (recover y >>= g)
  checkRunning : P Unit (checkRunning A) (checkRunning B)
  today : P Date (Action.look fun s => (A.now s).date) (Action.look fun t => (B.now t).date)

/-- A relation between steps holds of all that two runs do to the store while a log is open. -/
structure Relates (A : Services σ) (B : Services τ) (scope : SyncScope)
    (P : (α : Type) → Step σ α → Step τ α → Prop) : Prop extends Composes A B P where
  store : ∀ r : Request, r.isOfMode scope = true → r.isOfLog = false →
    P r.Answer (store A r) (store B r)
  processGame : ∀ league game,
    P Outcome (processGame A scope league game) (processGame B scope league game)

/-- A relation between steps holds of all that two runs do to the store. -/
structure RelatesLogs (A : Services σ) (B : Services τ) (scope : SyncScope)
    (P : (α : Type) → Step σ α → Step τ α → Prop) : Prop extends Relates A B scope P where
  openLog : ∀ mode league, scope.dryRun = false →
    P SyncLog (Sync.store A (.openLog mode league)) (Sync.store B (.openLog mode league))
  closeLog : ∀ log processed success message, scope.dryRun = false →
    P (Except SyncError SyncLog)
      (Sync.store A (.closeLog log processed success message)).attempt
      (Sync.store B (.closeLog log processed success message)).attempt

/-- A relation between steps holds of all that two runs do with their surroundings. -/
structure RelatesAll (A : Services σ) (B : Services τ) (scope : SyncScope)
    (P : (α : Type) → Step σ α → Step τ α → Prop) : Prop extends RelatesLogs A B scope P where
  ask : ∀ q, P q.Answer (ask A q) (ask B q)
  recentGames : ∀ league, P (List Game) (recentGames A league) (recentGames B league)

/-- What is asked about a league in one mode is asked alike. -/
def AsksAlike (A : Services σ) (B : Services τ) (P : (α : Type) → Step σ α → Step τ α → Prop)
    (mode : SyncMode) (league : League) : Prop :=
  ∀ q : Question, q.mode = mode → q.league = league → P q.Answer (ask A q) (ask B q)

namespace Sequences

variable (h : Sequences P)

include h

theorem mapM_of_mem {f : α → Step σ β} {g : α → Step τ β} {items : List α}
    (hstep : ∀ a ∈ items, P β (f a) (g a)) : P (List β) (items.mapM f) (items.mapM g) := by
  induction items with
  | nil => exact h.pure []
  | cons item rest ih =>
    have hrest := ih fun a ha => hstep a (by simp [ha])
    rw [List.mapM_cons, List.mapM_cons]
    exact h.bind (hstep item (by simp)) fun b => h.bind hrest fun bs => h.pure (b :: bs)

theorem mapM {f : α → Step σ β} {g : α → Step τ β} (hstep : ∀ a, P β (f a) (g a))
    (items : List α) : P (List β) (items.mapM f) (items.mapM g) :=
  h.mapM_of_mem fun a _ => hstep a

end Sequences

namespace Composes

variable (h : Composes A B P)

include h

theorem recover {x : Step σ α} {y : Step τ α} (hxy : P α x y) :
    P (Except SyncError α) (recover x) (recover y) := by
  have hrescue : P (Except SyncError α) (Sync.recover x >>= Pure.pure)
      (Sync.recover y >>= Pure.pure) :=
    h.rescue hxy (fun a => h.pure (Except.ok a)) fun e _ => h.pure (Except.error e)
  rwa [bind_pure, bind_pure] at hrescue

theorem countSucceeding {step : α → Step σ β} {step' : α → Step τ β}
    (hstep : ∀ a, P β (step a) (step' a)) (items : List α) :
    P Nat (countSucceeding A step items) (countSucceeding B step' items) := by
  induction items with
  | nil => exact h.pure 0
  | cons item rest ih =>
    exact h.bind h.checkRunning fun _ => h.bind (h.recover (hstep item)) fun _ =>
      h.bind ih fun _ => h.pure _

theorem gather {fetch : α → Step σ (List β)} {fetch' : α → Step τ (List β)}
    (hfetch : ∀ a, P (List β) (fetch a) (fetch' a)) (items : List α) :
    P (List β) (gather A fetch items) (gather B fetch' items) := by
  induction items with
  | nil => exact h.pure []
  | cons item rest ih =>
    exact h.bind h.checkRunning fun _ => h.bind (h.recover (hfetch item)) fun _ =>
      h.bind ih fun _ => h.pure _

theorem fetchAndProcess {fetch : League → Step σ (List α)} {fetch' : League → Step τ (List α)}
    {process : League → List α → Step σ Nat} {process' : League → List α → Step τ Nat}
    {league : League} (hfetch : P (List α) (fetch league) (fetch' league))
    (hprocess : ∀ items, P Nat (process league items) (process' league items)) :
    P LeagueReport (fetchAndProcess fetch process league)
      (fetchAndProcess fetch' process' league) :=
  h.rescue hfetch (fun items => h.bind (hprocess items) fun _ => h.pure _) fun _ _ => h.pure _

/-! ## A game -/

/-- What is made of a game, from the requests and the announcement that may go into it. -/
theorem processGame
    (hstore : ∀ r : Request, r.isOfLog = false → P r.Answer (store A r) (store B r))
    (hnotify : ∀ gameId,
      P Unit ((A.notify gameId).mapError .store) ((B.notify gameId).mapError .store))
    (scope : SyncScope) (league : League) (game : Game) :
    P Outcome (processGame A scope league game) (processGame B scope league game) := by
  have hgrids : ∀ outdated gameId,
      P Nat (refreshGrids A outdated gameId) (refreshGrids B outdated gameId) := by
    intro outdated gameId
    cases outdated with
    | false => exact h.pure 0
    | true => exact hstore (.refreshGrids gameId) rfl
  have hannounce : ∀ changed gameId,
      P Bool (announce A changed gameId) (announce B changed gameId) := by
    intro changed gameId
    cases changed with
    | false => exact h.pure false
    | true => exact h.bind (h.recover (hnotify gameId)) fun sent => h.pure sent.isOk
  have happly : ∀ old record, P Outcome (applyGame A old record) (applyGame B old record) :=
    fun _ record => h.bind (hstore (.putGame record) rfl) fun _ => h.bind (hannounce _ _) fun _ =>
      h.bind (hgrids _ _) fun _ => h.pure _
  have hkeep : ∀ old record, P Outcome (keepFinal A old record) (keepFinal B old record) := by
    intro old record
    unfold keepFinal
    by_cases hd : old.teamsDiffer record = true
    · rw [if_pos hd, if_pos hd]
      exact h.bind (hstore (.putGame _) rfl) fun _ => h.bind (hstore (.refreshGrids _) rfl) fun _ =>
        h.pure _
    · rw [if_neg hd, if_neg hd]
      exact h.pure _
  unfold Sync.processGame
  by_cases hd : scope.dryRun = true
  · rw [if_pos hd, if_pos hd]
    exact h.pure _
  · rw [if_neg hd, if_neg hd]
    refine h.bind (hstore (.putTeam _) rfl) fun _ => h.bind (hstore (.putTeam _) rfl) fun _ =>
      h.bind (hstore (.gameByExternalId _) rfl) fun old => ?_
    cases old with
    | none => exact happly none _
    | some o =>
      dsimp only
      by_cases ho : o.outranks (.ofFeed league game) = true
      · rw [if_pos ho, if_pos ho]
        exact hkeep o _
      · rw [if_neg ho, if_neg ho]
        exact happly (some o) _

end Composes

/-! ## While a log is open -/

namespace Relates

variable (h : Relates A B scope P)

include h

theorem processTeams (league : League) (teams : List Team) :
    P Nat (processTeams A scope league teams) (processTeams B scope league teams) := by
  refine h.countSucceeding (fun team => ?_) teams
  by_cases hd : scope.dryRun = true
  · rw [if_pos hd, if_pos hd]
    exact h.pure ()
  · rw [if_neg hd, if_neg hd]
    exact h.store (.putTeam _) (by simp [Request.isOfMode, hd]) rfl

theorem processGames (league : League) (games : List Game) :
    P Nat (processGames A scope league games) (processGames B scope league games) :=
  h.countSucceeding (h.processGame league) games

theorem gamesByWeek {league : League} (hask : AsksAlike A B P .schedule league) (season : Int)
    (regular post : Nat) :
    P (List Game) (gamesByWeek A league season regular post)
      (gamesByWeek B league season regular post) :=
  h.gather (fun _ => hask (.scoreboard league _) rfl rfl) _

theorem gamesByTeam {league : League} (hask : AsksAlike A B P .schedule league) :
    P (List Game) (gamesByTeam A league) (gamesByTeam B league) := by
  refine h.bind (h.store (.teams league) rfl rfl) fun teams => ?_
  cases teams with
  | nil => exact h.fail rfl
  | cons team rest =>
    exact h.bind (h.gather (fun _ => hask (.schedule league _) rfl rfl) _) fun _ => h.pure _

theorem gamesByDay {league : League} (hask : AsksAlike A B P .schedule league)
    (season : SeasonWindow) :
    P (List Game) (gamesByDay A league season) (gamesByDay B league season) :=
  h.bind h.today fun _ => hask (.dateRange league _ _) rfl rfl

theorem scheduleOf {league : League} (hask : AsksAlike A B P .schedule league) :
    P (List Game) (scheduleOf A league) (scheduleOf B league) := by
  refine h.bind (hask (.season league) rfl rfl) fun season => ?_
  cases league.scheduleWeeks with
  | some weeks => exact h.gamesByWeek hask _ _ _
  | none =>
    dsimp only
    by_cases hl : league = .ncaab
    · rw [if_pos hl, if_pos hl]
      exact h.gamesByTeam hask
    · rw [if_neg hl, if_neg hl]
      exact h.gamesByDay hask season

theorem refreshTeams {league : League} (hask : AsksAlike A B P .teams league) :
    P LeagueReport (refreshTeams A scope league) (refreshTeams B scope league) :=
  h.fetchAndProcess (hask (.teams league) rfl rfl) (h.processTeams league)

theorem loadSchedule {league : League} (hask : AsksAlike A B P .schedule league) :
    P LeagueReport (loadSchedule A scope league) (loadSchedule B scope league) :=
  h.fetchAndProcess (h.scheduleOf hask) (h.processGames league)

theorem leagueWork {mode : SyncMode} {league : League} (hmode : mode ≠ .scores)
    (hask : AsksAlike A B P mode league) :
    P LeagueReport (leagueWork A scope mode league) (leagueWork B scope mode league) := by
  cases mode with
  | teams => exact h.refreshTeams hask
  | schedule => exact h.loadSchedule hask
  | scores => exact absurd rfl hmode

theorem updateGame {league : League} (hask : AsksAlike A B P .scores league) (live : List Game)
    (tracked : GameRow) :
    P Outcome (updateGame A scope league live tracked)
      (updateGame B scope league live tracked) := by
  unfold Sync.updateGame
  cases live.reverse.find? (·.id == tracked.externalId) with
  | some game => exact h.processGame league game
  | none =>
    exact h.bind (hask (.summary league _) rfl rfl) fun game => h.processGame league game

theorem updateGames {league : League} (hask : AsksAlike A B P .scores league)
    (hrecent : P (List Game) (recentGames A league) (recentGames B league))
    (tracked : List GameRow) :
    P LeagueReport (updateGames A scope league tracked) (updateGames B scope league tracked) :=
  h.bind h.checkRunning fun _ => h.bind hrecent fun live =>
    h.bind (h.countSucceeding (h.updateGame hask live) tracked) fun _ => h.pure _

theorem finalizeStale (live : scope.dryRun = false) :
    P (Except SyncError Nat) (recover (Sync.store A .finalizeStale))
      (recover (Sync.store B .finalizeStale)) :=
  h.recover (h.store .finalizeStale (by simp [Request.isOfMode, live]) rfl)

theorem endAndUpdate (hask : ∀ league, AsksAlike A B P .scores league)
    (hrecent : ∀ league, P (List Game) (recentGames A league) (recentGames B league)) :
    P (Except SyncError SyncReport) (endAndUpdate A scope) (endAndUpdate B scope) := by
  have hupdate : P (Except SyncError SyncReport) (readAndUpdate A scope)
      (readAndUpdate B scope) := by
    refine h.rescue (h.store .needingUpdate rfl rfl) (fun tracked => ?_) fun _ _ => h.pure _
    refine h.bind (h.mapM ?_ _) fun _ => h.pure _
    rintro ⟨league, games⟩
    exact h.updateGames (hask league) (hrecent league) games
  unfold Sync.endAndUpdate
  cases hd : scope.dryRun with
  | true => exact hupdate
  | false => exact h.bind (h.finalizeStale hd) fun _ => hupdate

end Relates

/-! ## The three modes -/

namespace RelatesLogs

variable (h : RelatesLogs A B scope P)

include h

/-- A step that goes on with a log, or without one on a dry run. -/
theorem withLog (mode : SyncMode) (league : Option League) {f : Option SyncLog → Step σ β}
    {g : Option SyncLog → Step τ β}
    (hbody : ∀ log : Option SyncLog, (scope.dryRun = true → log = none) → P β (f log) (g log)) :
    P β (Sync.openLog A scope mode league >>= f) (Sync.openLog B scope mode league >>= g) := by
  unfold Sync.openLog
  by_cases hd : scope.dryRun = true
  · -- no log is opened, and the body learns that there is none
    rw [if_pos hd, if_pos hd, pure_bind, pure_bind]
    exact hbody none fun _ => rfl
  · rw [if_neg hd, if_neg hd]
    have hopen := h.recover (h.openLog mode league (by simpa using hd))
    exact h.bind (h.bind hopen fun _ => h.pure _) fun log => hbody log fun hd' => absurd hd' hd

theorem closing {log : Option SyncLog} (hlog : scope.dryRun = true → log = none) (records : Nat)
    (failure : Option SyncError) :
    P Unit (Sync.closeLog A log records failure) (Sync.closeLog B log records failure) := by
  cases log with
  | none => exact h.pure ()
  | some log =>
    have live : scope.dryRun = false := by
      by_cases hd : scope.dryRun = true
      · exact nomatch hlog hd
      · simpa using hd
    exact h.bind (h.bind (h.closeLog log _ _ _ live) fun _ => h.pure _) fun _ => h.pure ()

theorem logged (mode : SyncMode) (league : Option League) {body : Step σ α} {body' : Step τ α}
    (hbody : P α body body') (records : α → Nat) (failure : α → Option SyncError) :
    P α (logged A scope mode league body records failure)
      (logged B scope mode league body' records failure) :=
  h.withLog mode league fun _ hlog => h.bind hbody fun _ => h.bind (h.closing hlog _ _) fun _ =>
    h.pure _

theorem leagueTurn {mode : SyncMode} {league : League} (hmode : mode ≠ .scores)
    (hask : AsksAlike A B P mode league) :
    P LeagueReport (leagueTurn A scope mode league) (leagueTurn B scope mode league) :=
  h.bind h.checkRunning fun _ => h.logged mode _ (h.leagueWork hmode hask) _ _

theorem updateTracked (hask : ∀ league, AsksAlike A B P .scores league)
    (hrecent : ∀ league, P (List Game) (Sync.recentGames A league) (Sync.recentGames B league))
    {log : Option SyncLog} (hlog : scope.dryRun = true → log = none) :
    P SyncReport (updateTracked A scope log) (updateTracked B scope log) := by
  refine h.rescue (h.store .needingUpdate rfl rfl) (fun tracked => ?_) fun failure hfailure => ?_
  · refine h.bind (h.mapM ?_ _) fun _ => h.bind (h.closing hlog _ _) fun _ => h.pure _
    rintro ⟨league, games⟩
    exact h.updateGames (hask league) (hrecent league) games
  · exact h.bind (h.closing hlog 0 _) fun _ => h.fail hfailure

theorem syncScores (hask : ∀ league, AsksAlike A B P .scores league)
    (hrecent : ∀ league, P (List Game) (Sync.recentGames A league) (Sync.recentGames B league)) :
    P SyncReport (syncScores A scope) (syncScores B scope) := by
  refine h.withLog .scores _ fun log hlog => ?_
  cases hd : scope.dryRun with
  | true => exact h.updateTracked hask hrecent hlog
  | false => exact h.bind (h.finalizeStale hd) fun _ => h.updateTracked hask hrecent hlog

end RelatesLogs

namespace RelatesAll

variable (h : RelatesAll A B scope P)

include h

theorem syncMode (mode : SyncMode) :
    P SyncReport (syncMode A scope mode) (syncMode B scope mode) := by
  have hask : ∀ mode league, AsksAlike A B P mode league := fun _ _ q _ _ => h.ask q
  by_cases hmode : mode = .scores
  · subst hmode
    exact h.syncScores (hask _) h.recentGames
  · rw [syncMode_eq hmode, syncMode_eq hmode]
    exact h.bind (h.mapM (fun _ => h.leagueTurn hmode (hask _ _)) _) fun _ => h.pure _

theorem modeTurn (mode : SyncMode) :
    P SyncReport (modeTurn A scope mode) (modeTurn B scope mode) :=
  h.bind h.checkRunning fun _ => h.syncMode mode

/-- **A whole run** of the one surroundings is related to that of the other. -/
theorem run (modes : List SyncMode) :
    P (List SyncReport) (run A scope modes) (run B scope modes) :=
  h.mapM h.modeTurn _

end RelatesAll

end Sync

end SquarePool
