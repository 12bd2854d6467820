import Mathlib.Data.List.Forall2
import SquarePool.Sync.Mode

/-!
# How a step ends

A step of a run ends with a value or a failure, and either way in some state. Main statements: what
a sequence or a list of steps ends with is what its parts end with in turn, and apart from the
questions to the feed and the requests to the store every part of a run fails only when it is
stopped. The turn of a league and a run of scores are both brought into one form, in which a log is
opened, something is done, and the log is closed.
-/

namespace SquarePool

namespace Action

variable {σ ε α β : Type} {s u : σ}

theorem bind_eq_ok_iff {x : Action σ ε α} {f : α → Action σ ε β} {b : β} :
    (x >>= f) s = (.ok b, u) ↔ ∃ a t, x s = (.ok a, t) ∧ f a t = (.ok b, u) := by
  rw [bind_apply]
  rcases hx : x s with ⟨e | a, t⟩
  · simp
  · constructor
    · intro h
      exact ⟨a, t, rfl, h⟩
    · rintro ⟨a', t', h, hf⟩
      cases h
      exact hf

theorem bind_eq_error_iff {x : Action σ ε α} {f : α → Action σ ε β} {e : ε} :
    (x >>= f) s = (.error e, u) ↔
      x s = (.error e, u) ∨ ∃ a t, x s = (.ok a, t) ∧ f a t = (.error e, u) := by
  rw [bind_apply]
  rcases hx : x s with ⟨e' | a, t⟩
  · simp
  · constructor
    · intro h
      exact .inr ⟨a, t, rfl, h⟩
    · rintro (h | ⟨a', t', h, hf⟩)
      · cases h
      · cases h
        exact hf

/-- Items are taken in turn, each from the state in which the one before it ended. -/
inductive Chain (R : σ → α → β → σ → Prop) : σ → List α → List β → σ → Prop where
  | nil (s : σ) : Chain R s [] [] s
  | cons {s t u : σ} {a : α} {b : β} {as : List α} {bs : List β} :
    R s a b t → Chain R t as bs u → Chain R s (a :: as) (b :: bs) u

/-- A list of steps succeeds if each of them does, from where the one before it ended. -/
theorem mapM_eq_ok_iff {f : α → Action σ ε β} {items : List α} {bs : List β} :
    items.mapM f s = (.ok bs, u) ↔
      Chain (fun t a b t' => f a t = (.ok b, t')) s items bs u := by
  induction items generalizing s bs with
  | nil =>
    rw [List.mapM_nil, pure_apply]
    constructor
    · intro h
      cases h
      exact .nil _
    · intro h
      cases h
      rfl
  | cons item rest ih =>
    rw [List.mapM_cons, bind_eq_ok_iff]
    constructor
    · rintro ⟨b, t, hb, h⟩
      obtain ⟨bs', t', hbs, h⟩ := bind_eq_ok_iff.1 h
      cases h
      exact .cons hb (ih.1 hbs)
    · intro h
      cases h with
      | cons hb hbs =>
        exact ⟨_, _, hb, bind_eq_ok_iff.2 ⟨_, _, ih.2 hbs, rfl⟩⟩

/-- A list of steps fails where one of them does, after those before it succeeded. -/
theorem exists_of_mapM_eq_error {f : α → Action σ ε β} {items : List α} {e : ε}
    (h : items.mapM f s = (.error e, u)) :
    ∃ (done : List α) (item : α) (rest : List α) (bs : List β) (t : σ),
      items = done ++ item :: rest ∧
        Chain (fun t a b t' => f a t = (.ok b, t')) s done bs t ∧ f item t = (.error e, u) := by
  induction items generalizing s with
  | nil => cases h
  | cons item rest ih =>
    rw [List.mapM_cons] at h
    rcases bind_eq_error_iff.1 h with h | ⟨b, t, hb, h⟩
    · exact ⟨[], item, rest, [], s, rfl, .nil s, h⟩
    · rcases bind_eq_error_iff.1 h with h | ⟨bs, t', -, h⟩
      · obtain ⟨done, item', rest', bs, t', rfl, hdone, h⟩ := ih h
        exact ⟨item :: done, item', rest', b :: bs, t', rfl, .cons hb hdone, h⟩
      · cases h

namespace Chain

variable {R R' : σ → α → β → σ → Prop} {as : List α} {bs : List β}

/-- A state that has a property keeps it, and each turn starts where it holds. -/
theorem imp_of_mem {I : σ → Prop} (h : Chain R s as bs u) (hs : I s)
    (step : ∀ t a b t', a ∈ as → I t → R t a b t' → I t' ∧ R' t a b t') :
    I u ∧ Chain R' s as bs u := by
  induction h with
  | nil s => exact ⟨hs, .nil s⟩
  | cons hab _ ih =>
    obtain ⟨ht, hab'⟩ := step _ _ _ _ (by simp) hs hab
    obtain ⟨hu, hrest⟩ := ih ht fun t a b t' ha => step t a b t' (by simp [ha])
    exact ⟨hu, .cons hab' hrest⟩

theorem imp_of {I : σ → Prop} (h : Chain R s as bs u) (hs : I s)
    (step : ∀ t a b t', I t → R t a b t' → I t' ∧ R' t a b t') : I u ∧ Chain R' s as bs u :=
  h.imp_of_mem hs fun t a b t' _ => step t a b t'

theorem forall_mem {Q : β → Prop} (h : Chain R s as bs u) (step : ∀ t a b t', R t a b t' → Q b) :
    ∀ b ∈ bs, Q b := by
  induction h with
  | nil => simp
  | cons hab _ ih =>
    intro b hb
    rcases List.mem_cons.1 hb with rfl | hb
    · exact step _ _ _ _ hab
    · exact ih b hb

/-- What each result has in a column is what its item says. -/
theorem map_eq {column : β → α} (h : Chain R s as bs u)
    (step : ∀ t a b t', R t a b t' → column b = a) : bs.map column = as := by
  induction h with
  | nil => rfl
  | cons hab _ ih => rw [List.map_cons, ih, step _ _ _ _ hab]

/-- What holds of each turn alone holds of the items and their results in order. -/
theorem forall₂ {Q : α → β → Prop} (h : Chain R s as bs u) (step : ∀ t a b t', R t a b t' → Q a b) :
    List.Forall₂ Q as bs := by
  induction h with
  | nil => exact .nil
  | cons hab _ ih => exact .cons (step _ _ _ _ hab) ih

end Chain

end Action

/-- The failure in a result. -/
def SyncError.of? {α : Type} : Except SyncError α → Option SyncError
  | .ok _ => none
  | .error e => some e

/-- The result is a failure that stands for being stopped. -/
def SyncError.ends {α : Type} (result : Except SyncError α) : Bool :=
  (SyncError.of? result).any SyncError.isStop

namespace Sync

variable {σ α β : Type} {services : Services σ} {scope : SyncScope}

/-! ## Failures -/

/-- A step that recovers hands a value through, ends with a stop, or gives a failure that is no
stop as a value. -/
theorem recover_cases (x : Step σ α) (s : σ) :
    (∃ a t, x s = (.ok a, t) ∧ recover x s = (.ok (.ok a), t)) ∨
      (∃ e t, x s = (.error e, t) ∧ e.isStop = true ∧ recover x s = (.error .stopped, t)) ∨
        ∃ e t, x s = (.error e, t) ∧ e.isStop = false ∧ recover x s = (.ok (.error e), t) := by
  rcases hx : x s with ⟨e | a, t⟩
  · cases he : e.isStop with
    | true => exact .inr (.inl ⟨e, t, rfl, he, recover_of_stop hx he⟩)
    | false => exact .inr (.inr ⟨e, t, rfl, he, recover_of_failure hx he⟩)
  · exact .inl ⟨a, t, rfl, recover_of_ok hx⟩

/-- What a step gave is looked at after it recovered unless that is a stop. -/
theorem recover_eq_ok_iff {x : Step σ α} {s t : σ} {result : Except SyncError α} :
    recover x s = (.ok result, t) ↔ x s = (result, t) ∧ SyncError.ends result = false := by
  constructor
  · intro h
    rcases recover_cases x s with ⟨a, _, hx, hr⟩ | ⟨_, _, -, -, hr⟩ | ⟨e, _, hx, he, hr⟩
    all_goals rw [hr] at h; cases h
    · exact ⟨hx, rfl⟩
    · exact ⟨hx, he⟩
  · rintro ⟨hx, hends⟩
    cases result with
    | ok a => exact recover_of_ok hx
    | error e => exact recover_of_failure hx hends

theorem checkRunning_eq_ok_iff {s t : σ} :
    checkRunning services s = (.ok (), t) ↔ services.isStopped s = false ∧ t = s := by
  unfold checkRunning
  cases services.isStopped s <;> simp [eq_comm]

theorem checkRunning_eq_error_iff {s t : σ} {e : SyncError} :
    checkRunning services s = (.error e, t) ↔
      services.isStopped s = true ∧ e = .stopped ∧ t = s := by
  unfold checkRunning
  cases services.isStopped s <;> simp [eq_comm]

/-- What follows the look at whether the run was stopped takes place unless it was. -/
theorem checkRunning_bind_eq_ok_iff {x : Step σ α} {a : α} {s u : σ} :
    (checkRunning services >>= fun _ => x) s = (.ok a, u) ↔
      services.isStopped s = false ∧ x s = (.ok a, u) := by
  rw [Action.bind_eq_ok_iff]
  constructor
  · rintro ⟨_, _, hrunning, h⟩
    obtain ⟨running, rfl⟩ := checkRunning_eq_ok_iff.1 hrunning
    exact ⟨running, h⟩
  · rintro ⟨running, h⟩
    exact ⟨(), s, checkRunning_eq_ok_iff.2 ⟨running, rfl⟩, h⟩

theorem checkRunning_bind_eq_error_iff {x : Step σ α} {e : SyncError} {s u : σ} :
    (checkRunning services >>= fun _ => x) s = (.error e, u) ↔
      services.isStopped s = true ∧ e = .stopped ∧ u = s ∨
        services.isStopped s = false ∧ x s = (.error e, u) := by
  rw [Action.bind_eq_error_iff, checkRunning_eq_error_iff]
  refine or_congr_right ⟨?_, ?_⟩
  · rintro ⟨_, _, hrunning, h⟩
    obtain ⟨running, rfl⟩ := checkRunning_eq_ok_iff.1 hrunning
    exact ⟨running, h⟩
  · rintro ⟨running, h⟩
    exact ⟨(), s, checkRunning_eq_ok_iff.2 ⟨running, rfl⟩, h⟩

/-- The step fails only by being stopped. -/
def FailsByStop (x : Step σ α) : Prop :=
  ∀ s e t, x s = (.error e, t) → e.isStop = true

namespace FailsByStop

theorem pure (a : α) : FailsByStop (pure a : Step σ α) := by
  intro s e t h
  cases h

theorem bind {x : Step σ α} {f : α → Step σ β} (hx : FailsByStop x)
    (hf : ∀ a, FailsByStop (f a)) : FailsByStop (x >>= f) := by
  intro s e u h
  rcases Action.bind_eq_error_iff.1 h with h | ⟨a, t, -, h⟩
  · exact hx s e u h
  · exact hf a t e u h

theorem mapM_of_mem {f : α → Step σ β} {items : List α} (h : ∀ a ∈ items, FailsByStop (f a)) :
    FailsByStop (items.mapM f) := by
  intro s e u herror
  obtain ⟨done, item, rest, -, t, rfl, -, hitem⟩ := Action.exists_of_mapM_eq_error herror
  exact h item (by simp) t e u hitem

theorem mapM {f : α → Step σ β} (h : ∀ a, FailsByStop (f a)) (items : List α) :
    FailsByStop (items.mapM f) :=
  mapM_of_mem fun a _ => h a

theorem recover (x : Step σ α) : FailsByStop (recover x) := by
  intro s e t h
  rcases recover_cases x s with ⟨_, _, -, h'⟩ | ⟨_, _, -, -, h'⟩ | ⟨_, _, -, -, h'⟩
  all_goals rw [h'] at h; cases h
  rfl

theorem attempt (x : Step σ α) : FailsByStop (x.attempt : Step σ (Except SyncError α)) := by
  intro s e t h
  cases h

theorem look (f : σ → α) : FailsByStop (Action.look f : Step σ α) := by
  intro s e t h
  cases h

theorem checkRunning : FailsByStop (checkRunning services) := by
  intro s e t h
  unfold Sync.checkRunning at h
  split at h <;> cases h
  rfl

theorem countSucceeding (step : α → Step σ β) (items : List α) :
    FailsByStop (countSucceeding services step items) := by
  induction items with
  | nil => exact .pure 0
  | cons item rest ih =>
    exact .bind checkRunning fun _ => .bind (.recover _) fun _ => .bind ih fun _ => .pure _

theorem gather (fetch : α → Step σ (List β)) (items : List α) :
    FailsByStop (gather services fetch items) := by
  induction items with
  | nil => exact .pure []
  | cons item rest ih =>
    exact .bind checkRunning fun _ => .bind (.recover _) fun _ => .bind ih fun _ => .pure _

theorem openLog (mode : SyncMode) (league : Option League) :
    FailsByStop (openLog services scope mode league) := by
  unfold Sync.openLog
  split
  · exact .pure none
  · exact .bind (.recover _) fun _ => .pure _

theorem closeLog (log : Option SyncLog) (records : Nat) (failure : Option SyncError) :
    FailsByStop (closeLog services log records failure) := by
  cases log with
  | none => exact .pure ()
  | some log => exact .bind (.bind (.attempt _) fun _ => .pure _) fun _ => .pure ()

theorem recentGames (league : League) : FailsByStop (recentGames services league) :=
  .bind (.look _) fun _ => .bind (.attempt _) fun _ => .bind (.attempt _) fun _ =>
    .bind (.recover _) fun _ => .bind (.recover _) fun _ => .pure _

theorem updateGames (league : League) (tracked : List GameRow) :
    FailsByStop (updateGames services scope league tracked) :=
  .bind checkRunning fun _ => .bind (recentGames league) fun _ =>
    .bind (countSucceeding _ _) fun _ => .pure _

end FailsByStop

theorem recover_ofExcept (r : Except SyncError α) (s : σ) :
    recover (Action.ofExcept r) s = (if SyncError.ends r then .error .stopped else .ok r, s) := by
  cases r with
  | error e => cases he : e.isStop <;> simp [recover, Action.ofExcept, SyncError.ends,
      SyncError.of?, he]
  | ok a => rfl

/-- What is made of two scoreboards, of which either may have been refused. -/
def joinBoards (old new : Except SyncError (List Game)) : Except SyncError (List Game) :=
  if SyncError.ends old || SyncError.ends new then .error .stopped
  else .ok (old.toOption.getD [] ++ new.toOption.getD [])

theorem ends_joinBoards (old new : Except SyncError (List Game)) :
    SyncError.ends (joinBoards old new) = (SyncError.ends old || SyncError.ends new) := by
  unfold joinBoards
  cases SyncError.ends old || SyncError.ends new <;> rfl

/-- Both scoreboards are asked for before either answer is looked at. -/
theorem recentGames_apply (league : League) (s : σ) :
    let today := (services.now s).date
    let new := ask services (.scoreboard league (.forDate today)) s
    let old := ask services (.scoreboard league (.forDate (today.addDays (-1)))) new.2
    recentGames services league s = (joinBoards old.1 new.1, old.2) := by
  intro today new old
  show (recover (Action.ofExcept old.1) >>= fun r => recover (Action.ofExcept new.1) >>= fun r' =>
    (Pure.pure (r.toOption.getD [] ++ r'.toOption.getD []) : Step σ (List Game))) old.2 = _
  unfold joinBoards
  cases hold : SyncError.ends old.1 with
  | true => exact Action.bind_of_error (by rw [recover_ofExcept, if_pos hold]) _
  | false =>
    rw [Action.bind_of_ok (by rw [recover_ofExcept, if_neg (by simp [hold])])]
    cases hnew : SyncError.ends new.1 with
    | true => exact Action.bind_of_error (by rw [recover_ofExcept, if_pos hnew]) _
    | false => exact Action.bind_of_ok (by rw [recover_ofExcept, if_neg (by simp [hnew])]) _

/-! ## Under a log -/

/-- Something is done under a log of its own. `records` and `failure` say what the log tells of
its result. -/
def logged (services : Services σ) (scope : SyncScope) (mode : SyncMode) (league : Option League)
    (body : Step σ α) (records : α → Nat) (failure : α → Option SyncError) : Step σ α := do
  let log ← openLog services scope mode league
  let result ← body
  closeLog services log (records result) (failure result)
  pure result

/-- What is done for a league while its log is open. -/
def fetchAndProcess (fetch : League → Step σ (List α)) (process : League → List α → Step σ Nat)
    (league : League) : Step σ LeagueReport := do
  match ← recover (fetch league) with
  | .error failure => pure { league, failure := some failure }
  | .ok items =>
    let processed ← process league items
    pure { league, fetched := items.length, processed }

/-- A league is reported as failed if nothing could be fetched, and otherwise with the numbers of
items that were fetched and processed. -/
theorem fetchAndProcess_eq_ok_iff {fetch : League → Step σ (List α)}
    {process : League → List α → Step σ Nat} {league : League} {entry : LeagueReport} {s u : σ} :
    fetchAndProcess fetch process league s = (.ok entry, u) ↔
      (∃ e, fetch league s = (.error e, u) ∧ e.isStop = false ∧
        entry = { league, failure := some e }) ∨
      ∃ items processed t, fetch league s = (.ok items, t) ∧
        process league items t = (.ok processed, u) ∧
          entry = { league, fetched := items.length, processed } := by
  unfold fetchAndProcess
  constructor
  · intro h
    obtain ⟨found, t, hfound, h⟩ := Action.bind_eq_ok_iff.1 h
    obtain ⟨hf, hends⟩ := recover_eq_ok_iff.1 hfound
    cases found with
    | error e =>
      cases h
      exact .inl ⟨e, hf, hends, rfl⟩
    | ok items =>
      obtain ⟨processed, u', hp, h⟩ := Action.bind_eq_ok_iff.1 h
      cases h
      exact .inr ⟨items, processed, _, hf, hp, rfl⟩
  · rintro (⟨e, hf, he, rfl⟩ | ⟨items, processed, t, hf, hp, rfl⟩)
    · exact Action.bind_of_ok (recover_of_failure hf he) _
    · rw [Action.bind_of_ok (recover_of_ok hf)]
      exact Action.bind_of_ok hp _

/-- A league fails if its fetch does, and then nothing is counted for it. -/
theorem fetchAndProcess_failure {fetch : League → Step σ (List α)}
    {process : League → List α → Step σ Nat} {league : League} {entry : LeagueReport} {s u : σ}
    (h : fetchAndProcess fetch process league s = (.ok entry, u)) :
    (entry.failure.isSome ↔ ∃ e t, fetch league s = (.error e, t)) ∧
      (entry.failure.isSome → entry.fetched = 0 ∧ entry.processed = 0) := by
  rcases fetchAndProcess_eq_ok_iff.1 h with ⟨e, hfetch, -, rfl⟩ | ⟨items, n, t, hfetch, -, rfl⟩
  · simp [hfetch]
  · simp [hfetch]

/-- The teams of a league are fetched and written. -/
def refreshTeams (services : Services σ) (scope : SyncScope) (league : League) :
    Step σ LeagueReport :=
  fetchAndProcess (fun league => ask services (.teams league)) (processTeams services scope) league

/-- The schedule of a league is fetched and its games are processed. -/
def loadSchedule (services : Services σ) (scope : SyncScope) (league : League) :
    Step σ LeagueReport :=
  fetchAndProcess (scheduleOf services) (processGames services scope) league

/-- What a mode other than scores does for a league. -/
def leagueWork (services : Services σ) (scope : SyncScope) (mode : SyncMode) (league : League) :
    Step σ LeagueReport :=
  match mode with
  | .teams => refreshTeams services scope league
  | _ => loadSchedule services scope league

/-- The league of a scope that lists exactly one. -/
def only (scope : SyncScope) : Option League :=
  match scope.leagues with
  | [league] => some league
  | _ => none

/-- The tracked games are read and brought up to date. Where they cannot be read there is no
report. -/
def readAndUpdate (services : Services σ) (scope : SyncScope) :
    Step σ (Except SyncError SyncReport) := do
  match ← recover (store services .needingUpdate) with
  | .error failure => pure (.error failure)
  | .ok tracked =>
    let leagues ← (byLeague scope tracked).mapM fun (league, games) =>
      updateGames services scope league games
    pure (.ok { mode := .scores, leagues })

/-- What is done for scores while the log is open. -/
def endAndUpdate (services : Services σ) (scope : SyncScope) :
    Step σ (Except SyncError SyncReport) := do
  unless scope.dryRun do
    let _ ← recover (store services .finalizeStale)
  readAndUpdate services scope

end Sync

/-- What the log of a mode counts for a league: nothing where it failed, and otherwise the teams
that were fetched or the games that were processed. -/
def LeagueReport.counted (mode : SyncMode) (entry : LeagueReport) : Nat :=
  if entry.failure.isSome then 0
  else
    match mode with
    | .teams => entry.fetched
    | _ => entry.processed

/-- The report is about a mode: about each league of the scope in order, or about scores, where no
league fails. -/
structure SyncReport.Covers (report : SyncReport) (scope : SyncScope) (asked : SyncMode) :
    Prop where
  mode : report.mode = asked
  leagues : asked ≠ .scores → report.leagues.map LeagueReport.league = scope.leagues
  scores : asked = .scores → ∀ entry ∈ report.leagues, entry.failure = none

namespace Sync

variable {σ α : Type} {services : Services σ} {scope : SyncScope}

/-- The turn of a league in a mode other than scores. -/
def leagueTurn (services : Services σ) (scope : SyncScope) (mode : SyncMode) (league : League) :
    Step σ LeagueReport := do
  checkRunning services
  logged services scope mode (some league) (leagueWork services scope mode league)
    (LeagueReport.counted mode) LeagueReport.failure

theorem fetchAndProcess_league {fetch : League → Step σ (List α)}
    {process : League → List α → Step σ Nat} {league : League} {entry : LeagueReport} {s u : σ}
    (h : fetchAndProcess fetch process league s = (.ok entry, u)) : entry.league = league := by
  rcases fetchAndProcess_eq_ok_iff.1 h with ⟨_, -, -, rfl⟩ | ⟨_, _, _, -, -, rfl⟩ <;> rfl

theorem leagueWork_league {mode : SyncMode} {league : League} {entry : LeagueReport} {s u : σ}
    (h : leagueWork services scope mode league s = (.ok entry, u)) : entry.league = league := by
  unfold leagueWork refreshTeams loadSchedule at h
  split at h <;> exact fetchAndProcess_league h

theorem syncLeague_eq (mode : SyncMode) (fetch : League → Step σ (List α))
    (process : League → List α → Step σ Nat) (recorded : Nat → Nat → Nat) (league : League) :
    syncLeague services scope mode fetch process recorded league = (do
      checkRunning services
      logged services scope mode (some league) (fetchAndProcess fetch process league)
        (fun entry => if entry.failure.isSome then 0 else recorded entry.fetched entry.processed)
        LeagueReport.failure) := by
  unfold syncLeague logged fetchAndProcess
  simp only [bind_assoc]
  congr 1
  funext _
  congr 1
  funext log
  congr 1
  funext fetched
  cases fetched <;> simp

/-- **A mode other than scores** gives each league its turn. -/
theorem syncMode_eq {mode : SyncMode} (h : mode ≠ .scores) :
    syncMode services scope mode = (do
      let leagues ← scope.leagues.mapM (leagueTurn services scope mode)
      pure { mode, leagues }) := by
  cases mode with
  | teams =>
    have hturn : syncLeague services scope .teams (fun league => ask services (.teams league))
        (processTeams services scope) (fun fetched _ => fetched) =
          leagueTurn services scope .teams :=
      funext fun league => syncLeague_eq ..
    rw [← hturn]
    rfl
  | schedule =>
    have hturn : syncLeague services scope .schedule (scheduleOf services)
        (processGames services scope) (fun _ processed => processed) =
          leagueTurn services scope .schedule :=
      funext fun league => syncLeague_eq ..
    rw [← hturn]
    rfl
  | scores => exact absurd rfl h

namespace FailsByStop

theorem logged {mode : SyncMode} {league : Option League} {body : Step σ α} {records : α → Nat}
    {failure : α → Option SyncError} (h : FailsByStop body) :
    FailsByStop (logged services scope mode league body records failure) :=
  .bind (openLog mode league) fun _ => .bind h fun _ => .bind (closeLog _ _ _) fun _ => .pure _

theorem fetchAndProcess {fetch : League → Step σ (List α)} {process : League → List α → Step σ Nat}
    {league : League} (h : ∀ items, FailsByStop (process league items)) :
    FailsByStop (fetchAndProcess fetch process league) :=
  .bind (.recover _) fun found => by
    cases found with
    | error failure => exact .pure _
    | ok items => exact .bind (h items) fun _ => .pure _

theorem leagueWork (mode : SyncMode) (league : League) :
    FailsByStop (leagueWork services scope mode league) := by
  have hteams : FailsByStop (refreshTeams services scope league) :=
    .fetchAndProcess fun _ => countSucceeding _ _
  have hschedule : FailsByStop (loadSchedule services scope league) :=
    .fetchAndProcess fun _ => countSucceeding _ _
  cases mode with
  | teams => exact hteams
  | schedule => exact hschedule
  | scores => exact hschedule

theorem leagueTurn (mode : SyncMode) (league : League) :
    FailsByStop (leagueTurn services scope mode league) :=
  .bind checkRunning fun _ => .logged (leagueWork mode league)

/-- Whatever the faults, the leagues of such a mode take their turns until the run is stopped. -/
theorem syncMode {mode : SyncMode} (hmode : mode ≠ .scores) :
    FailsByStop (syncMode services scope mode) := by
  rw [syncMode_eq hmode]
  exact .bind (.mapM (fun _ => .leagueTurn mode _) _) fun _ => .pure _

theorem endAndUpdate : FailsByStop (endAndUpdate services scope) := by
  have hread : FailsByStop (readAndUpdate services scope) := by
    refine .bind (.recover _) fun found => ?_
    cases found with
    | error failure => exact .pure _
    | ok tracked => exact .bind (.mapM (fun _ => updateGames _ _) _) fun _ => .pure _
  unfold Sync.endAndUpdate
  split
  · exact hread
  · exact .bind (.recover _) fun _ => hread

end FailsByStop

/-- What a log counts for a run of scores. -/
def scoresRecords (result : Except SyncError SyncReport) : Nat :=
  LeagueReport.total (result.toOption.elim [] SyncReport.leagues)

theorem updateTracked_eq (log : Option SyncLog) :
    updateTracked services scope log = readAndUpdate services scope >>= fun result =>
      closeLog services log (scoresRecords result) (SyncError.of? result) >>= fun _ =>
        Action.ofExcept result := by
  unfold updateTracked readAndUpdate
  rw [bind_assoc]
  congr 1
  funext found
  cases found with
  | error failure => rfl
  | ok tracked =>
    dsimp only
    rw [bind_assoc]
    rfl

/-- **A run of scores** is something done under a log. -/
theorem syncScores_eq :
    syncScores services scope =
      logged services scope .scores (only scope) (endAndUpdate services scope)
        scoresRecords SyncError.of? >>= Action.ofExcept := by
  unfold syncScores logged endAndUpdate
  simp only [bind_assoc, pure_bind, updateTracked_eq]
  congr 1
  funext log
  by_cases hd : scope.dryRun = true
  · rw [if_pos hd, if_pos hd]
  · rw [if_neg hd, if_neg hd, bind_assoc]

theorem updateGames_entry {league : League} {tracked : List GameRow} {entry : LeagueReport}
    {s u : σ} (h : updateGames services scope league tracked s = (.ok entry, u)) :
    entry.failure = none := by
  obtain ⟨_, _, -, h⟩ := Action.bind_eq_ok_iff.1 h
  obtain ⟨_, _, -, h⟩ := Action.bind_eq_ok_iff.1 h
  obtain ⟨_, _, -, h⟩ := Action.bind_eq_ok_iff.1 h
  cases h
  rfl

/-- No league fails in a report about scores. -/
theorem readAndUpdate_report {report : SyncReport} {s u : σ}
    (h : readAndUpdate services scope s = (.ok (.ok report), u)) :
    report.mode = .scores ∧ ∀ entry ∈ report.leagues, entry.failure = none := by
  obtain ⟨found, t, -, h⟩ := Action.bind_eq_ok_iff.1 h
  cases found with
  | error failure => cases h
  | ok tracked =>
    obtain ⟨leagues, t', hleagues, h⟩ := Action.bind_eq_ok_iff.1 h
    cases h
    exact ⟨rfl, (Action.mapM_eq_ok_iff.1 hleagues).forall_mem fun _ _ _ _ hentry =>
      updateGames_entry hentry⟩

theorem endAndUpdate_report {report : SyncReport} {s u : σ}
    (h : endAndUpdate services scope s = (.ok (.ok report), u)) :
    report.mode = .scores ∧ ∀ entry ∈ report.leagues, entry.failure = none := by
  unfold endAndUpdate at h
  split at h
  · exact readAndUpdate_report h
  · obtain ⟨_, _, -, h⟩ := Action.bind_eq_ok_iff.1 h
    exact readAndUpdate_report h

/-! ## Reports -/

theorem covers_of_syncMode_eq_ok {mode : SyncMode} {report : SyncReport} {s u : σ}
    (h : syncMode services scope mode s = (.ok report, u)) : report.Covers scope mode := by
  by_cases hmode : mode = .scores
  · subst hmode
    change syncScores services scope s = _ at h
    rw [syncScores_eq] at h
    obtain ⟨result, t, hlogged, h⟩ := Action.bind_eq_ok_iff.1 h
    cases h
    obtain ⟨_, _, -, h⟩ := Action.bind_eq_ok_iff.1 hlogged
    obtain ⟨_, _, hwork, h⟩ := Action.bind_eq_ok_iff.1 h
    obtain ⟨_, _, -, h⟩ := Action.bind_eq_ok_iff.1 h
    cases h
    obtain ⟨hscores, hentries⟩ := endAndUpdate_report hwork
    exact ⟨hscores, fun hne => absurd rfl hne, fun _ => hentries⟩
  · rw [syncMode_eq hmode] at h
    obtain ⟨leagues, t, hleagues, h⟩ := Action.bind_eq_ok_iff.1 h
    cases h
    refine ⟨rfl, fun _ => ?_, fun heq => absurd heq hmode⟩
    refine (Action.mapM_eq_ok_iff.1 hleagues).map_eq fun _ _ _ _ hturn => ?_
    obtain ⟨-, hlogged⟩ := checkRunning_bind_eq_ok_iff.1 hturn
    obtain ⟨_, _, -, h⟩ := Action.bind_eq_ok_iff.1 hlogged
    obtain ⟨_, _, hwork, h⟩ := Action.bind_eq_ok_iff.1 h
    obtain ⟨_, _, -, h⟩ := Action.bind_eq_ok_iff.1 h
    cases h
    exact leagueWork_league hwork

/-- The modes of a run: those that are asked for, each once and in their usual order. -/
def modesOf (modes : List SyncMode) : List SyncMode := SyncMode.all.filter (modes.contains ·)

/-- The turn of a mode. -/
def modeTurn (services : Services σ) (scope : SyncScope) (mode : SyncMode) : Step σ SyncReport := do
  checkRunning services
  syncMode services scope mode

/-- **A run** gives each of its modes its turn. -/
theorem run_eq (modes : List SyncMode) :
    run services scope modes = (modesOf modes).mapM (modeTurn services scope) := rfl

/-- A run that ends well has one report for each of its modes. -/
theorem covers_of_run_eq_ok {modes : List SyncMode} {reports : List SyncReport} {s u : σ}
    (h : run services scope modes s = (.ok reports, u)) :
    List.Forall₂ (fun mode report => report.Covers scope mode) (modesOf modes) reports :=
  (Action.mapM_eq_ok_iff.1 h).forall₂ fun _ _ _ _ hturn =>
    covers_of_syncMode_eq_ok (checkRunning_bind_eq_ok_iff.1 hturn).2

theorem map_mode_of_run_eq_ok {modes : List SyncMode} {reports : List SyncReport} {s u : σ}
    (h : run services scope modes s = (.ok reports, u)) :
    reports.map SyncReport.mode = modesOf modes :=
  (Action.mapM_eq_ok_iff.1 h).map_eq fun _ _ _ _ hturn =>
    (covers_of_syncMode_eq_ok (checkRunning_bind_eq_ok_iff.1 hturn).2).mode

end Sync

end SquarePool
