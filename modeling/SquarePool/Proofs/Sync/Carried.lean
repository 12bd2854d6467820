import SquarePool.Proofs.Sync.Parts

/-!
# What is carried through a run

Some runs have nothing to end them: the surroundings are such that they stay so, and no failure that
comes up stands for being stopped. Main statement: if each dealing with the surroundings carries a
property of states on and is not stopped where the property holds, so does a whole run.
-/

namespace SquarePool

namespace Sync

variable {σ α β : Type} {I : σ → Prop} {services : Services σ} {scope : SyncScope}

/-- From a state with the property on the step ends in one with it, and not by a stop. -/
def Carries (I : σ → Prop) (x : Step σ α) : Prop :=
  ∀ s, I s → I (x s).2 ∧ SyncError.ends (x s).1 = false

namespace Carries

theorem of_eq {x : Step σ α} (h : ∀ s, I s → ∃ r, x s = (r, s) ∧ SyncError.ends r = false) :
    Carries I x := by
  intro s hs
  obtain ⟨r, hx, hr⟩ := h s hs
  rw [hx]
  exact ⟨hs, hr⟩

theorem pure (a : α) : Carries I (pure a : Step σ α) := fun _ hs => ⟨hs, rfl⟩

theorem bind {x : Step σ α} {f : α → Step σ β} (hx : Carries I x) (hf : ∀ a, Carries I (f a)) :
    Carries I (x >>= f) := by
  intro s hs
  have hstep := hx s hs
  rcases h : x s with ⟨e | a, t⟩
  · rw [h] at hstep
    rw [Action.bind_of_error h]
    exact hstep
  · rw [h] at hstep
    rw [Action.bind_of_ok h]
    exact hf a t hstep.1

theorem mapM {f : α → Step σ β} (h : ∀ a, Carries I (f a)) (items : List α) :
    Carries I (items.mapM f) := by
  induction items with
  | nil => exact .pure []
  | cons item rest ih =>
    rw [List.mapM_cons]
    exact .bind (h item) fun b => .bind ih fun bs => .pure (b :: bs)

/-- What follows a failure that was recovered from is looked at only if the failure is no stop. -/
theorem rescue {x : Step σ α} {f : Except SyncError α → Step σ β} (hx : Carries I x)
    (hok : ∀ a, Carries I (f (.ok a)))
    (herror : ∀ e : SyncError, e.isStop = false → Carries I (f (.error e))) :
    Carries I (recover x >>= f) := by
  intro s hs
  have hstep := hx s hs
  rcases recover_cases x s with ⟨a, t, h, hr⟩ | ⟨e, t, h, he, -⟩ | ⟨e, t, h, he, hr⟩
  all_goals rw [h] at hstep
  · rw [Action.bind_of_ok hr]
    exact hok a t hstep.1
  · have hends : e.isStop = false := hstep.2
    rw [he] at hends
    cases hends
  · rw [Action.bind_of_ok hr]
    exact herror e he t hstep.1

theorem attempt {x : Step σ α} (h : Carries I x) :
    Carries I (x.attempt : Step σ (Except SyncError α)) :=
  fun s hs => ⟨(h s hs).1, rfl⟩

/-- A step that nothing but a stop makes fail gives a value. -/
theorem succeeds {x : Step σ α} {s : σ} (h : Carries I x) (hx : FailsByStop x) (hs : I s) :
    ∃ a t, x s = (.ok a, t) ∧ I t := by
  obtain ⟨ht, hends⟩ := h s hs
  rcases hxs : x s with ⟨e | a, t⟩
  · rw [hxs] at hends
    have hstop : e.isStop = true := hx s e t hxs
    exact absurd (hstop.symm.trans hends) (by decide)
  · rw [hxs] at ht
    exact ⟨a, t, rfl, ht⟩

theorem recentGames (hask : ∀ q, Carries I (ask services q)) (league : League) :
    Carries I (recentGames services league) := by
  intro s hs
  have hnew := hask (.scoreboard league (.forDate (services.now s).date)) s hs
  have hold := hask (.scoreboard league (.forDate ((services.now s).date.addDays (-1)))) _ hnew.1
  rw [recentGames_apply]
  refine ⟨hold.1, ?_⟩
  rw [ends_joinBoards]
  exact Bool.or_eq_false_iff.2 ⟨hold.2, hnew.2⟩

end Carries

theorem carries_composes (running : ∀ s, I s → services.isStopped s = false) :
    Composes services services fun _ x _ => Carries I x where
  pure a := .pure a
  bind hx hf := hx.bind hf
  fail he := fun _ hs => ⟨hs, he⟩
  rescue hx hok herror := hx.rescue hok herror
  checkRunning := by
    intro s hs
    rw [checkRunning_eq_ok_iff.2 ⟨running s hs, rfl⟩]
    exact ⟨hs, rfl⟩
  today := fun _ hs => ⟨hs, rfl⟩

/-- **A whole run** carries on what each dealing with the surroundings carries on. -/
theorem carries_relatesAll (running : ∀ s, I s → services.isStopped s = false)
    (hask : ∀ q, Carries I (ask services q)) (hstore : ∀ r, Carries I (store services r))
    (hnotify : ∀ gameId, Carries I ((services.notify gameId).mapError SyncError.store)) :
    RelatesAll services services scope fun _ x _ => Carries I x where
  toComposes := carries_composes running
  store r _ _ := hstore r
  processGame := (carries_composes running).processGame (fun r _ => hstore r) hnotify scope
  openLog mode league _ := hstore (.openLog mode league)
  closeLog log processed success message _ :=
    (hstore (.closeLog log processed success message)).attempt
  ask := hask
  recentGames := Carries.recentGames hask

end Sync

end SquarePool
