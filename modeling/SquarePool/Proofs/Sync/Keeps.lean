import Mathlib.Order.Defs.Unbundled
import SquarePool.Proofs.Sync.Outcomes
import SquarePool.Proofs.Sync.Parts

/-!
# What a run keeps

A run reaches its surroundings in few ways: it asks the feed, it sends the store a handful of
requests of its own, and it processes games. Main statement: a relation between states that is
reflexive and transitive holds from the start of a run to its end, however it ends, as soon as it
holds across each of these.
-/

namespace SquarePool

namespace Action

variable {σ ε δ α β : Type} {R : σ → σ → Prop}

/-- The state that the action starts from is related to the one that it leaves, also when it
fails. -/
def Keeps (R : σ → σ → Prop) (x : Action σ ε α) : Prop := ∀ s, R s (x s).2

theorem Keeps.attempt {x : Action σ ε α} (h : x.Keeps R) :
    (x.attempt : Action σ δ (Except ε α)).Keeps R := h

theorem Keeps.mapError {x : Action σ ε α} (h : x.Keeps R) (f : ε → δ) : (x.mapError f).Keeps R := h

variable [IsPreorder σ R]

theorem Keeps.pure (a : α) : (pure a : Action σ ε α).Keeps R := fun s => refl s

theorem Keeps.fail (e : ε) : (fail e : Action σ ε α).Keeps R := fun s => refl s

theorem Keeps.look (f : σ → α) : (look f : Action σ ε α).Keeps R := fun s => refl s

theorem Keeps.ofExcept (r : Except ε α) : (ofExcept r : Action σ ε α).Keeps R := fun s => refl s

/-- From one state on it is enough to look at what the first action gives there. -/
theorem related_bind {x : Action σ ε α} {f : α → Action σ ε β} {s : σ} (hx : R s (x s).2)
    (hf : ∀ a t, x s = (.ok a, t) → R t (f a t).2) : R s ((x >>= f) s).2 := by
  rw [bind_apply]
  rcases h : x s with ⟨_ | a, t⟩
  · rwa [h] at hx
  · rw [h] at hx
    exact IsTrans.trans _ _ _ hx (hf a t h)

theorem Keeps.bind {x : Action σ ε α} {f : α → Action σ ε β} (hx : x.Keeps R)
    (hf : ∀ a, (f a).Keeps R) : (x >>= f).Keeps R :=
  fun s => related_bind (hx s) fun a t _ => hf a t

theorem Keeps.mapM_of_mem {f : α → Action σ ε β} {items : List α}
    (h : ∀ a ∈ items, (f a).Keeps R) : (items.mapM f).Keeps R := by
  induction items with
  | nil => exact .pure []
  | cons item rest ih =>
    have hrest := ih fun a ha => h a (by simp [ha])
    rw [List.mapM_cons]
    exact .bind (h item (by simp)) fun b => .bind hrest fun bs => .pure (b :: bs)

end Action

namespace Sync

variable {σ α β : Type} {R : σ → σ → Prop} {services : Services σ} {scope : SyncScope}

/-- A relation holds across everything that a run does with its surroundings. -/
structure Upholds (services : Services σ) (scope : SyncScope) (R : σ → σ → Prop) : Prop where
  ask : ∀ q, (services.ask q).Keeps R
  store : ∀ r : Request, r.isOfMode scope = true → (services.store r).Keeps R
  processGame : ∀ league game, (processGame services scope league game).Keeps R

theorem keeps_recover {x : Step σ α} (h : x.Keeps R) : (recover x).Keeps R := by
  intro s
  have hs := h s
  -- whether the step ends with a value, a stop or another failure, the state is the same
  rcases recover_cases x s with ⟨a, t, hx, hr⟩ | ⟨e, t, hx, -, hr⟩ | ⟨e, t, hx, -, hr⟩
  all_goals
    rw [hx] at hs
    rw [hr]
    exact hs

section Steps

variable [IsPreorder σ R]

theorem keeps_checkRunning : (checkRunning services).Keeps R := by
  intro s
  rw [checkRunning]
  split <;> exact refl s

/-- What follows a recovered failure is looked at only where the failure is no stop. -/
theorem keeps_rescue {x : Step σ α} {f : Except SyncError α → Step σ β} (hx : x.Keeps R)
    (hok : ∀ a, (f (.ok a)).Keeps R)
    (herror : ∀ e : SyncError, e.isStop = false → (f (.error e)).Keeps R) :
    (recover x >>= f).Keeps R := by
  intro s
  refine Action.related_bind (keeps_recover hx s) fun r t h => ?_
  obtain ⟨-, hends⟩ := recover_eq_ok_iff.1 h
  cases r with
  | ok a => exact hok a t
  | error e => exact herror e hends t

theorem keeps_countSucceeding_of_mem {step : α → Step σ β} {items : List α}
    (h : ∀ a ∈ items, (step a).Keeps R) : (countSucceeding services step items).Keeps R := by
  induction items with
  | nil => exact .pure 0
  | cons item rest ih =>
    have hrest := ih fun a ha => h a (by simp [ha])
    exact .bind keeps_checkRunning fun _ => .bind (keeps_recover (h item (by simp))) fun _ =>
      .bind hrest fun _ => .pure _

theorem keeps_closeLog_of
    (hstore : ∀ log processed success message,
      (services.store (.closeLog log processed success message)).Keeps R)
    (log : Option SyncLog) (records : Nat) (failure : Option SyncError) :
    (closeLog services log records failure).Keeps R := by
  cases log with
  | none => exact .pure ()
  | some log =>
    exact .bind (.bind (Action.Keeps.mapError (hstore log _ _ _) SyncError.store).attempt
      fun _ => .pure _) fun _ => .pure ()

theorem keeps_recentGames_of (hask : ∀ q, (services.ask q).Keeps R) (league : League) :
    (recentGames services league).Keeps R := by
  have hboard : ∀ q, (Sync.ask services q).Keeps R := fun q => (hask q).mapError SyncError.feed
  exact .bind (.look _) fun _ => .bind (hboard _).attempt fun _ => .bind (hboard _).attempt fun _ =>
    .bind (keeps_recover (.ofExcept _)) fun _ => .bind (keeps_recover (.ofExcept _)) fun _ =>
      .pure _

theorem composes_keeps : Composes services services fun _ x _ => x.Keeps R where
  pure a := .pure a
  bind hx hf := .bind hx hf
  fail _ := .fail _
  rescue hx hok herror := keeps_rescue hx hok herror
  checkRunning := keeps_checkRunning
  today := .look _

theorem Upholds.relatesAll (h : Upholds services scope R) :
    RelatesAll services services scope fun _ x _ => x.Keeps R where
  toComposes := composes_keeps
  ask q := (h.ask q).mapError SyncError.feed
  store r hr _ := (h.store r hr).mapError SyncError.store
  recentGames league := keeps_recentGames_of h.ask league
  processGame := h.processGame
  openLog _ _ live := (h.store _ (by simp [Request.isOfMode, live])).mapError SyncError.store
  closeLog _ _ _ _ live :=
    ((h.store _ (by simp [Request.isOfMode, live])).mapError SyncError.store).attempt

/-- **A whole run** keeps what each of its dealings with the surroundings keeps. -/
theorem Upholds.keeps_run (h : Upholds services scope R) (modes : List SyncMode) :
    (run services scope modes).Keeps R :=
  h.relatesAll.run modes

end Steps

end Sync

end SquarePool
