/-!
# Actions

A computation that changes a state on its way and may fail. What it did before it failed stays
done: a failure carries the state it left behind. Main statement: actions obey the monad laws, and
running a sequence is running its parts in turn.
-/

namespace SquarePool

/-- A computation that changes a state of type `σ` and fails with an `ε` or gives an `α`. -/
def Action (σ ε α : Type) : Type := σ → Except ε α × σ

namespace Action

variable {σ τ ε δ α β γ : Type}

/-- Gives a value and changes nothing. -/
protected def pure (a : α) : Action σ ε α := fun s => (.ok a, s)

/-- Runs an action, and then the one that its value calls for. -/
protected def bind (x : Action σ ε α) (f : α → Action σ ε β) : Action σ ε β := fun s =>
  match x s with
  | (.ok a, t) => f a t
  | (.error e, t) => (.error e, t)

instance : Monad (Action σ ε) where
  pure := Action.pure
  bind := Action.bind

/-- Fails and changes nothing. -/
def fail (e : ε) : Action σ ε α := fun s => (.error e, s)

/-- Looks at the state. -/
def look (f : σ → α) : Action σ ε α := fun s => (.ok (f s), s)

/-- Changes the state. -/
def change (f : σ → σ) : Action σ ε Unit := fun s => (.ok (), f s)

/-- Gives what was computed before. -/
def ofExcept (r : Except ε α) : Action σ ε α := fun s => (r, s)

/-- Gives a failure as a value. -/
def attempt (x : Action σ ε α) : Action σ δ (Except ε α) := fun s =>
  let (r, t) := x s
  (.ok r, t)

/-- Names a failure anew. -/
def mapError (f : ε → δ) (x : Action σ ε α) : Action σ δ α := fun s =>
  let (r, t) := x s
  (r.mapError f, t)

/-- Runs an action on a part of the state. -/
def within (part : σ → τ) (replace : σ → τ → σ) (x : Action τ ε α) : Action σ ε α := fun s =>
  let (r, t) := x (part s)
  (r, replace s t)

@[ext] theorem ext {x y : Action σ ε α} (h : ∀ s, x s = y s) : x = y := funext h

theorem pure_apply (a : α) (s : σ) : (pure a : Action σ ε α) s = (.ok a, s) := rfl

theorem bind_apply (x : Action σ ε α) (f : α → Action σ ε β) (s : σ) :
    (x >>= f) s = match x s with
      | (.ok a, t) => f a t
      | (.error e, t) => (.error e, t) := rfl

theorem bind_of_ok {x : Action σ ε α} {s t : σ} {a : α} (h : x s = (.ok a, t))
    (f : α → Action σ ε β) : (x >>= f) s = f a t := by
  rw [bind_apply, h]

theorem bind_of_error {x : Action σ ε α} {s t : σ} {e : ε} (h : x s = (.error e, t))
    (f : α → Action σ ε β) : (x >>= f) s = (.error e, t) := by
  rw [bind_apply, h]

theorem bind_pure_id (x : Action σ ε α) : id <$> x = x := by
  ext s : 1
  show (match x s with
    | (.ok a, t) => (Except.ok a, t)
    | (.error e, t) => (.error e, t)) = x s
  rcases x s with ⟨_ | _, _⟩ <;> rfl

theorem bind_assoc (x : Action σ ε α) (f : α → Action σ ε β) (g : β → Action σ ε γ) :
    x >>= f >>= g = x >>= fun a => f a >>= g := by
  ext s : 1
  show (match (match x s with
      | (.ok a, t) => f a t
      | (.error e, t) => (.error e, t)) with
    | (.ok b, u) => g b u
    | (.error e, u) => (.error e, u)) = match x s with
      | (.ok a, t) => (f a >>= g) t
      | (.error e, t) => (.error e, t)
  rcases x s with ⟨_ | _, _⟩ <;> rfl

instance : LawfulMonad (Action σ ε) :=
  LawfulMonad.mk' (Action σ ε) bind_pure_id (fun _ _ => rfl) bind_assoc

end Action

end SquarePool
