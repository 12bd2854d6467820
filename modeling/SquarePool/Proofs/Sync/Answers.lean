import SquarePool.Proofs.Sync.Containment

/-!
# What a feed answers

A feed that neither stops a run nor makes its store fail has a say in it by its answers alone. Main
statement: from a calm world on, a list that is fetched for each of some items asks for each of them
once and in their order, whatever is refused on the way, and holds what the feed gave.
-/

namespace SquarePool

/-- The games in an answer. -/
def Question.gamesIn : (q : Question) → q.Answer → List Game
  | .teams _, _ | .season _, _ => []
  | .scoreboard .., games | .dateRange .., games | .schedule .., games => games
  | .summary .., game => [game]

/-- The games that a feed gives in answer to some questions, which are asked in turn after those
before them. A question that is refused gives none. -/
def Feed.games (feed : Feed) (before : List Question) : List Question → List Game
  | [] => []
  | q :: rest =>
    (feed before q).answer.toOption.elim [] q.gamesIn ++ games feed (before ++ [q]) rest

theorem Feed.games_singleton (feed : Feed) (before : List Question) (q : Question) :
    (((feed before q).answer.map q.gamesIn).mapError SyncError.feed).toOption.getD [] =
      feed.games before [q] := by
  rw [games, games, List.append_nil]
  cases (feed before q).answer <;> rfl

namespace World

/-- The world once some questions were asked and answered in turn. -/
def asking (world : World) (feed : Feed) (qs : List Question) : World :=
  qs.foldl (fun world q => world.afterReply q (feed world.asked q)) world

variable {α : Type} {feed : Feed} {scope : SyncScope} {a : World}

@[simp] theorem store_asking (qs : List Question) : (a.asking feed qs).store = a.store := by
  induction qs generalizing a with
  | nil => rfl
  | cons q rest ih => exact ih

@[simp] theorem asked_asking (qs : List Question) :
    (a.asking feed qs).asked = a.asked ++ qs := by
  induction qs generalizing a with
  | nil => exact (List.append_nil _).symm
  | cons q rest ih => exact ih.trans (List.append_assoc a.asked [q] rest)

/-- What is asked does not depend on the store. -/
theorem asking_holding (store : Store) (qs : List Question) :
    (a.holding store).asking feed qs = (a.asking feed qs).holding store := by
  induction qs generalizing a with
  | nil => rfl
  | cons q rest ih => exact @ih (a.afterReply q (feed a.asked q))

theorem ask_of_ok {q : Question} {answer : q.Answer} (h : (feed a.asked q).answer = .ok answer) :
    Sync.ask (services feed) q a = (.ok answer, a.asking feed [q]) := by
  rw [ask_apply, h]
  rfl

theorem ask_of_error {q : Question} {e : FeedError} (h : (feed a.asked q).answer = .error e) :
    Sync.ask (services feed) q a = (.error (.feed e), a.asking feed [q]) := by
  rw [ask_apply, h]
  rfl

/-- The step asks the feed one question and gives the games in the answer. -/
def Fetches (feed : Feed) (fetch : Sync.Step World (List Game)) (q : Question) : Prop :=
  ∀ a : World, fetch a =
    (((feed a.asked q).answer.map q.gamesIn).mapError SyncError.feed, a.asking feed [q])

theorem fetches_scoreboard (league : League) (query : ScoreboardQuery) :
    Fetches feed (Sync.ask (services feed) (.scoreboard league query))
      (.scoreboard league query) := by
  intro a
  rw [ask_apply]
  cases (feed a.asked (.scoreboard league query)).answer <;> rfl

theorem fetches_schedule (league : League) (teamId : String) :
    Fetches feed (Sync.ask (services feed) (.schedule league teamId))
      (.schedule league teamId) := by
  intro a
  rw [ask_apply]
  cases (feed a.asked (.schedule league teamId)).answer <;> rfl

theorem fetches_dateRange (league : League) (first last : Date) :
    Fetches feed (Sync.ask (services feed) (.dateRange league first last))
      (.dateRange league first last) := by
  intro a
  rw [ask_apply]
  cases (feed a.asked (.dateRange league first last)).answer <;> rfl

section Quiet

variable (spares : feed.SparesStore) (never : feed.NeverStops)

include spares never

theorem Calm.asking (calm : a.Calm) (qs : List Question) : (a.asking feed qs).Calm := by
  induction qs generalizing a with
  | nil => exact calm
  | cons q rest ih => exact ih (staysCalm_ask spares never q a calm).1

/-- **A list for each item.** The questions for the items are asked in turn, each once, and what
they give is joined. -/
theorem gather_of_calm {fetch : α → Sync.Step World (List Game)} {question : α → Question}
    (h : ∀ item, Fetches feed (fetch item) (question item)) (items : List α) (calm : a.Calm) :
    Sync.gather (services feed) fetch items a =
      (.ok (feed.games a.asked (items.map question)), a.asking feed (items.map question)) := by
  induction items generalizing a with
  | nil => rfl
  | cons item rest ih =>
    have hfound : Sync.recover (fetch item) a =
        (.ok (((feed a.asked (question item)).answer.map (question item).gamesIn).mapError
          SyncError.feed), a.asking feed [question item]) := by
      refine Sync.recover_eq_ok_iff.2 ⟨h item a, ?_⟩
      have hends := (staysCalm_ask spares never (question item) a calm).2
      rw [ask_apply] at hends
      cases hanswer : (feed a.asked (question item)).answer with
      | ok _ => rfl
      | error e => rwa [hanswer] at hends
    have hrest := ih (calm.asking spares never [question item])
    rw [asked_asking] at hrest
    refine Sync.checkRunning_bind_eq_ok_iff.2 ⟨calm.running, ?_⟩
    rw [Action.bind_of_ok hfound, Action.bind_of_ok hrest, Action.pure_apply, List.map_cons,
      Feed.games]
    cases (feed a.asked (question item)).answer <;> rfl

end Quiet

end World

end SquarePool
