import SquarePool.Feed.Client
import SquarePool.Proofs.Sync.Schedule

/-!
# Days of a scoreboard

The games of a span of days are fetched day by day, and a game that is listed under two days is kept
once. Main statement: the days are asked for once each and in order, up to the first that fails; if
none does, the first of each identifier among all the games is what is given.
-/

namespace SquarePool

/-! ## Days in order -/

namespace Date

variable {first last day : Date}

theorem number_addDays (day : Date) (days : Int) : (day.addDays days).number = day.number + days :=
  rfl

theorem next?_of_lt (h : day.number < last.number) (hlast : last.number ≤ Date.last.number) :
    day.next? = some (day.addDays 1) := by
  rw [next?, if_pos (by omega)]

theorem mem_run {n : Nat} :
    day ∈ first.run n ↔ first.number ≤ day.number ∧ day.number < first.number + n := by
  induction n generalizing first with
  | zero =>
    simp only [run, List.not_mem_nil, false_iff]
    omega
  | succ n ih =>
    have hfirst : day = first ↔ day.number = first.number := by
      cases day
      cases first
      simp
    rw [run, List.mem_cons, ih, hfirst, number_addDays]
    omega

theorem pairwise_run (first : Date) (n : Nat) :
    (first.run n).Pairwise fun a b => a.number < b.number := by
  induction n generalizing first with
  | zero => exact .nil
  | succ n ih =>
    refine .cons (fun later hlater => ?_) (ih _)
    have hnumber := (mem_run.1 hlater).1
    rw [number_addDays] at hnumber
    omega

theorem mem_range :
    day ∈ first.range last ↔ first.number ≤ day.number ∧ day.number ≤ last.number := by
  rw [range, mem_run, span]
  omega

theorem range_of_lt (h : last.number < first.number) : first.range last = [] := by
  have hspan : first.span last = 0 := by
    rw [span]
    omega
  rw [range, hspan, run]

theorem range_of_le (h : first.number ≤ last.number) :
    first.range last = first :: (first.addDays 1).range last := by
  have hspan : first.span last = (first.addDays 1).span last + 1 := by
    rw [span, span, number_addDays]
    omega
  rw [range, hspan, run, range]

end Date

/-! ## Games met before -/

namespace Game

/-- Only which identifiers were seen counts. -/
theorem unseen_congr {seen seen' : List String} (h : ∀ id, id ∈ seen ↔ id ∈ seen')
    (games : List Game) : unseen seen games = unseen seen' games := by
  induction games generalizing seen seen' with
  | nil => rfl
  | cons game rest ih =>
    have next : ∀ id, id ∈ game.id :: seen ↔ id ∈ game.id :: seen' := by
      simp [h]
    simp only [unseen, h, ih h, ih next]

/-- Games that follow others are looked at when those have been seen. -/
theorem unseen_append (seen : List String) (games later : List Game) :
    unseen seen (games ++ later) =
      unseen seen games ++ unseen (seen ++ games.map Game.id) later := by
  induction games generalizing seen with
  | nil => simp [unseen]
  | cons game rest ih =>
    rw [List.cons_append, unseen, unseen]
    split
    next h =>
      rw [ih]
      congr 1
      refine unseen_congr (fun id => ?_) later
      simp only [List.mem_append, List.map_cons, List.mem_cons]
      grind
    next =>
      rw [ih, List.cons_append]
      congr 2
      refine unseen_congr (fun id => ?_) later
      simp only [List.mem_append, List.map_cons, List.mem_cons]
      grind

/-- The games of several boards, with the first of each identifier kept. -/
structure UnionOf (boards : List (List Game)) (games : List Game) : Prop where
  keepsFirst : KeepsFirst boards.flatten games
  nodup : (games.map Game.id).Nodup
  mem_iff : ∀ id, id ∈ games.map Game.id ↔ ∃ board ∈ boards, id ∈ board.map Game.id

theorem unionOf_firstOfEachId (boards : List (List Game)) :
    UnionOf boards (firstOfEachId boards.flatten) where
  keepsFirst := keepsFirst_firstOfEachId _
  nodup := nodup_ids_unseen [] _
  mem_iff id := by
    rw [firstOfEachId, mem_ids_unseen, List.map_flatten, List.mem_flatten]
    simp

end Game

/-! ## Asking day by day -/

namespace Feed.Client

variable {σ : Type} {client : Client} {link : Link σ} {league : League} {first last day : Date}
  {s t u : σ}

/-- From one state to another, the scoreboards of some days are asked for in turn, with these
answers. -/
inductive Asks (client : Client) (link : Link σ) (league : League) :
    σ → List (Date × Except FeedError (List Game)) → σ → Prop
  | nothing (s : σ) : Asks client link league s [] s
  | next {s t u : σ} {day : Date} {answer : Except FeedError (List Game)}
    {rest : List (Date × Except FeedError (List Game))}
    (h : client.ask link (.scoreboard league (.forDate day)) s = (answer, t))
    (more : Asks client link league t rest u) : Asks client link league s ((day, answer) :: rest) u

/-- The scoreboards of the given days are asked for once each and in order, up to the first that
fails. -/
inductive Visits (client : Client) (link : Link σ) (league : League) (days : List Date) (s : σ) :
    Except FeedError (List (List Game)) → σ → Prop
  /-- No day fails. -/
  | all {boards : List (List Game)} {t : σ} (length : boards.length = days.length)
    (asks : client.Asks link league s (days.zip (boards.map .ok)) t) :
    Visits client link league days s (.ok boards) t
  /-- A day fails, and none before it; the days after it are not asked for. -/
  | upTo {before later : List Date} {day : Date} {boards : List (List Game)} {e : FeedError} {t : σ}
    (split : days = before ++ day :: later) (length : boards.length = before.length)
    (asks : client.Asks link league s (before.zip (boards.map .ok) ++ [(day, .error e)]) t) :
    Visits client link league days s (.error e) t

theorem Visits.nothing (s : σ) : client.Visits link league [] s (.ok []) s :=
  .all rfl (.nothing s)

theorem Visits.failed {e : FeedError} (later : List Date)
    (h : client.ask link (.scoreboard league (.forDate day)) s = (.error e, t)) :
    client.Visits link league (day :: later) s (.error e) t :=
  .upTo (show day :: later = [] ++ day :: later from rfl)
    (show ([] : List (List Game)).length = _ from rfl) (.next h (.nothing t))

theorem Visits.next {later : List Date} {board : List Game}
    {answer : Except FeedError (List (List Game))}
    (h : client.ask link (.scoreboard league (.forDate day)) s = (.ok board, t))
    (more : client.Visits link league later t answer u) :
    client.Visits link league (day :: later) s (answer.map (board :: ·)) u := by
  cases more with
  | all length asks => exact .all (congrArg (· + 1) length) (.next h asks)
  | @upTo before _ _ boards _ _ split length asks =>
    exact .upTo (show day :: later = (day :: before) ++ _ by rw [split]; rfl)
      (show (board :: boards).length = _ from congrArg (· + 1) length) (.next h asks)

/-- A single day that is visited is asked for. -/
theorem Visits.ask_eq {answer : Except FeedError (List (List Game))}
    (h : client.Visits link league [day] s answer t) :
    ∃ board, client.ask link (.scoreboard league (.forDate day)) s = (board, t) ∧
      answer = board.map ([·]) := by
  cases h with
  | all length asks =>
    obtain ⟨board, rfl⟩ := List.length_eq_one_iff.1 length
    obtain _ | @⟨_, _, _, _, _, _, hask, ⟨⟩⟩ := asks
    exact ⟨_, hask, rfl⟩
  | @upTo before _ _ boards _ _ split length asks =>
    cases before with
    | nil =>
      obtain rfl := List.eq_nil_of_length_eq_zero length
      obtain ⟨rfl, -⟩ := List.cons.inj split
      obtain _ | @⟨_, _, _, _, _, _, hask, ⟨⟩⟩ := asks
      exact ⟨_, hask, rfl⟩
    | cons => simp at split

theorem days_of_lt (h : last.number < day.number) (seen : List String) :
    client.days link league last day seen = pure [] := by
  rw [days, if_neg (by omega)]

/-- The day on which the loop stands is asked for, and then the days after it; after the last day
of all there is none. -/
theorem days_of_le (hlast : last.number ≤ Date.last.number) (h : day.number ≤ last.number)
    (seen : List String) :
    client.days link league last day seen = (do
      let board ← client.ask link (.scoreboard league (.forDate day))
      let later ← client.days link league last (day.addDays 1) (seen ++ board.map Game.id)
      pure (Game.unseen seen board ++ later)) := by
  rw [days, if_pos h, ask, bind_assoc]
  refine congrArg _ (funext fun page => ?_)
  rw [pure_bind]
  split
  next hnone =>
    have hend : last.number < (day.addDays 1).number := by
      by_contra hmore
      rw [Date.number_addDays] at hmore
      have hnext : day.next? = some (day.addDays 1) := Date.next?_of_lt (by omega) hlast
      cases hnone.symm.trans hnext
    rw [days_of_lt hend, pure_bind, List.append_nil]
  next next hnext =>
    obtain rfl := Date.eq_of_next? hnext
    rfl

/-- What the loop over days has seen so far decides which games it gives, and nothing else. -/
theorem exists_visits_days (hlast : last.number ≤ Date.last.number) (day : Date)
    (seen : List String) (s : σ) :
    ∃ answer t, client.Visits link league (day.range last) s answer t ∧
      client.days link league last day seen s =
        (answer.map fun boards => Game.unseen seen boards.flatten, t) := by
  -- by the number of days that are left
  induction hn : (last.number + 1 - day.number).toNat generalizing day seen s with
  | zero =>
    have hend : last.number < day.number := by omega
    rw [Date.range_of_lt hend, days_of_lt hend]
    exact ⟨.ok [], s, .nothing s, rfl⟩
  | succ n ih =>
    have hday : day.number ≤ last.number := by omega
    rw [Date.range_of_le hday, days_of_le hlast hday]
    rcases hboard : client.ask link (.scoreboard league (.forDate day)) s with ⟨e | board, t⟩
    · exact ⟨.error e, t, .failed _ hboard, Action.bind_of_error hboard _⟩
    · obtain ⟨answer, u, hvisits, hdays⟩ := ih (day.addDays 1) (seen ++ board.map Game.id) t
        (by rw [Date.number_addDays]; omega)
      refine ⟨answer.map (board :: ·), u, .next hboard hvisits, ?_⟩
      rw [Action.bind_of_ok hboard]
      cases answer with
      | error e => exact Action.bind_of_error hdays _
      | ok boards =>
        rw [Action.bind_of_ok hdays, Action.pure_apply]
        simp only [Except.map, List.flatten_cons, Game.unseen_append]

/-- **Each day of a span is visited once, and each game is kept once.** The days from the first to
the last, the last day of all included, are those between the two in order. Their scoreboards are
asked for one after the other, up to the first that fails, and its failure is the outcome. If none
fails, the outcome is the games of all boards in order, with the first of each identifier kept.
Where the last day comes before the first, nothing is asked for and there are no games. -/
theorem days_are_visited_once (client : Client) (link : Link σ) (league : League)
    (first last : Date) (hlast : last.number ≤ Date.last.number) :
    (first.range last).Pairwise (fun a b => a.number < b.number) ∧
    (∀ day, day ∈ first.range last ↔ first.number ≤ day.number ∧ day.number ≤ last.number) ∧
    (∀ s, ∃ answer t, client.Visits link league (first.range last) s answer t ∧
      ((∃ e, answer = .error e ∧
          client.ask link (.dateRange league first last) s = (.error e, t)) ∨
        ∃ boards games, answer = .ok boards ∧
          client.ask link (.dateRange league first last) s = (.ok games, t) ∧
          Game.UnionOf boards games)) ∧
    (last.number < first.number → ∀ s,
      client.ask link (.dateRange league first last) s = (.ok [], s)) := by
  refine ⟨first.pairwise_run _, fun day => Date.mem_range, fun s => ?_, fun h s => ?_⟩
  · obtain ⟨answer, t, hvisits, hdays⟩ := exists_visits_days hlast first [] s
    refine ⟨answer, t, hvisits, ?_⟩
    cases answer with
    | error e => exact .inl ⟨e, rfl, hdays⟩
    | ok boards => exact .inr ⟨boards, _, rfl, hdays, Game.unionOf_firstOfEachId boards⟩
  · rw [ask, days_of_lt h]
    rfl

/-- On the last day of all there is one game. The day is asked for once, and there is no day after
it. -/
theorem last_day_is_visited_once :
    let page := "\x7b\"events\":[\x7b\"id\":\"401\",\"date\":\"2024-10-06T17:00Z\"," ++
      "\"competitions\":[\x7b\"competitors\":[\x7b\"homeAway\":\"home\"\x7d,\x7b\x7d]\x7d]\x7d]\x7d"
    let link : Link (List Http.Request) :=
      { send := fun request sent => (.ok { status := 200, body := page }, sent ++ [request])
        isStopped := fun _ => false
        now := fun _ => .epoch }
    let client : Client := { base := "http://host", userAgent := "agent", maxRetries := 2 }
    Date.last.number ≤ Date.last.number ∧
      ∃ games sent, client.ask link (.dateRange .nfl Date.last Date.last) [] = (.ok games, sent) ∧
        games.map Game.id = ["401"] ∧
        sent.map (·.url) = ["http://host/football/nfl/scoreboard?dates=%2B2621421231"] := by
  intro page link client
  have hasked : (client.ask link (.scoreboard .nfl (.forDate Date.last)) []).map
      (fun board => board.toOption.map (·.map Game.id)) (·.map (·.url)) =
        (some ["401"], ["http://host/football/nfl/scoreboard?dates=%2B2621421231"]) := by
    decide +kernel
  have hrange : Date.last.range Date.last = [Date.last] := by
    rw [Date.range_of_le (Int.le_refl _), Date.range_of_lt (by rw [Date.number_addDays]; omega)]
  obtain ⟨-, -, hvisits, -⟩ :=
    days_are_visited_once client link .nfl Date.last Date.last (Int.le_refl _)
  obtain ⟨answer, sent, visits, houtcome⟩ := hvisits []
  rw [hrange] at visits
  obtain ⟨board, hask, rfl⟩ := visits.ask_eq
  rw [hask] at hasked
  obtain ⟨hids, hsent⟩ := Prod.mk.inj hasked
  cases board with
  | error e => exact nomatch hids
  | ok board =>
    obtain ⟨_, hfailed, -⟩ | ⟨_, games, hboards, hgames, hunion⟩ := houtcome
    · exact nomatch hfailed
    · obtain rfl := Except.ok.inj hboards
      refine ⟨Int.le_refl _, games, sent, hgames, ?_, hsent⟩
      have hids' : board.map Game.id = ["401"] := Option.some.inj hids
      rw [hunion.keepsFirst.ids, List.flatten_singleton, hids']
      rfl

end Feed.Client

end SquarePool
