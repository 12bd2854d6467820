import Mathlib.Data.List.Sort
import SquarePool.Proofs.Payout.Payable

/-!
# Wins on display

Under each square stand the periods that it has won, in the order in which a game reaches them.
Main statement: the list of a square is all of its periods whose score is known, each once and in
order, and the lists of all squares together are the winners of the game.
-/

namespace SquarePool

namespace Period

/-- Every period, in the order of display. -/
def displayed : List Period := [q1, half, q2, q3, final, all, q4]

/-- The period stands before another one on display. -/
def IsShownBefore (a b : Period) : Prop := a.displayRank < b.displayRank

instance : Std.Irrefl IsShownBefore where
  irrefl _ h := Nat.lt_irrefl _ h

instance : Std.Antisymm IsShownBefore where
  antisymm _ _ hab hba := absurd hab (Nat.lt_asymm hba)

theorem mem_displayed (period : Period) : period ∈ displayed := by
  cases period <;> decide

theorem pairwise_displayed : displayed.Pairwise IsShownBefore := by
  unfold IsShownBefore
  decide

theorem displayRank_injective {a b : Period} (h : a.displayRank = b.displayRank) : a = b := by
  cases a <;> cases b <;> first | rfl | exact absurd h (by decide)

/-- Periods in order are a part of the display. -/
theorem sublist_displayed {periods : List Period} (ordered : periods.Pairwise IsShownBefore) :
    periods.Sublist displayed := by
  have same : periods = displayed.filter (· ∈ periods) :=
    ordered.eq_of_mem_iff (pairwise_displayed.filter _) fun period => by simp [mem_displayed]
  rw [same]
  exact List.filter_sublist

end Period

/-- What is displayed of a period: its name, its score and the names of the teams. -/
structure Win.Tells (win : Win) (progress : Progress) (league : League)
    (homeName awayName : String) : Prop where
  labelled : win.label = win.period.longLabel
  scored : progress.scoreThrough league win.period = (some win.homeScore, some win.awayScore)
  home : win.homeName = homeName
  away : win.awayName = awayName

theorem Progress.win?_eq_some_iff {progress : Progress} {league : League}
    {homeName awayName : String} {period : Period} {win : Win} :
    progress.win? league homeName awayName period = some win ↔
      win.period = period ∧ win.Tells progress league homeName awayName := by
  simp only [win?, Option.bind_eq_bind, Option.bind_eq_some_iff, Option.some.injEq]
  constructor
  · rintro ⟨homeScore, hhome, awayScore, haway, rfl⟩
    exact ⟨rfl, ⟨rfl, Prod.ext hhome haway, rfl, rfl⟩⟩
  · rintro ⟨rfl, ⟨labelled, scored, rfl, rfl⟩⟩
    obtain ⟨hhome, haway⟩ := Prod.mk.inj scored
    exact ⟨_, hhome, _, haway, by rw [← labelled]⟩

namespace Winners

variable {progress : Progress} {league : League} {payout : Payout} {board : Board}
  {home away : List Int} {sets : List NumberSet} {homeName awayName : String} {winners : Winners}
  {square : Nat} {period : Period} {win : Win}

/-! ## One square -/

/-- A square is shown the periods that it has won and whose two scores are known. -/
theorem mem_winsOf_iff :
    win ∈ winners.winsOf square progress league homeName awayName ↔
      (win.period, square) ∈ winners ∧ win.Tells progress league homeName awayName := by
  simp only [winsOf, List.mem_mergeSort, List.mem_filterMap, List.mem_filter, decide_eq_true_eq,
    Progress.win?_eq_some_iff]
  constructor
  · rintro ⟨⟨period, owner⟩, ⟨won, rfl⟩, rfl, tells⟩
    exact ⟨won, tells⟩
  · rintro ⟨won, tells⟩
    exact ⟨(win.period, square), ⟨won, rfl⟩, rfl, tells⟩

/-- The periods that have a win are those of the table that are scored. -/
theorem map_period_filterMap_win? (won : Winners) :
    (won.filterMap fun w => progress.win? league homeName awayName w.1).map Win.period =
      (won.map Prod.fst).filter fun period =>
        (progress.win? league homeName awayName period).isSome := by
  induction won with
  | nil => rfl
  | cons first rest ih =>
    cases h : progress.win? league homeName awayName first.1 with
    | none => simp [h, ih]
    | some win => simp [h, ih, (Progress.win?_eq_some_iff.1 h).1]

/-- No period is shown twice. -/
theorem nodup_map_period_winsOf (unique : (winners.map Prod.fst).Nodup) :
    ((winners.winsOf square progress league homeName awayName).map Win.period).Nodup := by
  have hperm := (List.mergeSort_perm ((winners.filter (·.2 = square)).filterMap fun w =>
    progress.win? league homeName awayName w.1) fun a b =>
      decide (a.period.displayRank ≤ b.period.displayRank)).map Win.period
  have hsub : ((winners.filter (·.2 = square)).map Prod.fst).Sublist (winners.map Prod.fst) :=
    List.filter_sublist.map _
  refine hperm.nodup_iff.2 ?_
  rw [map_period_filterMap_win?]
  exact (unique.sublist hsub).filter _

/-- The periods of a square are shown in order. -/
theorem pairwise_winsOf (unique : (winners.map Prod.fst).Nodup) :
    (winners.winsOf square progress league homeName awayName).Pairwise fun a b =>
      a.period.displayRank < b.period.displayRank := by
  have sorted : (winners.winsOf square progress league homeName awayName).Pairwise fun a b =>
      decide (a.period.displayRank ≤ b.period.displayRank) = true :=
    List.pairwise_mergeSort (by simp; omega) (by simp; omega) _
  have distinct : (winners.winsOf square progress league homeName awayName).Pairwise
      fun a b => a.period ≠ b.period :=
    List.pairwise_map.1 (nodup_map_period_winsOf unique)
  refine (sorted.and distinct).imp ?_
  rintro a b ⟨hle, hne⟩
  exact Nat.lt_of_le_of_ne (of_decide_eq_true hle) fun same =>
    hne (Period.displayRank_injective same)

/-! ## All squares -/

/-- What has won is scored. -/
theorem exists_tells_of_mem (homeName awayName : String)
    (won : (period, square) ∈ ofProgress progress league payout board home away sets) :
    ∃ win : Win, win.period = period ∧ win.Tells progress league homeName awayName := by
  obtain ⟨homeScore, awayScore, _, _, decided, -⟩ := mem_ofProgress_iff.1 won
  exact ⟨⟨period, period.longLabel, homeScore, awayScore, homeName, awayName⟩, rfl,
    ⟨rfl, decided.scored, rfl, rfl⟩⟩

/-- A square is won that is on the board. -/
theorem square_mem_of_mem
    (won : (period, square) ∈ ofProgress progress league payout board home away sets) :
    1 ≤ square ∧ square ≤ board.squares := by
  obtain ⟨_, _, _, _, -, hwinner⟩ := mem_ofProgress_iff.1 won
  exact Board.winner?_mem hwinner

/-- The lists of all squares together, square by square. -/
def shown (winners : Winners) (board : Board) (progress : Progress) (league : League)
    (homeName awayName : String) : Winners :=
  (List.range' 1 board.squares).flatMap fun square =>
    (winners.winsOf square progress league homeName awayName).map fun win => (win.period, square)

theorem mem_shown_iff :
    (period, square) ∈ winners.shown board progress league homeName awayName ↔
      (1 ≤ square ∧ square ≤ board.squares) ∧ (period, square) ∈ winners ∧
        ∃ win : Win, win.period = period ∧ win.Tells progress league homeName awayName := by
  have hrange : square ∈ List.range' 1 board.squares ↔ 1 ≤ square ∧ square ≤ board.squares := by
    rw [List.mem_range'_1]
    omega
  rw [← hrange]
  simp only [shown, List.mem_flatMap, List.mem_map, mem_winsOf_iff, Prod.mk.injEq]
  constructor
  · rintro ⟨_, onBoard, win, ⟨won, tells⟩, rfl, rfl⟩
    exact ⟨onBoard, won, win, rfl, tells⟩
  · rintro ⟨onBoard, won, win, rfl, tells⟩
    exact ⟨square, onBoard, win, ⟨won, tells⟩, rfl, rfl⟩

/-- Nothing is shown twice. -/
theorem nodup_shown (unique : (winners.map Prod.fst).Nodup) :
    (winners.shown board progress league homeName awayName).Nodup := by
  refine List.nodup_flatMap.2 ⟨?within, ?across⟩
  case within =>
    intro square _
    refine List.Nodup.of_map Prod.fst ?_
    rw [List.map_map]
    exact nodup_map_period_winsOf unique
  case across =>
    refine (List.pairwise_lt_range' 1).imp ?_
    intro a b hlt entry ha hb
    obtain ⟨_, -, rfl⟩ := List.mem_map.1 ha
    obtain ⟨_, -, same⟩ := List.mem_map.1 hb
    exact Nat.ne_of_lt hlt (congrArg Prod.snd same).symm

/-- **Each win is shown once.** For any state of a game and any table of winners, the list of a
square is all of the periods that it has won and whose two scores are known, each with its name,
these scores and the given names of the teams; they stand in the order of display, none of them
twice. Where the winners are those of the game itself, whatever the payout, board and numbers, the
lists of the squares of the board are together all of its winners, each period once and under its
own square. Both sides add the scores in 32 bits (`Score.add`). -/
theorem every_win_is_shown_once (progress : Progress) (league : League)
    (homeName awayName : String) :
    (∀ (winners : Winners) (square : Nat), (winners.map Prod.fst).Nodup →
      let wins := winners.winsOf square progress league homeName awayName
      (∀ win, win ∈ wins ↔
        (win.period, square) ∈ winners ∧ win.Tells progress league homeName awayName) ∧
      wins.Pairwise (fun a b => a.period.displayRank < b.period.displayRank) ∧
      (wins.map Win.period).Sublist [.q1, .half, .q2, .q3, .final, .all, .q4]) ∧
    ∀ (payout : Payout) (board : Board) (home away : List Int) (sets : List NumberSet),
      let winners := ofProgress progress league payout board home away sets
      (winners.shown board progress league homeName awayName).Perm winners ∧
      (winners.map Prod.fst).Nodup := by
  refine ⟨?square, ?squares⟩
  case square =>
    intro winners square unique wins
    have ordered : wins.Pairwise fun a b => a.period.displayRank < b.period.displayRank :=
      pairwise_winsOf unique
    exact ⟨fun win => mem_winsOf_iff, ordered,
      Period.sublist_displayed (List.pairwise_map.2 ordered)⟩
  case squares =>
    intro payout board home away sets winners
    have unique : (winners.map Prod.fst).Nodup := nodup_map_fst_ofProgress
    refine ⟨(List.perm_ext_iff_of_nodup (nodup_shown unique) unique.of_map).2 ?_, unique⟩
    rintro ⟨period, square⟩
    rw [mem_shown_iff]
    exact ⟨fun h => h.2.1, fun won =>
      ⟨square_mem_of_mem won, won, exists_tells_of_mem homeName awayName won⟩⟩

/-- The first square has won four periods of a game that is over, and one of them was never scored.
The other three are shown, the fourth quarter last. Of the four quarters that are paid on, the game
itself has a winner for two. -/
theorem fourth_quarter_is_shown_last :
    let progress : Progress :=
      { status := .final, home := { total := some 20, lines := .ofEntries [some 10, none] }
        away := { total := some 20, lines := .ofEntries [some 10, some 0] } }
    let digits : List Int := [0, 1, 2, 3, 4, 5, 6, 7, 8, 9]
    let table : Winners := [(.all, 1), (.q1, 1), (.q4, 1), (.half, 1), (.final, 2)]
    let shownOf (period : Period) (score : Int) : Win :=
      ⟨period, period.longLabel, score, score, "Home", "Away"⟩
    let winners := ofProgress progress .nfl .quarters .std100 digits digits []
    (table.map Prod.fst).Nodup ∧
      table.winsOf 1 progress .nfl "Home" "Away" =
        [shownOf .q1 10, shownOf .all 20, shownOf .q4 20] ∧
      (shownOf .q4 20).Tells progress .nfl "Home" "Away" ∧
      winners = [(.q1, 1), (.q4, 1)] ∧
      (winners.shown .std100 progress .nfl "Home" "Away").Perm winners := by
  intro progress digits table shownOf winners
  have unique : (table.map Prod.fst).Nodup := by decide
  obtain ⟨square, squares⟩ := every_win_is_shown_once progress .nfl "Home" "Away"
  have wins : table.winsOf 1 progress .nfl "Home" "Away" =
      [shownOf .q1 10, shownOf .all 20, shownOf .q4 20] := by
    have found : (table.filter (·.2 = 1)).filterMap
        (fun won => progress.win? .nfl "Home" "Away" won.1) =
          [shownOf .all 20, shownOf .q1 10, shownOf .q4 20] := by decide
    rw [winsOf, found]
    simp [List.mergeSort, shownOf, Period.displayRank]
  have tells := ((square table 1 unique).1 (shownOf .q4 20)).1 (by rw [wins]; simp)
  exact ⟨unique, wins, tells.2, by decide, (squares .quarters .std100 digits digits []).1⟩

end Winners

end SquarePool
