import SquarePool.Proofs.Payout.Fairness
import SquarePool.Proofs.Payout.Winners

/-!
# Payable periods

Which periods of a game have a winner, whatever the lists of the grid are: draws or not, of any
length, with any numbers. Main statement: a period has a winner exactly if it is paid on, complete
and scored, and the lists that count for it are ten long and hold both last digits; then the winner
is the square at the first place of each. Sets that are drawn for other periods, sets on a standard
payout, and sets that lack a list decide nothing.
-/

namespace SquarePool

namespace Draw

/-- A number stands at a place of a list, and not before it. -/
structure FirstAt (numbers : List Int) (number : Int) (place : Nat) : Prop where
  here : numbers[place]? = some number
  first : number ∉ numbers.take place

theorem idxOf?_eq_some_iff {numbers : List Int} {number : Int} {place : Nat} :
    numbers.idxOf? number = some place ↔ FirstAt numbers number place := by
  rw [List.idxOf?_eq_some_iff]
  constructor
  · rintro ⟨hplace, hnumber, hfirst⟩
    refine ⟨by simp [hplace, hnumber], ?_⟩
    intro hmem
    obtain ⟨earlier, hearlier, hsame⟩ := List.mem_take_iff_getElem.1 hmem
    exact hfirst earlier (by omega) hsame
  · rintro ⟨here, first⟩
    obtain ⟨hplace, hnumber⟩ := List.getElem?_eq_some_iff.1 here
    refine ⟨hplace, hnumber, ?_⟩
    intro earlier hearlier hsame
    exact first (List.mem_take_iff_getElem.2 ⟨earlier, by omega, hsame⟩)

end Draw

namespace Board

variable {board : Board} {homeScore awayScore : Int} {home away : List Int} {square : Nat}

/-- A pair of scores wins the square at the first places of the two last digits. -/
theorem winner?_eq_some_iff :
    board.winner? homeScore awayScore home away = some square ↔
      (home.length = 10 ∧ away.length = 10) ∧ ∃ column row,
        Draw.FirstAt home (lastDigit homeScore) column ∧
        Draw.FirstAt away (lastDigit awayScore) row ∧ square = board.squareAt column row := by
  simp only [← Draw.idxOf?_eq_some_iff]
  unfold winner?
  by_cases hlength : home.length = 10 ∧ away.length = 10
  · rw [if_pos hlength]
    simp only [hlength, and_self, true_and, Option.bind_eq_bind, Option.bind_eq_some_iff,
      Option.some.injEq]
    constructor
    · rintro ⟨column, hcolumn, row, hrow, rfl⟩
      exact ⟨column, row, hcolumn, hrow, rfl⟩
    · rintro ⟨column, row, hcolumn, hrow, rfl⟩
      exact ⟨column, hcolumn, row, hrow, rfl⟩
  · simp [hlength]

/-- There is a winner where both lists are ten long and hold the last digits. -/
theorem isSome_winner?_iff :
    (∃ square, board.winner? homeScore awayScore home away = some square) ↔
      (home.length = 10 ∧ away.length = 10) ∧
        lastDigit homeScore ∈ home ∧ lastDigit awayScore ∈ away := by
  have hmem : ∀ {numbers : List Int} {number : Int},
      number ∈ numbers ↔ ∃ place, Draw.FirstAt numbers number place := by
    intro numbers number
    rw [← List.isSome_idxOf?, Option.isSome_iff_exists]
    simp only [Draw.idxOf?_eq_some_iff]
  simp only [winner?_eq_some_iff, hmem]
  constructor
  · rintro ⟨square, hlength, column, row, hcolumn, hrow, -⟩
    exact ⟨hlength, ⟨column, hcolumn⟩, ⟨row, hrow⟩⟩
  · rintro ⟨hlength, ⟨column, hcolumn⟩, ⟨row, hrow⟩⟩
    exact ⟨_, hlength, column, row, hcolumn, hrow, rfl⟩

/-- Lists that are no draws do not lead off the board. -/
theorem winner?_mem (h : board.winner? homeScore awayScore home away = some square) :
    1 ≤ square ∧ square ≤ board.squares := by
  obtain ⟨⟨hhome, haway⟩, column, row, hcolumn, hrow, rfl⟩ := winner?_eq_some_iff.1 h
  obtain ⟨hcolumn, -⟩ := List.getElem?_eq_some_iff.1 hcolumn.here
  obtain ⟨hrow, -⟩ := List.getElem?_eq_some_iff.1 hrow.here
  exact squareAt_mem (by omega) (by omega)

end Board

namespace Winners

variable {progress : Progress} {league : League} {payout : Payout} {board : Board}
  {home away homeNumbers awayNumbers : List Int} {sets sets' : List NumberSet} {period : Period}
  {square : Nat}

/-! ## The lists that count -/

/-- Both lists are drawn for a period itself. -/
def DrawnFor (sets : List NumberSet) (period : Period) (home away : List Int) : Prop :=
  ∃ set, setFor? sets period = some set ∧
    set.homeNumbers = some home ∧ set.awayNumbers = some away

/-- The two lists that count for a period: on any payout but the standard one those drawn for the
period, if both are, and otherwise those of the grid. -/
inductive Counts (payout : Payout) (home away : List Int) (sets : List NumberSet)
    (period : Period) : List Int → List Int → Prop where
  | own {homeNumbers awayNumbers : List Int} (multiple : payout ≠ .standard)
      (drawn : DrawnFor sets period homeNumbers awayNumbers) :
      Counts payout home away sets period homeNumbers awayNumbers
  | shared (notOwn : payout = .standard ∨ ∀ home away, ¬ DrawnFor sets period home away) :
      Counts payout home away sets period home away

theorem drawn?_eq_some_iff :
    (setFor? sets period).bind NumberSet.drawn? = some (homeNumbers, awayNumbers) ↔
      DrawnFor sets period homeNumbers awayNumbers := by
  simp only [DrawnFor, Option.bind_eq_some_iff]
  refine exists_congr fun set => and_congr_right fun _ => ?_
  unfold NumberSet.drawn?
  cases set.homeNumbers <;> cases set.awayNumbers <;> simp

/-- What counts is what scoring uses. -/
theorem counts_iff :
    Counts payout home away sets period homeNumbers awayNumbers ↔
      numbersFor payout home away sets period = (homeNumbers, awayNumbers) := by
  unfold numbersFor
  by_cases standard : payout = .standard
  · rw [if_pos standard]
    constructor
    · rintro (⟨multiple, -⟩ | -)
      · exact absurd standard multiple
      · rfl
    · intro h
      cases h
      exact .shared (.inl standard)
  · rw [if_neg standard]
    cases hdrawn : (setFor? sets period).bind NumberSet.drawn? with
    | none =>
      have notOwn : ∀ home away, ¬ DrawnFor sets period home away := by
        intro home away drawn
        rw [← drawn?_eq_some_iff, hdrawn] at drawn
        cases drawn
      constructor
      · rintro (⟨-, drawn⟩ | -)
        · exact absurd drawn (notOwn _ _)
        · rfl
      · intro h
        cases h
        exact .shared (.inr notOwn)
    | some pair =>
      obtain ⟨own, own'⟩ := pair
      have drawn : DrawnFor sets period own own' := drawn?_eq_some_iff.1 hdrawn
      constructor
      · rintro (⟨-, drawn'⟩ | notOwn)
        · rw [← drawn?_eq_some_iff, hdrawn] at drawn'
          exact Option.some.inj drawn'
        · rcases notOwn with standard' | notOwn
          · exact absurd standard' standard
          · exact absurd drawn (notOwn _ _)
      · intro h
        cases h
        exact .own standard drawn

/-! ## Which periods have a winner -/

/-- A period is paid on, complete and scored, and two lists of ten count for it. -/
structure Decided (progress : Progress) (league : League) (payout : Payout) (home away : List Int)
    (sets : List NumberSet) (period : Period) (homeScore awayScore : Int)
    (homeNumbers awayNumbers : List Int) : Prop where
  paid : period ∈ payout.periods
  complete : progress.isComplete league period = true
  scored : progress.scoreThrough league period = (some homeScore, some awayScore)
  counts : Counts payout home away sets period homeNumbers awayNumbers
  lengths : homeNumbers.length = 10 ∧ awayNumbers.length = 10

theorem winnerOf?_eq_some_iff :
    winnerOf? progress league payout board home away sets period = some square ↔
      progress.isComplete league period = true ∧ ∃ homeScore awayScore homeNumbers awayNumbers,
        progress.scoreThrough league period = (some homeScore, some awayScore) ∧
        Counts payout home away sets period homeNumbers awayNumbers ∧
        board.winner? homeScore awayScore homeNumbers awayNumbers = some square := by
  simp only [counts_iff, winnerOf?, Progress.scoreThrough, Prod.mk.injEq]
  by_cases complete : progress.isComplete league period = true
  · rw [if_pos complete]
    simp only [complete, true_and, Option.bind_eq_bind, Option.bind_eq_some_iff]
    constructor
    · rintro ⟨homeScore, hhome, awayScore, haway, hwinner⟩
      exact ⟨homeScore, awayScore, _, _, ⟨hhome, haway⟩, rfl, hwinner⟩
    · rintro ⟨homeScore, awayScore, homeNumbers, awayNumbers, ⟨hhome, haway⟩, hcounts, hwinner⟩
      refine ⟨homeScore, hhome, awayScore, haway, ?_⟩
      rw [hcounts]
      exact hwinner
  · simp [complete]

/-- The winner of a period is decided by the first places of the two last digits. -/
theorem mem_ofProgress_iff :
    (period, square) ∈ ofProgress progress league payout board home away sets ↔
      ∃ homeScore awayScore homeNumbers awayNumbers,
        Decided progress league payout home away sets period homeScore awayScore homeNumbers
          awayNumbers ∧
        board.winner? homeScore awayScore homeNumbers awayNumbers = some square := by
  rw [mem_ofProgress, winnerOf?_eq_some_iff]
  constructor
  · rintro ⟨paid, complete, homeScore, awayScore, homeNumbers, awayNumbers, scored, counts, hwinner⟩
    have lengths := (Board.winner?_eq_some_iff.1 hwinner).1
    exact ⟨homeScore, awayScore, homeNumbers, awayNumbers,
      ⟨paid, complete, scored, counts, lengths⟩, hwinner⟩
  · rintro ⟨homeScore, awayScore, homeNumbers, awayNumbers, decided, hwinner⟩
    exact ⟨decided.paid, decided.complete, homeScore, awayScore, homeNumbers, awayNumbers,
      decided.scored, decided.counts, hwinner⟩

/-! ## Sets that decide nothing -/

/-- On the periods that are paid on, the sets of two draws are the same, unless the payout is
standard or both draws lack a list. -/
def SameWhereItCounts (payout : Payout) (sets sets' : List NumberSet) : Prop :=
  ∀ period ∈ payout.periods, payout = .standard ∨
    setFor? sets' period = setFor? sets period ∨
    (∀ home away, ¬ DrawnFor sets period home away) ∧ ∀ home away, ¬ DrawnFor sets' period home away

theorem SameWhereItCounts.numbersFor (same : SameWhereItCounts payout sets sets')
    (paid : period ∈ payout.periods) (home away : List Int) :
    numbersFor payout home away sets' period = numbersFor payout home away sets period := by
  rcases same period paid with standard | same | ⟨undrawn, undrawn'⟩
  · simp [Winners.numbersFor, standard]
  · simp [Winners.numbersFor, same]
  · rw [counts_iff.1 (.shared (.inr undrawn)), counts_iff.1 (.shared (.inr undrawn'))]

theorem SameWhereItCounts.ofProgress (same : SameWhereItCounts payout sets sets') :
    ofProgress progress league payout board home away sets' =
      ofProgress progress league payout board home away sets := by
  unfold Winners.ofProgress
  refine List.filterMap_congr fun period paid => ?_
  simp only [winnerOf?, same.numbersFor paid]

/-- **The winners are exactly the payable periods.** For any state of a game, any payout and board,
any lists of the grid and any sets, the winners are a table from periods to squares. A period is in
it exactly if it is decided and the two lists that count hold the remainders of the two scores; its
square is on the board, at the first place of each. Exactly one pair of lists counts for a period,
and sets that differ only where they do not count have the same winners. The score of a period is
a sum of 32 bits (`Score.add`), so that no bound on the scores is asked for. -/
theorem winners_are_the_payable_periods (progress : Progress) (league : League) (payout : Payout)
    (board : Board) (home away : List Int) (sets : List NumberSet) :
    let winners := ofProgress progress league payout board home away sets
    (winners.map Prod.fst).Nodup ∧
    (∀ period, period ∈ winners.map Prod.fst ↔
      ∃ homeScore awayScore homeNumbers awayNumbers,
        Decided progress league payout home away sets period homeScore awayScore homeNumbers
          awayNumbers ∧
        homeScore.tmod 10 ∈ homeNumbers ∧ awayScore.tmod 10 ∈ awayNumbers) ∧
    (∀ period square, (period, square) ∈ winners →
      (1 ≤ square ∧ square ≤ board.squares) ∧
      ∃ homeScore awayScore homeNumbers awayNumbers column row,
        Decided progress league payout home away sets period homeScore awayScore homeNumbers
          awayNumbers ∧
        Draw.FirstAt homeNumbers (homeScore.tmod 10) column ∧
        Draw.FirstAt awayNumbers (awayScore.tmod 10) row ∧
        square = board.squareAt column row) ∧
    (∀ period, ∃! pair : List Int × List Int,
      Counts payout home away sets period pair.1 pair.2) ∧
    ∀ sets', SameWhereItCounts payout sets sets' →
      ofProgress progress league payout board home away sets' = winners := by
  intro winners
  refine ⟨nodup_map_fst_ofProgress, ?keys, ?squares, ?lists, fun _ same => same.ofProgress⟩
  case keys =>
    intro period
    have hkey : period ∈ winners.map Prod.fst ↔ ∃ square, (period, square) ∈ winners := by simp
    rw [hkey]
    constructor
    · rintro ⟨square, hmem⟩
      obtain ⟨homeScore, awayScore, homeNumbers, awayNumbers, decided, hwinner⟩ :=
        mem_ofProgress_iff.1 hmem
      have hdigits := (Board.isSome_winner?_iff.1 ⟨square, hwinner⟩).2
      exact ⟨homeScore, awayScore, homeNumbers, awayNumbers, decided, hdigits⟩
    · rintro ⟨homeScore, awayScore, homeNumbers, awayNumbers, decided, hdigits⟩
      have hwins : ∃ square,
          board.winner? homeScore awayScore homeNumbers awayNumbers = some square :=
        Board.isSome_winner?_iff.2 ⟨decided.lengths, hdigits⟩
      obtain ⟨square, hwinner⟩ := hwins
      exact ⟨square, mem_ofProgress_iff.2 ⟨_, _, _, _, decided, hwinner⟩⟩
  case squares =>
    intro period square hmem
    obtain ⟨homeScore, awayScore, homeNumbers, awayNumbers, decided, hwinner⟩ :=
      mem_ofProgress_iff.1 hmem
    obtain ⟨-, column, row, hcolumn, hrow, hsquare⟩ := Board.winner?_eq_some_iff.1 hwinner
    exact ⟨Board.winner?_mem hwinner, homeScore, awayScore, homeNumbers, awayNumbers, column, row,
      decided, hcolumn, hrow, hsquare⟩
  case lists =>
    intro period
    refine ⟨numbersFor payout home away sets period, counts_iff.2 rfl, ?_⟩
    rintro ⟨homeNumbers, awayNumbers⟩ counts
    exact (counts_iff.1 counts).symm

/-- Halftime at 14 to 13 on a grid whose lists are no draws: the columns have two fours. A set for
halftime that lacks a list decides as little as none at all. -/
theorem first_of_two_fours_wins :
    let progress : Progress :=
      { status := .inProgress, detail := some "Halftime", period := some 2
        home := { total := some 14, lines := .ofPeriods [7, 7] }
        away := { total := some 13, lines := .ofPeriods [3, 10] } }
    let home : List Int := [9, 4, 4, 0, 1, 2, 5, 6, 7, 8]
    let away : List Int := [0, 1, 2, 3, 4, 5, 6, 7, 8, 9]
    let halfDrawn : List NumberSet := [{ period := .half, homeNumbers := some away }]
    SameWhereItCounts .halves halfDrawn [] ∧
      ofProgress progress .nfl .halves .std100 home away [] = [(.half, 32)] ∧
      ofProgress progress .nfl .halves .std100 home away halfDrawn = [(.half, 32)] ∧
      Draw.FirstAt home 4 1 ∧ Draw.FirstAt away 3 3 := by
  intro progress home away halfDrawn
  have same : SameWhereItCounts .halves halfDrawn [] := by
    intro period paid
    refine .inr (.inr ⟨?_, ?_⟩)
    · rintro home away ⟨set, hset, -, haway⟩
      have hmem : set ∈ halfDrawn := List.mem_reverse.1 (List.mem_of_find?_eq_some hset)
      rw [List.mem_singleton.1 hmem] at haway
      cases haway
    · rintro home away ⟨set, hset, -⟩
      cases hset
  obtain ⟨-, -, -, -, insensitive⟩ :=
    winners_are_the_payable_periods progress .nfl .halves .std100 home away halfDrawn
  have hwinners : ofProgress progress .nfl .halves .std100 home away [] = [(.half, 32)] := by
    decide
  refine ⟨same, hwinners, ?_, ⟨rfl, by decide⟩, ⟨rfl, by decide⟩⟩
  rw [← insensitive [] same]
  exact hwinners

end Winners

end SquarePool
