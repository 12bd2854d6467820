import Mathlib.Data.List.Perm.Basic
import Mathlib.Data.List.ProdSigma
import SquarePool.Proofs.Payout.Draws

/-!
# Fairness of a board

Where both draws pass, the place of a digit is a bijection from the digits to the ten columns, or to
the ten rows, and every square covers equally many of the hundred places. Main statement: each pair
of scores wins a square of the board that depends on their last digits alone, and each square is won
by equally many of the hundred pairs of digits.
-/

namespace SquarePool

theorem product_map_map {α β γ δ : Type} (f : α → γ) (g : β → δ) (as : List α) (bs : List β) :
    (as.map f).product (bs.map g) = (as.product bs).map (Prod.map f g) := by
  simp [List.product, List.flatMap_map, List.map_flatMap, Function.comp_def]

namespace Draw

variable {numbers : List Int}

/-- The hundred pairs of digits, home first. -/
def pairs : List (Int × Int) := digits.product digits

theorem mem_pairs {pair : Int × Int} : pair ∈ pairs ↔ pair.1 ∈ digits ∧ pair.2 ∈ digits :=
  List.pair_mem_product

/-- The ten digits take the ten places of a draw, each its own. -/
theorem map_idxOf_digits_perm (h : validate numbers = .ok ()) :
    (digits.map numbers.idxOf).Perm (List.range 10) := by
  have hperm : numbers.Perm digits := validate_eq_ok_iff.1 h
  have unique : numbers.Nodup := hperm.nodup_iff.2 (by decide)
  have hplaces : numbers.map numbers.idxOf = List.range 10 := by
    apply List.ext_getElem
    · simp [hperm.length_eq, digits]
    · intro place hplace _
      rw [List.length_map] at hplace
      simp [unique.idxOf_getElem place hplace]
  rw [← hplaces]
  exact hperm.symm.map _

end Draw

namespace Board

variable {board : Board} {home away : List Int} {square column row : Nat}

/-- How many pairs of places share a square. -/
def share : Board → Nat
  | std100 | roll100 => 1
  | std50 => 2
  | std25 => 4

theorem share_eq (board : Board) : board.share = 100 / board.squares := by
  cases board <;> rfl

/-- Every place lies on a square of the board. -/
theorem squareAt_mem (hcolumn : column < 10) (hrow : row < 10) :
    1 ≤ board.squareAt column row ∧ board.squareAt column row ≤ board.squares := by
  cases board with
  | std100 | roll100 | std50 | std25 =>
    simp only [squareAt, squares]
    omega

/-- The places of the board, column first. -/
def places : List (Nat × Nat) := (List.range 10).product (List.range 10)

/-- Every square covers equally many places. -/
theorem countP_squareAt (hlow : 1 ≤ square) (hhigh : square ≤ board.squares) :
    places.countP (fun place => board.squareAt place.1 place.2 = square) = board.share := by
  have hall : ∀ square ∈ List.range' 1 board.squares,
      places.countP (fun place => board.squareAt place.1 place.2 = square) = board.share := by
    cases board <;> decide +kernel
  apply hall
  rw [List.mem_range'_1]
  omega

section Valid

variable (hhome : Draw.validate home = .ok ()) (haway : Draw.validate away = .ok ())

include hhome haway

/-- Each square is won by as many pairs of digits as it covers places. -/
theorem countP_winner? (hlow : 1 ≤ square) (hhigh : square ≤ board.squares) :
    Draw.pairs.countP (fun pair => board.winner? pair.1 pair.2 home away = some square) =
      board.share := by
  -- each digit is counted at its place instead, and the places are all of the board's
  let place : Int × Int → Nat × Nat := Prod.map home.idxOf away.idxOf
  have hplace : ∀ pair ∈ Draw.pairs, board.winner? pair.1 pair.2 home away = some square ↔
      board.squareAt (place pair).1 (place pair).2 = square := by
    intro pair hpair
    obtain ⟨hdigit, hdigit'⟩ := Draw.mem_pairs.1 hpair
    have hwinner := (winner?_of_validate hhome haway board
      (Draw.mem_digits.1 hdigit).1 (Draw.mem_digits.1 hdigit').1).1
    rw [hwinner, lastDigit_of_mem_digits hdigit, lastDigit_of_mem_digits hdigit',
      Option.some.injEq]
    rfl
  have hperm : (Draw.pairs.map place).Perm places := by
    rw [Draw.pairs, ← product_map_map]
    exact (Draw.map_idxOf_digits_perm hhome).product (Draw.map_idxOf_digits_perm haway)
  calc Draw.pairs.countP (fun pair => board.winner? pair.1 pair.2 home away = some square)
    _ = Draw.pairs.countP
          ((fun p : Nat × Nat => decide (board.squareAt p.1 p.2 = square)) ∘ place) := by
        refine List.countP_congr fun pair hpair => ?_
        simpa using hplace pair hpair
    _ = (Draw.pairs.map place).countP (fun p => board.squareAt p.1 p.2 = square) := by
        rw [List.countP_map]
    _ = places.countP (fun p => board.squareAt p.1 p.2 = square) := hperm.countP_eq _
    _ = board.share := countP_squareAt hlow hhigh

end Valid

/-- **Every score lands on the board, and the board is fair.** Where both draws pass, two scores
that are not negative win a square of the board, which depends on their last digits alone, and among
the hundred pairs of digits each square is won equally often. -/
theorem every_score_lands_and_squares_are_fair (hhome : Draw.validate home = .ok ())
    (haway : Draw.validate away = .ok ()) (board : Board) :
    (∀ homeScore awayScore : Int, 0 ≤ homeScore → 0 ≤ awayScore →
      ∃ square, board.winner? homeScore awayScore home away = some square ∧
        1 ≤ square ∧ square ≤ board.squares) ∧
    (∀ homeScore awayScore homeScore' awayScore' : Int,
      0 ≤ homeScore → 0 ≤ awayScore → 0 ≤ homeScore' → 0 ≤ awayScore' →
      homeScore % 10 = homeScore' % 10 → awayScore % 10 = awayScore' % 10 →
      board.winner? homeScore awayScore home away =
        board.winner? homeScore' awayScore' home away) ∧
    (∀ square, 1 ≤ square → square ≤ board.squares →
      Draw.pairs.countP (fun pair => board.winner? pair.1 pair.2 home away = some square) =
        board.share) ∧
    board.share = 100 / board.squares := by
  refine ⟨?lands, ?digits, ?fair, board.share_eq⟩
  case lands =>
    intro homeScore awayScore h h'
    obtain ⟨hwinner, hcolumn, hrow⟩ := winner?_of_validate hhome haway board h h'
    exact ⟨_, hwinner, squareAt_mem hcolumn hrow⟩
  case digits =>
    intro homeScore awayScore homeScore' awayScore' h₁ h₂ h₃ h₄ hsame hsame'
    rw [winner?, winner?, lastDigit_congr h₁ h₃ hsame, lastDigit_congr h₂ h₄ hsame']
  case fair =>
    intro square hlow hhigh
    exact countP_winner? hhome haway hlow hhigh

/-- The two draws of a grid of twenty-five squares. The score of 27 to 14 wins square 15, as 7 to 4
does, and so do four of the hundred pairs of digits. -/
theorem board_of_25_is_fair :
    let home : List Int := [3, 1, 4, 0, 5, 9, 2, 6, 8, 7]
    let away : List Int := [7, 0, 9, 2, 1, 4, 8, 3, 5, 6]
    Draw.validate home = .ok () ∧ Draw.validate away = .ok () ∧
      Board.std25.winner? 27 14 home away = some 15 ∧
      Board.std25.winner? 27 14 home away = Board.std25.winner? 7 4 home away ∧
      Draw.pairs.countP
        (fun pair => Board.std25.winner? pair.1 pair.2 home away = some 15) = 4 := by
  intro home away
  have hhome : Draw.validate home = .ok () := by rfl
  have haway : Draw.validate away = .ok () := by rfl
  obtain ⟨-, digits, fair, -⟩ := every_score_lands_and_squares_are_fair hhome haway .std25
  refine ⟨hhome, haway, by decide, ?_, fair 15 (by decide) (by decide)⟩
  exact digits 27 14 7 4 (by decide) (by decide) (by decide) (by decide) (by decide) (by decide)

end Board

end SquarePool
