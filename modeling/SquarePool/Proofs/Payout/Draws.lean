import Mathlib.Data.List.Nodup
import Mathlib.Data.List.Perm.Subperm
import SquarePool.Board
import SquarePool.Payout

/-!
# Draws

A list of numbers passes for a draw when it is the ten digits in some order. Main statements: the
first number that breaks a draw is the one that is reported; where both draws pass, every pair of
scores has a square, on every board.
-/

namespace SquarePool

namespace Draw

/-- The ten digits, in order. -/
def digits : List Int := [0, 1, 2, 3, 4, 5, 6, 7, 8, 9]

theorem mem_digits {n : Int} : n ∈ digits ↔ 0 ≤ n ∧ n ≤ 9 := by
  simp only [digits, List.mem_cons, List.not_mem_nil, or_false]
  omega

/-- Numbers pass when they are digits, and none of them is there twice or was seen before. -/
theorem check_eq_ok_iff {seen numbers : List Int} :
    check seen numbers = .ok () ↔ (∀ n ∈ numbers, n ∈ digits ∧ n ∉ seen) ∧ numbers.Nodup := by
  induction numbers generalizing seen with
  | nil => simp [check]
  | cons n rest ih =>
    by_cases hrange : n < 0 ∨ 9 < n
    · have hn : n ∉ digits := by
        rw [mem_digits]
        omega
      simp [check, hrange, hn]
    · by_cases hseen : n ∈ seen
      · simp [check, hrange, hseen]
      · have hn : n ∈ digits := mem_digits.2 (by omega)
        rw [check, if_neg hrange, if_neg hseen, ih, List.nodup_cons, List.forall_mem_cons]
        simp only [List.mem_cons, not_or]
        constructor
        · rintro ⟨fresh, unique⟩
          refine ⟨⟨⟨hn, hseen⟩, fun m hm => ⟨(fresh m hm).1, (fresh m hm).2.2⟩⟩, ?_, unique⟩
          exact fun hm => (fresh n hm).2.1 rfl
        · rintro ⟨⟨-, fresh⟩, hnew, unique⟩
          refine ⟨fun m hm => ⟨(fresh m hm).1, ?_, (fresh m hm).2⟩, unique⟩
          rintro rfl
          exact hnew hm

/-- Ten numbers, all of them digits and no two the same, are the ten digits. -/
theorem perm_digits_iff {numbers : List Int} :
    numbers.Perm digits ↔
      numbers.length = 10 ∧ (∀ n ∈ numbers, n ∈ digits) ∧ numbers.Nodup := by
  have unique : digits.Nodup := by decide
  constructor
  · intro h
    exact ⟨h.length_eq, fun n hn => h.mem_iff.1 hn, h.nodup_iff.2 unique⟩
  · rintro ⟨hlen, hsub, hnodup⟩
    have hle : digits.length ≤ numbers.length := by simp [digits, hlen]
    exact (List.subperm_of_subset hnodup hsub).perm_of_length_le hle

/-- **What passes for a draw** is the ten digits in some order. -/
theorem validate_eq_ok_iff {numbers : List Int} :
    validate numbers = .ok () ↔ numbers.Perm digits := by
  have hmap : ∀ r : Except BadNumbers Unit,
      r.mapError Invalid.numbers = .ok () ↔ r = .ok () := by
    rintro (problem | _)
    · exact ⟨nofun, nofun⟩
    · exact ⟨fun _ => rfl, fun _ => rfl⟩
  rw [perm_digits_iff]
  by_cases hlen : numbers.length = 10
  · rw [validate, if_neg (by simp [hlen]), hmap, check_eq_ok_iff]
    simp [hlen]
  · simp [validate, hlen]

/-! ## The first fault -/

/-- The number at a place is no digit, or is among the numbers seen before it. -/
def FaultAt (seen numbers : List Int) (place : Nat) (n : Int) : Prop :=
  numbers[place]? = some n ∧ (n ∉ digits ∨ n ∈ seen ++ numbers.take place)

/-- The first number that is no digit or was seen before, and its place. -/
def FirstFault (seen numbers : List Int) (place : Nat) (n : Int) : Prop :=
  FaultAt seen numbers place n ∧ ∀ earlier < place, ∀ m, ¬FaultAt seen numbers earlier m

/-- What is wrong with a number at which a check stops. -/
def faultOf (n : Int) : BadNumbers := if n ∈ digits then .repeated n else .outOfRange n

variable {seen rest : List Int} {m n : Int} {place : Nat}

theorem faultAt_cons_zero : FaultAt seen (m :: rest) 0 n ↔ n = m ∧ (m ∉ digits ∨ m ∈ seen) := by
  simp only [FaultAt, List.getElem?_cons_zero, Option.some.injEq, List.take_zero, List.append_nil]
  constructor
  · rintro ⟨rfl, h⟩
    exact ⟨rfl, h⟩
  · rintro ⟨rfl, h⟩
    exact ⟨rfl, h⟩

theorem faultAt_cons_succ :
    FaultAt seen (m :: rest) (place + 1) n ↔ FaultAt (m :: seen) rest place n := by
  have hmem : n ∈ seen ++ m :: rest.take place ↔ n ∈ m :: seen ++ rest.take place :=
    List.perm_middle.mem_iff
  rw [FaultAt, FaultAt, List.getElem?_cons_succ, List.take_succ_cons, hmem]

theorem firstFault_cons_zero :
    FirstFault seen (m :: rest) 0 n ↔ n = m ∧ (m ∉ digits ∨ m ∈ seen) := by
  simp [FirstFault, faultAt_cons_zero]

/-- A fault behind the first number is the first one when that number is a new digit. -/
theorem firstFault_cons_succ :
    FirstFault seen (m :: rest) (place + 1) n ↔
      (m ∈ digits ∧ m ∉ seen) ∧ FirstFault (m :: seen) rest place n := by
  rw [FirstFault, FirstFault, faultAt_cons_succ]
  constructor
  · rintro ⟨fault, first⟩
    have hm := first 0 (Nat.succ_pos _) m
    rw [faultAt_cons_zero] at hm
    refine ⟨by simpa using hm, fault, fun earlier h k => ?_⟩
    exact fun hk => first (earlier + 1) (Nat.succ_lt_succ h) k (faultAt_cons_succ.2 hk)
  · rintro ⟨⟨hdigit, hnew⟩, fault, first⟩
    refine ⟨fault, fun earlier h k hk => ?_⟩
    cases earlier with
    | zero => exact (faultAt_cons_zero.1 hk).2.elim (absurd hdigit) hnew
    | succ earlier => exact first earlier (Nat.lt_of_succ_lt_succ h) k (faultAt_cons_succ.1 hk)

/-- A check stops at the first fault, and only there. -/
theorem check_eq_error_iff {numbers : List Int} {fault : BadNumbers} :
    check seen numbers = .error fault ↔
      ∃ place n, FirstFault seen numbers place n ∧ fault = faultOf n := by
  induction numbers generalizing seen with
  | nil => simp [check, FirstFault, FaultAt]
  | cons m rest ih =>
    rw [← Nat.or_exists_add_one]
    simp only [firstFault_cons_zero, firstFault_cons_succ]
    by_cases hdigit : m ∈ digits
    · have hrange : ¬(m < 0 ∨ 9 < m) := by
        have := mem_digits.1 hdigit
        omega
      by_cases hseen : m ∈ seen
      · simp [check, hrange, hdigit, hseen, faultOf, eq_comm]
      · simp [check, hrange, hdigit, hseen, ih]
    · have hrange : m < 0 ∨ 9 < m := by
        by_contra h
        exact hdigit (mem_digits.2 (by omega))
      simp [check, hrange, hdigit, faultOf, eq_comm]

theorem validate_eq_error_iff {numbers : List Int} (h : numbers.length = 10) {problem : Invalid} :
    validate numbers = .error problem ↔
      ∃ place n, FirstFault [] numbers place n ∧ problem = .numbers (faultOf n) := by
  have hmap : (check [] numbers).mapError Invalid.numbers = .error problem ↔
      ∃ fault, check [] numbers = .error fault ∧ problem = .numbers fault := by
    cases check [] numbers <;> simp [Except.mapError, eq_comm]
  rw [validate, if_neg (by simp [h]), hmap]
  simp only [check_eq_error_iff]
  constructor
  · rintro ⟨fault, ⟨place, n, first, rfl⟩, rfl⟩
    exact ⟨place, n, first, rfl⟩
  · rintro ⟨place, n, first, rfl⟩
    exact ⟨_, ⟨place, n, first, rfl⟩, rfl⟩

/-- What is said about a number at which a check stops. -/
theorem message_faultOf (n : Int) :
    (Invalid.numbers (faultOf n)).message = "invalid numbers: " ++ (toString n ++
      if n ∈ digits then " appears twice" else " is out of range") := by
  rw [faultOf]
  split
  · rfl
  · rfl

/-- **The draws are the orders of the digits.** A list passes when it is the ten digits in some
order, that is, when it has ten numbers, all of them digits and no two the same; every digit is then
there once. Of ten numbers that do not pass, the first that is no digit or is there before is the
one reported, with what is wrong with it. -/
theorem draws_are_orders_of_the_digits (numbers : List Int) :
    (validate numbers = .ok () ↔ numbers.Perm digits) ∧
    (validate numbers = .ok () ↔
      numbers.length = 10 ∧ (∀ n ∈ numbers, 0 ≤ n ∧ n ≤ 9) ∧ numbers.Nodup) ∧
    (validate numbers = .ok () → ∀ digit : Int, 0 ≤ digit → digit ≤ 9 → numbers.count digit = 1) ∧
    (numbers.length ≠ 10 → validate numbers = .error (.numbers (.wrongCount numbers.length))) ∧
    (numbers.length = 10 → ∀ problem, validate numbers = .error problem ↔
      ∃ place n, FirstFault [] numbers place n ∧ problem = .numbers (faultOf n) ∧
        problem.message = "invalid numbers: " ++ (toString n ++
          if 0 ≤ n ∧ n ≤ 9 then " appears twice" else " is out of range")) := by
  refine ⟨validate_eq_ok_iff, ?_, ?_, ?_, ?_⟩
  · rw [validate_eq_ok_iff, perm_digits_iff]
    simp only [mem_digits]
  · intro h digit hlow hhigh
    rw [(validate_eq_ok_iff.1 h).count_eq]
    exact List.count_eq_one_of_mem (by decide) (mem_digits.2 ⟨hlow, hhigh⟩)
  · intro h
    rw [validate, if_pos h]
  · intro h problem
    simp only [validate_eq_error_iff h, ← mem_digits]
    constructor
    · rintro ⟨place, n, first, rfl⟩
      exact ⟨place, n, first, rfl, message_faultOf n⟩
    · rintro ⟨place, n, first, same, -⟩
      exact ⟨place, n, first, same⟩

/-- Of ten numbers with a repeated 1 and, behind it, a 12, the repeated one is reported. -/
theorem repeated_one_is_reported :
    [3, 1, 4, 0, 5, 9, 2, 6, 8, 7].count (7 : Int) = 1 ∧
    validate [3, 1] = .error (.numbers (.wrongCount 2)) ∧
    FirstFault [] [3, 1, 4, 1, 5, 9, 2, 6, 12, 5] 3 1 ∧
    validate [3, 1, 4, 1, 5, 9, 2, 6, 12, 5] = .error (.numbers (.repeated 1)) := by
  have first : FirstFault [] [3, 1, 4, 1, 5, 9, 2, 6, 12, 5] 3 1 := by
    simp [firstFault_cons_succ, firstFault_cons_zero, digits]
  obtain ⟨-, -, hcount, -, -⟩ := draws_are_orders_of_the_digits [3, 1, 4, 0, 5, 9, 2, 6, 8, 7]
  obtain ⟨-, -, -, hlength, -⟩ := draws_are_orders_of_the_digits [3, 1]
  obtain ⟨-, -, -, -, hfault⟩ := draws_are_orders_of_the_digits [3, 1, 4, 1, 5, 9, 2, 6, 12, 5]
  exact ⟨hcount rfl 7 (by decide) (by decide), hlength (by decide), first,
    (hfault rfl _).2 ⟨3, 1, first, rfl, rfl⟩⟩

end Draw

namespace Board

theorem lastDigit_mem_digits {score : Int} (h : 0 ≤ score) : lastDigit score ∈ Draw.digits := by
  rw [Draw.mem_digits, lastDigit, Int.tmod_eq_emod_of_nonneg h]
  omega

theorem lastDigit_of_mem_digits {digit : Int} (h : digit ∈ Draw.digits) :
    lastDigit digit = digit := by
  rw [Draw.mem_digits] at h
  rw [lastDigit, Int.tmod_eq_emod_of_nonneg h.1]
  omega

/-- Scores that are not negative have their last digit in common with their remainders. -/
theorem lastDigit_congr {score score' : Int} (h : 0 ≤ score) (h' : 0 ≤ score')
    (same : score % 10 = score' % 10) : lastDigit score = lastDigit score' := by
  rw [lastDigit, lastDigit, Int.tmod_eq_emod_of_nonneg h, Int.tmod_eq_emod_of_nonneg h', same]

section Valid

variable {home away : List Int} (hhome : Draw.validate home = .ok ())
  (haway : Draw.validate away = .ok ()) (board : Board) {homeScore awayScore : Int}
  (h : 0 ≤ homeScore) (h' : 0 ≤ awayScore)

include hhome haway h h'

/-- Where both draws pass, the winner is the square at the places of the two last digits. -/
theorem winner?_of_validate :
    board.winner? homeScore awayScore home away =
      some (board.squareAt (home.idxOf (lastDigit homeScore)) (away.idxOf (lastDigit awayScore))) ∧
    home.idxOf (lastDigit homeScore) < 10 ∧ away.idxOf (lastDigit awayScore) < 10 := by
  rw [Draw.validate_eq_ok_iff] at hhome haway
  have hlength : home.length = 10 ∧ away.length = 10 := ⟨hhome.length_eq, haway.length_eq⟩
  have hcolumn : lastDigit homeScore ∈ home := hhome.mem_iff.2 (lastDigit_mem_digits h)
  have hrow : lastDigit awayScore ∈ away := haway.mem_iff.2 (lastDigit_mem_digits h')
  obtain ⟨column, hc⟩ := Option.isSome_iff_exists.1 (List.isSome_idxOf?.2 hcolumn)
  obtain ⟨row, hr⟩ := Option.isSome_iff_exists.1 (List.isSome_idxOf?.2 hrow)
  refine ⟨?_, ?_, ?_⟩
  · simp [winner?, hlength, List.idxOf_eq_getD_idxOf?, hc, hr]
  · rw [← hlength.1]
    exact List.idxOf_lt_length_iff.2 hcolumn
  · rw [← hlength.2]
    exact List.idxOf_lt_length_iff.2 hrow

/-- **Every pair of scores has a square** where both draws pass. -/
theorem exists_winner :
    ∃ square, board.winner? homeScore awayScore home away = some square :=
  ⟨_, (winner?_of_validate hhome haway board h h').1⟩

end Valid

end Board

end SquarePool
