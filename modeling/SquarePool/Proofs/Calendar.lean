import Mathlib.Algebra.GroupWithZero.Nat
import SquarePool.Calendar

/-!
# Days and their dates

Main statement: a day is found again from its civil date. The year of a day is found by a guess that
is at most one off, and the month by taking off one month after the other.
-/

namespace SquarePool

namespace Calendar

variable {number : Int} {lengths : List Nat} {rest : Nat}

/-! ## Years -/

theorem sum_monthLengths (leap : Bool) :
    ((monthLengths leap).sum : Int) = if leap then 366 else 365 := by
  cases leap <;> rfl

/-- A year has the days of its months. -/
theorem yearStart_succ (year : Int) :
    yearStart (year + 1) = yearStart year + (monthLengths (isLeap year)).sum := by
  have hleap : isLeap year = true ↔ year % 4 = 0 ∧ (year % 100 ≠ 0 ∨ year % 400 = 0) := by
    simp [isLeap]
  rw [sum_monthLengths]
  simp only [yearStart, hleap]
  split <;> omega

theorem yearStart_yearOf_le (number : Int) : yearStart (yearOf number) ≤ number := by
  simp only [yearOf]
  split
  next => simp only [yearStart]; omega
  next =>
    split
    next h => exact h
    next => omega

theorem lt_yearStart_yearOf (number : Int) : number < yearStart (yearOf number + 1) := by
  simp only [yearOf]
  split
  next h => simpa using h
  next =>
    split
    next => simp only [yearStart]; omega
    next => omega

/-- The day of the year, counted from zero, falls into one of its months. -/
theorem dayOfYear_lt (number : Int) :
    (number - yearStart (yearOf number)).toNat <
      (monthLengths (isLeap (yearOf number))).sum := by
  have hlow := yearStart_yearOf_le number
  have hhigh := lt_yearStart_yearOf number
  rw [yearStart_succ] at hhigh
  omega

/-! ## Months -/

/-- **Months are taken off** one after the other: what is found is a month and a day that it has,
and together with the months before it the day is the one that was looked for. -/
theorem exists_findMonth (month : Nat) (h : rest < lengths.sum) :
    ∃ before length day, findMonth month lengths rest = (month + before, day) ∧
      lengths[before]? = some length ∧ 1 ≤ day ∧ day ≤ length ∧
      (lengths.take before).sum + day = rest + 1 := by
  induction lengths generalizing month rest with
  | nil => simp at h
  | cons first lengths ih =>
    rw [List.sum_cons] at h
    by_cases hfirst : rest < first
    · refine ⟨0, first, rest + 1, ?_, rfl, by omega, by omega, by simp⟩
      rw [findMonth, if_pos hfirst]
      rfl
    · obtain ⟨before, length, day, hfound, hlength, hpos, hle, hsum⟩ :=
        @ih (rest - first) (month + 1) (by omega)
      refine ⟨before + 1, length, day, ?_, hlength, hpos, hle, ?_⟩
      · rw [findMonth, if_neg hfirst, hfound]
        congr 1
        omega
      · rw [List.take_succ_cons, List.sum_cons]
        omega

theorem monthLengths_le {leap : Bool} : ∀ length ∈ monthLengths leap, length ≤ 31 := by
  cases leap <;> decide

end Calendar

namespace CivilDate

variable {c : CivilDate}

theorem isValid_iff : c.isValid = true ↔ 1 ≤ c.month ∧ 1 ≤ c.day ∧
    ∃ length, (Calendar.monthLengths (Calendar.isLeap c.year))[c.month - 1]? = some length ∧
      c.day ≤ length := by
  rw [isValid]
  cases (Calendar.monthLengths (Calendar.isLeap c.year))[c.month - 1]? <;> simp [and_assoc]

/-- Month and day have at most two digits. -/
theorem lt_of_isValid (h : c.isValid = true) : c.month < 100 ∧ c.day < 100 := by
  obtain ⟨-, -, length, hlength, hday⟩ := isValid_iff.1 h
  have hle := Calendar.monthLengths_le length (List.mem_of_getElem? hlength)
  obtain ⟨hmonth, -⟩ := List.getElem?_eq_some_iff.1 hlength
  have htwelve : (Calendar.monthLengths (Calendar.isLeap c.year)).length = 12 := rfl
  omega

end CivilDate

namespace Date

/-! ## Days -/

/-- The parts of a civil date, from the day of the year. -/
theorem civil_eq (d : Date) : ∃ before length day,
    d.civil = ⟨Calendar.yearOf d.number, before + 1, day⟩ ∧
    (Calendar.monthLengths (Calendar.isLeap (Calendar.yearOf d.number)))[before]? = some length ∧
    1 ≤ day ∧ day ≤ length ∧
    ((Calendar.monthLengths (Calendar.isLeap (Calendar.yearOf d.number))).take before).sum + day =
      (d.number - Calendar.yearStart (Calendar.yearOf d.number)).toNat + 1 := by
  obtain ⟨before, length, day, hfound, found⟩ :=
    Calendar.exists_findMonth 1 (Calendar.dayOfYear_lt d.number)
  refine ⟨before, length, day, ?_, found⟩
  rw [civil, hfound, Nat.add_comm 1 before]

theorem civil_isValid (d : Date) : d.civil.isValid = true := by
  obtain ⟨before, length, day, hcivil, hlength, hpos, hle, -⟩ := d.civil_eq
  rw [hcivil]
  exact CivilDate.isValid_iff.2 ⟨by simp, hpos, length, hlength, hle⟩

/-- **A day is found again** from its civil date. -/
theorem ofCivil?_civil (d : Date) : ofCivil? d.civil = some d := by
  obtain ⟨before, length, day, hcivil, -, -, -, hsum⟩ := d.civil_eq
  have hlow := Calendar.yearStart_yearOf_le d.number
  have hbefore : Calendar.daysBefore (Calendar.isLeap (Calendar.yearOf d.number)) (before + 1) =
      ((Calendar.monthLengths (Calendar.isLeap (Calendar.yearOf d.number))).take before).sum := rfl
  have hnumber : (ofCivil d.civil).number = d.number := by
    rw [hcivil, ofCivil, hbefore]
    dsimp only
    omega
  rw [ofCivil?, if_pos d.civil_isValid]
  exact congrArg (fun n => some (Date.mk n)) hnumber

end Date

end SquarePool
