import SquarePool.Winners

/-!
# Winners as a table

The winners of a game are a table from periods to squares: no period is in it twice, and a period is
in it with the square that wins it. Main statement: if every period that is paid on has a winner,
those periods are the keys of the table, in order.
-/

namespace SquarePool

variable {league : League} {progress : Progress} {payout : Payout} {board : Board}
  {home away : List Int} {sets : List NumberSet} {period : Period} {square : Nat}

theorem Progress.isComplete_of_final (final : progress.status = .final) (period : Period) :
    progress.isComplete league period = true := by
  cases period <;> simp [isComplete, final, GameStatus.isFinal]

theorem Payout.nodup_periods (payout : Payout) : payout.periods.Nodup := by
  cases payout <;> decide

namespace Winners

theorem isComplete_of_winnerOf?
    (h : winnerOf? progress league payout board home away sets period = some square) :
    progress.isComplete league period = true := by
  unfold winnerOf? at h
  split at h
  · assumption
  · exact nomatch h

theorem mem_ofProgress :
    (period, square) ∈ ofProgress progress league payout board home away sets ↔
      period ∈ payout.periods ∧
        winnerOf? progress league payout board home away sets period = some square := by
  simp [ofProgress, List.mem_filterMap]

/-- The periods that have a winner are those in the table. -/
theorem map_fst_ofProgress :
    (ofProgress progress league payout board home away sets).map Prod.fst =
      payout.periods.filter fun period =>
        (winnerOf? progress league payout board home away sets period).isSome := by
  unfold ofProgress
  generalize payout.periods = periods
  induction periods with
  | nil => rfl
  | cons first rest ih =>
    cases h : winnerOf? progress league payout board home away sets first with
    | none => simp [h, ih]
    | some square => simp [h, ih]

/-- No period is in the table twice. -/
theorem nodup_map_fst_ofProgress :
    ((ofProgress progress league payout board home away sets).map Prod.fst).Nodup := by
  rw [map_fst_ofProgress]
  exact payout.nodup_periods.filter _

/-- Where every period has a winner, the table has all of them. -/
theorem map_fst_ofProgress_of_forall
    (h : ∀ period ∈ payout.periods, ∃ square,
      winnerOf? progress league payout board home away sets period = some square) :
    (ofProgress progress league payout board home away sets).map Prod.fst = payout.periods := by
  rw [map_fst_ofProgress, List.filter_eq_self]
  exact fun period hp => Option.isSome_iff_exists.2 (h period hp)

end Winners

end SquarePool
