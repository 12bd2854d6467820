import Mathlib.Data.List.Chain
import SquarePool.Proofs.Payout.Winners

/-!
# Progression of a game

A game seen twice, the second time later. Main statement: what was complete stays complete, so as
long as its scores stand no winning square is taken back, from one snapshot to the next and over any
number of them.
-/

namespace SquarePool

namespace Period

/-- The period of play at whose end the score counts, unless it counts at the end of the game. -/
def lastPlayed (league : League) : Period → Option Int
  | q1 => some 1
  | q2 | half => some (if league.playsHalves then 1 else 2)
  | q3 => some 3
  | q4 | final | all => none

/-- The score counts at halftime. -/
def isAtHalftime : Period → Bool
  | q2 | half => true
  | _ => false

/-- Halftime comes after half of the periods. -/
theorem lastPlayed_of_isAtHalftime {league : League} {period : Period} {n : Int}
    (half : period.isAtHalftime = true) (last : period.lastPlayed league = some n) :
    n = (league.regulationPeriods / 2 : Nat) := by
  cases period with
  | q2 | half => cases league <;> exact (Option.some.inj last).symm
  | _ => exact nomatch half

end Period

namespace Progress

/-- The game has come from the first snapshot to the second: it is over, or a later period is being
played, or the same period is being played and its status text lost no marker. -/
inductive LeadsTo (earlier later : Progress) : Prop where
  | ended (final : later.status = .final)
  | laterPeriod (playing : earlier.status ≠ .final) (playing' : later.status ≠ .final)
      (passed : earlier.current < later.current)
  | samePeriod (playing : earlier.status ≠ .final) (playing' : later.status ≠ .final)
      (same : later.current = earlier.current)
      (endOf : earlier.saysEndOf = true → later.saysEndOf = true)
      (halftime : earlier.saysHalftime = true → later.saysHalftime = true)

/-- The status text speaks of halftime only once half of the game has been played. -/
def HalftimeInPlace (progress : Progress) (league : League) : Prop :=
  progress.saysHalftime = true → ((league.regulationPeriods / 2 : Nat) : Int) ≤ progress.current

variable {league : League} {progress earlier later : Progress} {period : Period}

/-- When the score at the end of a period can no longer change, in one formula for all periods. -/
theorem isComplete_iff :
    progress.isComplete league period = true ↔
      progress.status = .final ∨ ∃ n, period.lastPlayed league = some n ∧
        (n < progress.current ∨ progress.current = n ∧ progress.saysEndOf = true ∨
          period.isAtHalftime = true ∧ progress.saysHalftime = true) := by
  cases period with
  | q2 | half =>
    -- the formula is the same in both kinds of league but for the number of the period
    generalize hn : (if league.playsHalves then (1 : Int) else 2) = n
    simp only [isComplete, Period.lastPlayed, Period.isAtHalftime, GameStatus.isFinal, hn]
    simp only [Bool.or_eq_true, Bool.and_eq_true, beq_iff_eq, decide_eq_true_eq,
      Int.add_one_le_iff, Option.some.injEq, exists_eq_left', true_and]
    grind
  | q1 | q3 =>
    simp only [isComplete, Period.lastPlayed, Period.isAtHalftime, GameStatus.isFinal,
      Bool.or_eq_true, Bool.and_eq_true, beq_iff_eq, decide_eq_true_eq, Option.some.injEq,
      exists_eq_left', Bool.false_eq_true, false_and, or_false]
    grind
  | q4 | final | all =>
    simp [isComplete, Period.lastPlayed, GameStatus.isFinal]

/-- **What is complete stays complete.** -/
theorem LeadsTo.isComplete (leads : earlier.LeadsTo later)
    (inPlace : earlier.HalftimeInPlace league)
    (complete : earlier.isComplete league period = true) :
    later.isComplete league period = true := by
  rw [isComplete_iff] at complete ⊢
  cases leads with
  | ended final => exact .inl final
  | laterPeriod playing _ passed =>
    obtain ⟨n, last, done⟩ := complete.resolve_left playing
    -- the last period that counts was reached, and a later one is being played now
    have reached : n ≤ earlier.current := by
      rcases done with passed' | ⟨now, -⟩ | ⟨half, halftime⟩
      · omega
      · omega
      · have hn := Period.lastPlayed_of_isAtHalftime half last
        exact hn ▸ inPlace halftime
    exact .inr ⟨n, last, .inl (by omega)⟩
  | samePeriod playing _ same endOf halftime =>
    obtain ⟨n, last, done⟩ := complete.resolve_left playing
    refine .inr ⟨n, last, ?_⟩
    rw [same]
    exact done.imp_right (.imp (.imp_right endOf) (.imp_right halftime))

end Progress

namespace Winners

variable {league : League} {earlier later : Progress} {payout : Payout} {board : Board}
  {home away : List Int} {sets : List NumberSet}

/-- A complete period has the winner that its score gives it. -/
theorem winnerOf?_congr {period : Period} (complete : earlier.isComplete league period = true)
    (complete' : later.isComplete league period = true)
    (stands : later.scoreThrough league period = earlier.scoreThrough league period) :
    winnerOf? later league payout board home away sets period =
      winnerOf? earlier league payout board home away sets period := by
  rw [Progress.scoreThrough, Progress.scoreThrough, Prod.mk.injEq] at stands
  rw [winnerOf?, winnerOf?, if_pos complete, if_pos complete', stands.1, stands.2]

/-- The second snapshot is a later one, and the scores of all periods that were complete stand. -/
structure Settles (league : League) (earlier later : Progress) : Prop where
  leads : earlier.LeadsTo later
  inPlace : earlier.HalftimeInPlace league
  stands : ∀ period, earlier.isComplete league period = true →
    later.scoreThrough league period = earlier.scoreThrough league period

theorem Settles.mem {period : Period} {square : Nat} (h : Settles league earlier later)
    (won : (period, square) ∈ ofProgress earlier league payout board home away sets) :
    (period, square) ∈ ofProgress later league payout board home away sets := by
  rw [mem_ofProgress] at won ⊢
  have complete := isComplete_of_winnerOf? won.2
  rw [winnerOf?_congr complete (h.leads.isComplete h.inPlace complete) (h.stands period complete)]
  exact won

/-- **A winning square stays one** over any number of snapshots. -/
theorem mem_of_isChain {snapshots : List Progress} {period : Period} {square : Nat}
    (chain : List.IsChain (Settles league) (earlier :: snapshots))
    (won : (period, square) ∈ ofProgress earlier league payout board home away sets) :
    ∀ later ∈ snapshots,
      (period, square) ∈ ofProgress later league payout board home away sets := by
  induction snapshots generalizing earlier with
  | nil => simp
  | cons next rest ih =>
    rw [List.isChain_cons_cons] at chain
    have won' := chain.1.mem won
    intro later hmem
    rcases List.mem_cons.1 hmem with rfl | hmem
    · exact won'
    · exact ih chain.2 won' later hmem

/-- **No payout is withdrawn** from one snapshot of a game to a later one. -/
theorem payouts_stand (leads : earlier.LeadsTo later)
    (inPlace : earlier.HalftimeInPlace league) :
    (∀ period, earlier.isComplete league period = true →
      later.isComplete league period = true) ∧
    ∀ (payout : Payout) (board : Board) (home away : List Int) (sets : List NumberSet),
      (∀ period, earlier.isComplete league period = true →
        later.scoreThrough league period = earlier.scoreThrough league period) →
      ∀ period square,
        (period, square) ∈ ofProgress earlier league payout board home away sets →
          (period, square) ∈ ofProgress later league payout board home away sets := by
  refine ⟨fun period => leads.isComplete inPlace, ?_⟩
  intro payout board home away sets stands period square won
  exact Settles.mem ⟨leads, inPlace, stands⟩ won

/-- A game is polled at the end of its first quarter and again at halftime. -/
theorem payouts_stand_at_halftime :
    let first : Progress :=
      { status := .inProgress, detail := some "End of 1st Quarter", period := some 1
        home := { total := some 7, lines := .ofPeriods [7] }
        away := { total := some 3, lines := .ofPeriods [3] } }
    let second : Progress :=
      { status := .inProgress, detail := some "Halftime", period := some 2
        home := { total := some 14, lines := .ofPeriods [7, 7] }
        away := { total := some 13, lines := .ofPeriods [3, 10] } }
    let digits : List Int := [0, 1, 2, 3, 4, 5, 6, 7, 8, 9]
    (.q1, 38) ∈ ofProgress first .nfl .threeQuarters .std100 digits digits [] ∧
      (.q1, 38) ∈ ofProgress second .nfl .threeQuarters .std100 digits digits [] := by
  intro first second digits
  have leads : first.LeadsTo second := .laterPeriod nofun nofun (by decide)
  have inPlace : first.HalftimeInPlace .nfl := by
    intro halftime
    exact absurd halftime (by decide)
  have won : (.q1, 38) ∈ ofProgress first .nfl .threeQuarters .std100 digits digits [] := by
    decide
  refine ⟨won, (payouts_stand leads inPlace).2 _ _ _ _ _ ?_ _ _ won⟩
  intro period complete
  cases period <;> first | rfl | exact absurd complete (by decide)

end Winners

end SquarePool
