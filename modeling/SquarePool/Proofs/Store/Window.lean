import SquarePool.Proofs.Store.Invariant
import SquarePool.Proofs.Store.Listings

/-!
# The window of games that are followed

A game that should have ended long ago is ended without a score, and one that is about to start or
being played is followed. The three clauses of "may have a new score" overlap, and their bounds are
partly strict. Main statements: together they are one condition on games that are not stale, so once
the stale games are ended, every game that has started and is not over is followed, and no ended
game is.
-/

namespace SquarePool

theorem Instant.ticks_ofSeconds (seconds : Int) (nano : Nat) (h : nano < 2000000000) :
    (ofSeconds seconds nano h).ticks = seconds * 2000000000 + nano := by
  simp only [ofSeconds, ticks]
  omega

/-- A step forward leads to a later moment, also out of a leap second. -/
theorem Instant.lt_addSeconds (t : Instant) {amount : Int} (h : 0 < amount) :
    t < t.addSeconds amount := by
  rw [lt_iff, addSeconds]
  split
  · rw [ticks_ofSeconds, seconds, ticks]
    omega
  · rw [ticks_ofSeconds, seconds, ticks]
    omega

/-- A step backward leads to an earlier moment, also out of a leap second. -/
theorem Instant.addSeconds_lt (t : Instant) {amount : Int} (h : amount < 0) :
    t.addSeconds amount < t := by
  rw [lt_iff, addSeconds]
  split
  · rw [ticks_ofSeconds, seconds, ticks]
    omega
  · rw [if_neg (by omega), ticks_ofSeconds, seconds, ticks]
    omega

namespace GameRow

variable {row : GameRow} {now : Instant}

theorem isStale_iff :
    row.isStale now = true ↔
      row.progress.status ≠ .final ∧ row.start < now.addSeconds (-Instant.daySeconds) := by
  simp [isStale, GameStatus.isFinal]

/-- The three clauses in one: what is neither over nor stale is followed if it is being played or
starts within two hours. -/
theorem needsUpdate_iff :
    row.needsUpdate now = true ↔
      row.progress.status ≠ .final ∧ row.isStale now = false ∧
        (row.progress.status = .inProgress ∨ row.start ≤ now.addSeconds 7200) := by
  have hsoon : now.ticks < (now.addSeconds 7200).ticks := now.lt_addSeconds (by decide)
  have hago : (now.addSeconds (-Instant.daySeconds)).ticks < now.ticks :=
    now.addSeconds_lt (by decide)
  rw [← Bool.not_eq_true, isStale_iff]
  simp only [needsUpdate, Bool.or_eq_true, Bool.and_eq_true, decide_eq_true_eq, beq_iff_eq,
    Bool.not_eq_true', GameStatus.isFinal, beq_eq_false_iff_ne, Instant.lt_iff, Instant.le_iff]
  cases row.progress.status with
  | scheduled => simp; omega
  | inProgress => simp; omega
  | final => simp

/-- What was ended is over, so it is neither stale nor in need of a score. -/
theorem isStale_ended (row : GameRow) (now : Instant) : (row.ended now).isStale now = false := by
  simp [isStale, ended, GameStatus.isFinal]

theorem needsUpdate_ended (row : GameRow) (now : Instant) :
    (row.ended now).needsUpdate now = false := by
  simp [needsUpdate, ended, GameStatus.isFinal]

end GameRow

namespace Store

variable {store : Store} {now : Instant} {row : GameRow}

theorem mem_finalizeStale :
    row ∈ (store.finalizeStale now).2.games ↔
      ∃ old ∈ store.games, row = if old.isStale now then old.ended now else old := by
  rw [finalizeStale_games, Table.updateWhere, List.mem_map]
  simp only [eq_comm]

/-- After the stale games are ended there is none. -/
theorem not_isStale_of_mem_finalizeStale (h : row ∈ (store.finalizeStale now).2.games) :
    row.isStale now = false := by
  obtain ⟨old, -, rfl⟩ := mem_finalizeStale.1 h
  cases stale : old.isStale now with
  | true => exact old.isStale_ended now
  | false => exact stale

/-- Where nothing is stale, nothing is ended. -/
theorem finalizeStale_of_fresh (fresh : ∀ row ∈ store.games, row.isStale now = false) :
    store.finalizeStale now = (0, store) := by
  have hnone : store.games.filter (·.isStale now) = [] :=
    List.filter_eq_nil_iff.2 fun row hrow => by simp [fresh row hrow]
  have hsame : Table.updateWhere (·.isStale now) (·.ended now) store.games = store.games :=
    Table.updateWhere_of_fixed fun row hrow stale => by simp [fresh row hrow] at stale
  rw [finalizeStale, hnone, hsame]
  rfl

/-- Once the stale games are ended, others are tracked if they are being played or start soon. -/
theorem mem_tracked_iff :
    row ∈ (store.finalizeStale now).2.gamesWhere (·.needsUpdate now) ↔
      row ∈ (store.finalizeStale now).2.games ∧ row.progress.status ≠ .final ∧
        (row.progress.status = .inProgress ∨ row.start ≤ now.addSeconds 7200) := by
  rw [mem_gamesWhere, GameRow.needsUpdate_iff]
  refine and_congr_right fun hrow => and_congr_right fun _ => ?_
  exact and_iff_right (not_isStale_of_mem_finalizeStale hrow)

theorem finalizeStale_ids (store : Store) (now : Instant) :
    (store.finalizeStale now).2.games.map GameRow.id = store.games.map GameRow.id :=
  Table.map_updateWhere _ _ _ GameRow.id fun _ => rfl

/-- A game that is not over and has started, or is being played, is ended or tracked. -/
theorem over_or_tracked (h : row ∈ store.games) (unfinished : row.progress.status ≠ .final)
    (started : row.start ≤ now ∨ row.progress.status = .inProgress) :
    (∃ finished ∈ (store.finalizeStale now).2.games,
        finished.id = row.id ∧ finished.progress.status = .final) ∨
      row ∈ (store.finalizeStale now).2.gamesWhere (·.needsUpdate now) := by
  cases stale : row.isStale now with
  | true =>
    have hended : row.ended now ∈ (store.finalizeStale now).2.games :=
      mem_finalizeStale.2 ⟨row, h, by rw [if_pos stale]⟩
    exact .inl ⟨row.ended now, hended, rfl, rfl⟩
  | false =>
    have hkept : row ∈ (store.finalizeStale now).2.games :=
      mem_finalizeStale.2 ⟨row, h, by rw [if_neg (by simp [stale])]⟩
    have hsoon : now < now.addSeconds 7200 := now.lt_addSeconds (by decide)
    refine .inr (mem_tracked_iff.2 ⟨hkept, unfinished, ?_⟩)
    rcases started with past | playing
    · exact .inr (Int.le_of_lt (Int.lt_of_le_of_lt past hsoon))
    · exact .inl playing

/-- A number belongs to one row only, so no game is both. -/
theorem not_over_of_tracked (unique : (store.games.map GameRow.id).Nodup)
    (tracked : row ∈ (store.finalizeStale now).2.gamesWhere (·.needsUpdate now)) :
    ¬ ∃ finished ∈ (store.finalizeStale now).2.games,
      finished.id = row.id ∧ finished.progress.status = .final := by
  rintro ⟨finished, hfinished, hid, final⟩
  rw [← store.finalizeStale_ids now] at unique
  obtain ⟨hkept, unfinished, -⟩ := mem_tracked_iff.1 tracked
  have hsame : finished = row := Table.eq_of_mem_of_key unique hfinished hkept hid
  exact unfinished (hsame ▸ final)

/-- **A game that has started is ended or tracked.** Ending the stale games ends those that are not
over and started more than a day ago, clears all that their score displays show, changes nothing
else, and counts them; at the same time there is nothing left to end. The games that are tracked
from then on are those that are not over and are being played or start within two hours, each once
and in their order. So a game that was not over and has started is now either over or tracked, and
never both. No two rows have one number, which is so in every store of a session. -/
theorem started_games_are_ended_or_tracked (unique : (store.games.map GameRow.id).Nodup)
    (now : Instant) :
    let dayAgo := now.addSeconds (-86400)
    let soon := now.addSeconds 7200
    let ended := (store.perform now .finalizeStale).2
    let tracked := (ended.perform now .needingUpdate).1
    ended = { store with
      games := store.games.map fun row =>
        if row.progress.status ≠ .final ∧ row.start < dayAgo then
          { row with
            progress := {
              status := .final, detail := none, period := none, clock := none
              home := { total := none, lines := ⟨none, none, none, none, none⟩ }
              away := { total := none, lines := ⟨none, none, none, none, none⟩ } }
            modified := now }
        else row } ∧
    (store.perform now .finalizeStale).1 =
      store.games.countP (fun row => row.progress.status ≠ .final ∧ row.start < dayAgo) ∧
    ended.perform now .finalizeStale = (0, ended) ∧
    (∀ row, row ∈ tracked ↔ row ∈ ended.games ∧ row.progress.status ≠ .final ∧
      (row.progress.status = .inProgress ∨ row.start ≤ soon)) ∧
    tracked.Nodup ∧
    tracked.Pairwise (fun a b => a.start < b.start ∨ a.start = b.start ∧ a.id < b.id) ∧
    ∀ row ∈ store.games, row.progress.status ≠ .final →
      row.start ≤ now ∨ row.progress.status = .inProgress →
        ((∃ finished ∈ ended.games, finished.id = row.id ∧ finished.progress.status = .final) ∨
          row ∈ tracked) ∧
        ¬ ((∃ finished ∈ ended.games, finished.id = row.id ∧ finished.progress.status = .final) ∧
          row ∈ tracked) := by
  intro dayAgo soon ended tracked
  have uniqueEnded : (ended.games.map GameRow.id).Nodup :=
    store.finalizeStale_ids now ▸ unique
  have htracked : ∀ row, row ∈ tracked ↔ row ∈ ended.games ∧ row.progress.status ≠ .final ∧
      (row.progress.status = .inProgress ∨ row.start ≤ soon) := fun _ => mem_tracked_iff
  have hordered : tracked.Pairwise GameRow.Precedes := pairwise_gamesWhere uniqueEnded
  have honce : (tracked.map GameRow.id).Nodup := nodup_gamesWhere_ids uniqueEnded
  refine ⟨?ended, ?count, ?again, htracked, honce.of_map _, hordered, ?either⟩
  case ended =>
    show { store with games := store.games.map _ } = _
    congr 1
    refine List.map_congr_left fun row _ => ?_
    simp only [GameRow.isStale_iff]
    rfl
  case count =>
    show (store.games.filter (·.isStale now)).length = _
    rw [← List.countP_eq_length_filter]
    refine List.countP_congr fun row _ => ?_
    rw [GameRow.isStale_iff, decide_eq_true_eq]
    rfl
  case again => exact finalizeStale_of_fresh fun _ => not_isStale_of_mem_finalizeStale
  case either =>
    intro row hrow unfinished started
    exact ⟨over_or_tracked hrow unfinished started,
      fun both => not_over_of_tracked unique both.2 both.1⟩

/-- Four games at the bounds: one is being played and started a day ago, one started a nanosecond
before that, one starts in two hours, and one a nanosecond after that. -/
theorem started_games_at_the_bounds :
    let row (id : Int) (status : GameStatus) (start : Instant) : GameRow :=
      { externalId := "", league := .nfl, homeTeamId := "12", awayTeamId := "8", start
        season := 2024, postseason := false, progress := { status }
        id, created := .epoch, modified := .epoch, synced := .epoch }
    let played := row 1 .inProgress (Instant.epoch.addSeconds (-86400))
    let stale := row 2 .inProgress (.ofSeconds (-86401) 999999999)
    let soon := row 3 .scheduled (Instant.epoch.addSeconds 7200)
    let later := row 4 .scheduled (.ofSeconds 7200 1)
    let store : Store := { games := [soon, later, stale, played] }
    let ended := (store.perform .epoch .finalizeStale).2
    let tracked := (ended.perform .epoch .needingUpdate).1
    (store.games.map GameRow.id).Nodup ∧ (store.perform .epoch .finalizeStale).1 = 1 ∧
      played ∈ tracked ∧ soon ∈ tracked ∧ stale.ended .epoch ∉ tracked ∧ later ∉ tracked ∧
      tracked.Nodup := by
  intro row played stale soon later store ended tracked
  have unique : (store.games.map GameRow.id).Nodup := by decide
  obtain ⟨-, count, -, htracked, once, -, -⟩ :=
    started_games_are_ended_or_tracked unique .epoch
  have hgames : ended.games = [soon, later, stale.ended .epoch, played] := by decide +kernel
  simp only [ended, tracked, htracked] at *
  refine ⟨unique, count.trans (by decide +kernel), ?_, ?_, ?_, ?_, once⟩
  all_goals
    rw [hgames]
    decide +kernel

end Store

end SquarePool
