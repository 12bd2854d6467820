import Mathlib.Data.List.Nodup
import SquarePool.Store.Listing

/-!
# The order of listings

Games are listed by start, and by number where they start together. Main statements: any two games
can be compared in this order, and a listing holds exactly the games that fit, each of them once
and the earlier ones first.
-/

namespace SquarePool

namespace GameRow

theorem comesBefore_iff {a b : GameRow} :
    a.comesBefore b = true ↔
      a.start.ticks < b.start.ticks ∨ a.start.ticks = b.start.ticks ∧ a.id ≤ b.id := by
  have hstart : a.start = b.start ↔ a.start.ticks = b.start.ticks :=
    ⟨congrArg Instant.ticks, Instant.ticks_injective⟩
  simp only [comesBefore, Bool.or_eq_true, Bool.and_eq_true, decide_eq_true_eq, beq_iff_eq,
    Instant.lt_iff, hstart]

theorem comesBefore_trans (a b c : GameRow) (hab : a.comesBefore b = true)
    (hbc : b.comesBefore c = true) : a.comesBefore c = true := by
  rw [comesBefore_iff] at *
  omega

theorem comesBefore_total (a b : GameRow) : (a.comesBefore b || b.comesBefore a) = true := by
  rw [Bool.or_eq_true, comesBefore_iff, comesBefore_iff]
  omega

/-- The game starts earlier, or at the same time with a lesser number. -/
def Precedes (a b : GameRow) : Prop := a.start < b.start ∨ a.start = b.start ∧ a.id < b.id

theorem precedes_of_comesBefore {a b : GameRow} (h : a.comesBefore b = true) (ne : a.id ≠ b.id) :
    a.Precedes b := by
  rcases comesBefore_iff.1 h with earlier | ⟨same, hid⟩
  · exact .inl earlier
  · exact .inr ⟨Instant.ticks_injective same, by omega⟩

end GameRow

namespace Store

variable {store : Store} {fits : GameRow → Bool}

theorem gamesWhere_perm (store : Store) (fits : GameRow → Bool) :
    (store.gamesWhere fits).Perm (store.games.filter fits) :=
  List.mergeSort_perm _ _

theorem mem_gamesWhere {row : GameRow} :
    row ∈ store.gamesWhere fits ↔ row ∈ store.games ∧ fits row = true := by
  rw [gamesWhere, List.mem_mergeSort, List.mem_filter]

/-- The numbers of the games in a listing are different. -/
theorem nodup_gamesWhere_ids (unique : (store.games.map GameRow.id).Nodup) :
    ((store.gamesWhere fits).map GameRow.id).Nodup := by
  have hsub : ((store.games.filter fits).map GameRow.id).Sublist (store.games.map GameRow.id) :=
    List.filter_sublist.map _
  exact ((store.gamesWhere_perm fits).map GameRow.id).nodup_iff.2 (unique.sublist hsub)

/-- In a listing each game comes before all that follow it. -/
theorem pairwise_gamesWhere (unique : (store.games.map GameRow.id).Nodup) :
    (store.gamesWhere fits).Pairwise GameRow.Precedes := by
  have sorted : (store.gamesWhere fits).Pairwise fun a b => a.comesBefore b = true :=
    List.pairwise_mergeSort GameRow.comesBefore_trans GameRow.comesBefore_total _
  have distinct : (store.gamesWhere fits).Pairwise fun a b => a.id ≠ b.id :=
    List.pairwise_map.1 (nodup_gamesWhere_ids unique)
  exact (sorted.and distinct).imp fun h => GameRow.precedes_of_comesBefore h.1 h.2

end Store

end SquarePool
