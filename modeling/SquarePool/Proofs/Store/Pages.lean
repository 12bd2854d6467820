import Mathlib.Data.List.Sort
import SquarePool.Proofs.Store.Invariant
import SquarePool.Proofs.Store.Listings

/-!
# Listings and their pages

Every listing of games is a part of one list: all the games that fit, each once, by start and
number. Main statements: two listings agree on the order of the games that they share, and the pages
of a listing, one after the other, are the whole list, whatever their size.
-/

namespace SquarePool

/-! ## Pages of a list -/

/-- The pages that are given for each offset and limit are those of one list. -/
structure Paged {α : Type} (rows : List α) (page : Int → Int → Excerpt α) : Prop where
  total : ∀ offset limit, (page offset limit).total = rows.length
  items : ∀ offset limit : Nat, (page offset limit).items = (rows.drop offset).take limit
  /-- A negative offset is zero. -/
  offset_neg : ∀ offset limit, offset < 0 → page offset limit = page 0 limit
  /-- A negative limit gives nothing. -/
  limit_neg : ∀ offset limit, limit < 0 → (page offset limit).items = []
  /-- Enough pages of one size, one after the other, are the whole list. -/
  whole : ∀ (size : Int) (count : Nat), 1 ≤ size → rows.length ≤ count * size →
    ((List.range count).flatMap fun k : Nat => (page (k * size) size).items) = rows

/-- The first pages of one size are the first rows. -/
theorem flatMap_pages {α : Type} (rows : List α) (size count : Nat) :
    ((List.range count).flatMap fun k => (rows.drop (k * size)).take size) =
      rows.take (count * size) := by
  induction count with
  | zero => simp
  | succ count ih =>
    rw [List.range_succ, List.flatMap_append, ih, Nat.succ_mul, List.take_add]
    simp

theorem Excerpt.paged_ofList {α : Type} (rows : List α) : Paged rows (ofList rows) where
  total _ _ := rfl
  items _ _ := rfl
  offset_neg offset limit h := by
    rw [ofList, Int.toNat_of_nonpos (Int.le_of_lt h)]
    rfl
  limit_neg offset limit h := by
    rw [ofList, Int.toNat_of_nonpos (Int.le_of_lt h), List.take_zero]
  whole size count hsize henough := by
    obtain ⟨size, rfl⟩ := Int.eq_ofNat_of_zero_le (Int.le_trans Int.one_nonneg hsize)
    have enough : rows.length ≤ count * size := by exact_mod_cast henough
    exact (flatMap_pages rows size count).trans (List.take_of_length_le enough)

/-! ## One order -/

instance : Std.Irrefl GameRow.Precedes where
  irrefl a h := by
    rcases h with h | h
    · exact Int.lt_irrefl _ h
    · exact Int.lt_irrefl _ h.2

instance : Std.Antisymm GameRow.Precedes where
  antisymm a b hab hba := by
    simp only [GameRow.Precedes, Instant.lt_iff] at hab hba
    exfalso
    rcases hab with hab | ⟨hab, hab'⟩
    · rcases hba with hba | ⟨hba, _⟩
      · omega
      · rw [hba] at hab
        omega
    · rw [hab] at hba
      omega

theorem GameRow.isLinkable_iff {row : GameRow} :
    row.isLinkable = true ↔
      row.progress.status = .scheduled ∨ row.progress.status = .inProgress := by
  simp [isLinkable]

/-- A name of one of two teams holds the text. -/
theorem TeamRecord.one_namesHold_iff {home away : TeamRecord} {text : String} :
    (home.namesHold text || away.namesHold text) = true ↔
      ∃ name ∈ [home.name, home.fullName, home.abbreviation, away.name, away.fullName,
        away.abbreviation], Text.contains (Text.lower name) text = true := by
  rw [namesHold, namesHold, ← List.any_append, List.any_eq_true]
  rfl

/-- Two lists in this order share their rows in one order. -/
theorem GameRow.filter_mem_comm {a b : List GameRow} (ha : a.Pairwise Precedes)
    (hb : b.Pairwise Precedes) : a.filter (· ∈ b) = b.filter (· ∈ a) :=
  (ha.filter _).eq_of_mem_iff (hb.filter _) fun row => by simp [and_comm]

/-- The games that a request lists, if it lists any. -/
def Request.listed? : (r : Request) → r.Answer → Option (List GameRow)
  | .games .., rows | .upcoming .., rows | .inProgress _, rows | .needingUpdate, rows => some rows
  | .linkable .., page | .search .., page => some page.items
  | _, _ => none

namespace Store

/-- The games of a store that fit, all of them, each once and the earlier ones first. -/
structure Lists (store : Store) (fits : GameRow → Prop) (rows : List GameRow) : Prop where
  mem_iff : ∀ row, row ∈ rows ↔ row ∈ store.games ∧ fits row
  nodup : rows.Nodup
  ordered : rows.Pairwise fun a b => a.start < b.start ∨ a.start = b.start ∧ a.id < b.id

variable {store : Store} {now : Instant} {league : League}

theorem lists_gamesWhere (unique : (store.games.map GameRow.id).Nodup) {fits : GameRow → Bool}
    {meaning : GameRow → Prop} (h : ∀ row, fits row = true ↔ meaning row) :
    store.Lists meaning (store.gamesWhere fits) where
  mem_iff row := by rw [mem_gamesWhere, h]
  nodup := (nodup_gamesWhere_ids unique).of_map
  ordered := pairwise_gamesWhere unique

theorem isFound_iff {text : String} {row : GameRow} :
    store.isFound league text row = true ↔
      row.league = league ∧
      (row.progress.status = .scheduled ∨ row.progress.status = .inProgress) ∧
      ∃ home away, store.team? row.homeTeamId row.league = some home ∧
        store.team? row.awayTeamId row.league = some away ∧
        ∃ name ∈ [home.name, home.fullName, home.abbreviation, away.name, away.fullName,
          away.abbreviation], Text.contains (Text.lower name) text = true := by
  rw [isFound, Bool.and_eq_true, Bool.and_eq_true, beq_iff_eq, GameRow.isLinkable_iff, and_assoc]
  refine and_congr_right fun _ => and_congr_right fun _ => ?_
  simp only [← TeamRecord.one_namesHold_iff, ← and_assoc, ← teamsOf?_eq_some_iff]
  cases store.teamsOf? row with
  | none => simp
  | some teams =>
    constructor
    · exact fun h => ⟨teams.1, teams.2, rfl, h⟩
    · rintro ⟨home, away, same, h⟩
      rw [Option.some.inj same]
      exact h

/-- What can be linked is what is scheduled and what is being played. -/
theorem length_linkable (store : Store) (league : League) :
    (store.gamesWhere fun row => row.league == league && row.isLinkable).length =
      store.games.countP (fun row => row.league = league ∧ row.progress.status = .scheduled) +
        store.games.countP fun row => row.league = league ∧ row.progress.status = .inProgress := by
  rw [(store.gamesWhere_perm _).length_eq]
  induction store.games with
  | nil => rfl
  | cons row rest ih =>
    rw [← List.countP_eq_length_filter] at ih ⊢
    rw [List.countP_cons, List.countP_cons, List.countP_cons, ih]
    by_cases own : row.league = league
    · cases h : row.progress.status <;> simp [GameRow.isLinkable, own, h] <;> omega
    · simp [own]

/-- A listing is in the order of all listings. -/
theorem pairwise_listed (unique : (store.games.map GameRow.id).Nodup) {r : Request}
    {rows : List GameRow} (h : r.listed? (store.perform now r).1 = some rows) :
    rows.Pairwise GameRow.Precedes := by
  have part {fits : GameRow → Bool} (h : rows.Sublist (store.gamesWhere fits)) :
      rows.Pairwise GameRow.Precedes := (pairwise_gamesWhere unique).sublist h
  cases r with
  | games league status limit =>
    obtain rfl := Option.some.inj h
    cases limit with
    | none => exact pairwise_gamesWhere unique
    | some limit => exact part (List.take_sublist _ _)
  | upcoming league limit =>
    obtain rfl := Option.some.inj h
    exact part (List.take_sublist _ _)
  | inProgress scope =>
    obtain rfl := Option.some.inj h
    exact pairwise_gamesWhere unique
  | needingUpdate =>
    obtain rfl := Option.some.inj h
    exact pairwise_gamesWhere unique
  | linkable league offset limit =>
    obtain rfl := Option.some.inj h
    exact part ((List.take_sublist _ _).trans (List.drop_sublist _ _))
  | search league text offset limit =>
    obtain rfl := Option.some.inj h
    exact part ((List.take_sublist _ _).trans (List.drop_sublist _ _))
  | _ => exact nomatch h

/-- **Listings neither lose nor repeat a game.** The games of a league, those to come, those being
played, those that can be linked and those that are found by a name are each listed from one list, in
which every game that fits stands once, by start and number. Where a limit or an offset is given, the
answer is that part of the list; for the last two the pages of one size together are the list, and
each tells its length. So two listings have the games that they share in one order. No two rows have
one number, which is so in every store with valid tables. -/
theorem listings_neither_lose_nor_repeat (unique : (store.games.map GameRow.id).Nodup)
    (now : Instant) :
    (∀ league status limit, ∃ rows,
      store.Lists (fun row => row.league = league ∧
        ∀ wanted, status = some wanted → row.progress.status = wanted) rows ∧
      (store.perform now (.games league status limit)).1 =
        limit.elim rows fun limit => rows.take limit.toNat) ∧
    (∀ league limit, ∃ rows,
      store.Lists (fun row => row.league = league ∧ row.progress.status = .scheduled ∧
        now ≤ row.start) rows ∧
      (store.perform now (.upcoming league limit)).1 = rows.take limit.toNat) ∧
    (∀ scope, store.Lists (fun row => row.progress.status = .inProgress ∧
        ∀ only, scope = some only → row.league = only)
      (store.perform now (.inProgress scope)).1) ∧
    (∀ league, ∃ rows,
      store.Lists (fun row => row.league = league ∧
        (row.progress.status = .scheduled ∨ row.progress.status = .inProgress)) rows ∧
      Paged rows (fun offset limit => (store.perform now (.linkable league offset limit)).1) ∧
      rows.length =
        store.games.countP (fun row => row.league = league ∧ row.progress.status = .scheduled) +
          store.games.countP fun row =>
            row.league = league ∧ row.progress.status = .inProgress) ∧
    (∀ league text, ∃ rows,
      store.Lists (fun row => row.league = league ∧
        (row.progress.status = .scheduled ∨ row.progress.status = .inProgress) ∧
        ∃ home away, store.team? row.homeTeamId row.league = some home ∧
          store.team? row.awayTeamId row.league = some away ∧
          ∃ name ∈ [home.name, home.fullName, home.abbreviation, away.name, away.fullName,
            away.abbreviation], Text.contains (Text.lower name) (Text.lower text) = true) rows ∧
      Paged rows fun offset limit => (store.perform now (.search league text offset limit)).1) ∧
    ∀ (r r' : Request) (later : Instant) (a b : List GameRow),
      r.listed? (store.perform now r).1 = some a →
      r'.listed? (store.perform later r').1 = some b →
        a.filter (· ∈ b) = b.filter (· ∈ a) := by
  refine ⟨?games, ?upcoming, ?inProgress, ?linkable, ?search, ?shared⟩
  case games =>
    intro league status limit
    refine ⟨_, lists_gamesWhere unique fun row => ?_, by cases limit <;> rfl⟩
    cases status <;> simp
  case upcoming =>
    intro league limit
    refine ⟨_, lists_gamesWhere unique fun row => ?_, rfl⟩
    simp [and_assoc]
  case inProgress =>
    intro scope
    refine lists_gamesWhere unique fun row => ?_
    cases scope <;> simp [inScope]
  case linkable =>
    intro league
    refine ⟨_, lists_gamesWhere unique fun row => ?_, Excerpt.paged_ofList _,
      store.length_linkable league⟩
    rw [Bool.and_eq_true, beq_iff_eq, GameRow.isLinkable_iff]
  case search =>
    intro league text
    exact ⟨_, lists_gamesWhere unique fun row => isFound_iff, Excerpt.paged_ofList _⟩
  case shared =>
    intro r r' later a b ha hb
    exact GameRow.filter_mem_comm (pairwise_listed unique ha) (pairwise_listed unique hb)

/-- Of four games of one league two start together, one starts later, and one is over. A page of two
games and the next page of one game are all that can be linked. All games of the league have those
of the first page in the same order. -/
theorem pages_of_two_games_and_one :
    let next : GameRow :=
      { externalId := "403", league := .nfl, homeTeamId := "8", awayTeamId := "12", start := .epoch
        season := 2024, postseason := false, id := 3, created := .epoch, modified := .epoch
        synced := .epoch }
    let playing : GameRow :=
      { next with externalId := "402", id := 2, progress.status := .inProgress }
    let last : GameRow :=
      { next with externalId := "401", id := 1, start := Instant.epoch.addSeconds 60 }
    let ended : GameRow := { next with externalId := "404", id := 4, progress.status := .final }
    let store : Store := { games := [last, next, ended, playing] }
    let page (offset : Int) := (store.perform .epoch (.linkable .nfl offset 2)).1
    let all := (store.perform .epoch (.games .nfl none none)).1
    (store.games.map GameRow.id).Nodup ∧
      (page 0).items = [playing, next] ∧
      (page 0).items ++ (page 2).items = [playing, next, last] ∧
      (page 2).total = 3 ∧
      page (-1) = page 0 ∧
      all.filter (· ∈ (page 0).items) = (page 0).items.filter (· ∈ all) := by
  intro next playing last ended store page all
  have unique : (store.games.map GameRow.id).Nodup := by decide +kernel
  obtain ⟨-, -, -, linkable, -, shared⟩ := listings_neither_lose_nor_repeat unique .epoch
  obtain ⟨rows, lists, paged, length⟩ := linkable .nfl
  have three : rows.length = 3 := length.trans (by decide +kernel)
  have fitting : store.games.filter (fun row => row.league = .nfl ∧
      (row.progress.status = .scheduled ∨ row.progress.status = .inProgress)) =
        [last, next, playing] := by decide +kernel
  have hrows : rows = [playing, next, last] := by
    have ordered : rows.Pairwise GameRow.Precedes := lists.ordered
    have expected : [playing, next, last].Pairwise GameRow.Precedes := by
      unfold GameRow.Precedes
      decide +kernel
    refine ordered.eq_of_mem_iff expected fun row => ?_
    have same : row ∈ rows ↔ row ∈ [last, next, playing] := by
      rw [lists.mem_iff, ← fitting, List.mem_filter, decide_eq_true_iff]
    rw [same]
    simp only [List.mem_cons, List.not_mem_nil, or_false]
    grind only
  have first : (page 0).items = rows.take 2 := paged.items 0 2
  have whole : (page 0).items ++ ((page 2).items ++ []) = rows :=
    paged.whole 2 2 (by decide) (by rw [three]; decide)
  rw [List.append_nil, hrows] at whole
  rw [hrows] at first
  exact ⟨unique, first, whole, (paged.total 2 2).trans (congrArg Int.ofNat three),
    paged.offset_neg (-1) 2 (by decide),
    shared (.games .nfl none none) (.linkable .nfl 0 2) .epoch all _ rfl rfl⟩

end Store

end SquarePool
