import Mathlib.Data.List.InsertIdx
import Mathlib.Data.List.TakeWhile
import SquarePool.Proofs.Feed.Layouts
import SquarePool.Proofs.Payout.Rescheduling

/-!
# Scores that are left out

A score that the feed does not know is left out, is null or is a text of blanks, by the kind of the
page. Main statement: such a score is unknown, and so is every period that it is a part of. The
scoreboard is an exception in one place: a period that is listed there without its points is read as
one without any points.
-/

namespace SquarePool

/-! ## Line scores -/

namespace LineScores

/-- The points of one of the first four periods, which are counted from zero. -/
def quarter (lines : LineScores) : Nat → Option Int
  | 0 => lines.q1
  | 1 => lines.q2
  | 2 => lines.q3
  | 3 => lines.q4
  | _ => none

variable {entries : List (Option Int)} {i : Nat}

theorem quarter_ofEntries (hi : i < 4) : (ofEntries entries).quarter i = entries[i]?.join := by
  match i, hi with
  | 0, _ => rfl
  | 1, _ => rfl
  | 2, _ => rfl
  | 3, _ => rfl

/-- An unknown entry beyond the fourth adds nothing to overtime: it may as well be missing. -/
theorem ot_ofEntries_eraseIdx (hi : 4 ≤ i) (h : entries[i]? = some none) :
    (ofEntries (entries.eraseIdx i)).ot = (ofEntries entries).ot := by
  obtain ⟨before, after, rfl, rfl⟩ :
      ∃ before after, entries = before ++ none :: after ∧ before.length = i := by
    obtain ⟨hlength, hentry⟩ := List.getElem?_eq_some_iff.1 h
    refine ⟨entries.take i, entries.drop (i + 1), ?_, List.length_take_of_le hlength.le⟩
    rw [← hentry, ← List.drop_eq_getElem_cons hlength, List.take_append_drop]
  have herase : (before ++ none :: after).eraseIdx before.length = before ++ after := by
    simp [List.eraseIdx_append_of_length_le]
  rw [herase, ofEntries, ofEntries, List.drop_append_of_le_length hi,
    List.drop_append_of_le_length hi, sumKnown, sumKnown, List.filterMap_append,
    List.filterMap_append]
  rfl

/-- Without a known entry beyond the fourth there is no overtime. -/
theorem ot_ofEntries_eq_none (h : ∀ j value, 4 ≤ j → entries[j]? = some value → value = none) :
    (ofEntries entries).ot = none := by
  have hknown : (entries.drop 4).filterMap id = [] := by
    rw [List.filterMap_eq_nil_iff]
    intro value hvalue
    obtain ⟨j, hj⟩ := List.mem_iff_getElem?.1 hvalue
    rw [List.getElem?_drop] at hj
    exact h (4 + j) value (by omega) hj
  rw [ofEntries, sumKnown, hknown]

end LineScores

/-- The line scores that a period is scored by; there are none where it is the total. -/
def Period.parts (league : League) : Period → List Nat
  | .q1 => [0]
  | .half => if league.playsHalves then [0] else [0, 1]
  | .q2 => [0, 1]
  | .q3 => [0, 1, 2]
  | .q4 | .final | .all => []

theorem Period.lt_of_mem_parts {league : League} {period : Period} {i : Nat}
    (h : i ∈ period.parts league) : i < 4 := by
  cases period with
  | half =>
    rw [parts] at h
    split at h <;> simp at h <;> omega
  | _ => simp [parts] at h <;> omega

/-- A period is unknown with any of the line scores that it is scored by. -/
theorem Points.through_eq_none {points : Points} {league : League} {period : Period} {i : Nat}
    (hi : i ∈ period.parts league) (h : points.lines.quarter i = none) :
    points.through league period = none := by
  have hsecond : i ∈ [0, 1] → points.throughSecond = none := by
    intro hi
    rcases List.mem_pair.1 hi with rfl | rfl
    · simp [throughSecond, show points.lines.q1 = none from h]
    · simp [throughSecond, show points.lines.q2 = none from h]
  cases period with
  | q1 =>
    obtain rfl := List.mem_singleton.1 hi
    exact h
  | half =>
    rw [Period.parts] at hi
    rw [through]
    split at hi
    next halves =>
      obtain rfl := List.mem_singleton.1 hi
      rw [if_pos halves]
      exact h
    next halves =>
      rw [if_neg halves]
      exact hsecond hi
  | q2 => exact hsecond hi
  | q3 =>
    have hi : i = 2 ∨ i ∈ [0, 1] := by
      simp only [Period.parts, List.mem_cons, List.not_mem_nil, or_false] at hi ⊢
      omega
    rcases hi with rfl | hi
    · simp [through, throughThird, show points.lines.q3 = none from h]
    · simp [through, throughThird, hsecond hi]
  | q4 | final | all => exact absurd hi List.not_mem_nil

namespace Feed

/-! ## Blanks -/

theorem readScore?_of_isAllBlank {text : String} (h : Text.isAllBlank text = true) :
    readScore? text = none := by
  have hleft : Text.trimLeft text.toList = [] := by
    rw [Text.trimLeft, List.dropWhile_eq_nil_iff]
    exact List.all_eq_true.1 h
  have htrim : Text.trimChars text.toList = [] := by
    rw [Text.trimChars, hleft]
    rfl
  rw [readScore?, htrim]
  rfl

/-- A text is given, and there is more to it than blanks. -/
def IsSaid (given : Option Json) : Prop :=
  ∃ text, given = some (.text text) ∧ Text.isAllBlank text = false

variable {given : Option Json}

theorem readScore?_of_not_isSaid {text : String}
    (h : given.elim (some "") Json.text? = some text) (hsaid : ¬IsSaid given) :
    readScore? text = none := by
  refine readScore?_of_isAllBlank ?_
  cases given with
  | none =>
    obtain rfl := Option.some.inj h
    rfl
  | some json =>
    cases json with
    | string value =>
      obtain rfl : value = some text := h
      rw [← Bool.not_eq_false]
      exact fun hblank => hsaid ⟨text, rfl, hblank⟩
    | _ => exact nomatch h

/-- A value that may be null is read as it is when it is read as a value. -/
theorem decode_of_nullable? {α : Type} {decode : Json → Option α} {json : Json} {a : α}
    (h : Json.nullable? decode json = some (some a)) : decode json = some a := by
  cases json with
  | null => exact nomatch Option.some.inj h
  | _ =>
    obtain ⟨b, hb, hsome⟩ := Option.map_eq_some_iff.1 h
    exact hb.trans hsome

theorem bind_readScore?_of_not_isSaid {score : Option String}
    (h : given.elim (some none) (Json.nullable? Json.text?) = some score)
    (hsaid : ¬IsSaid given) : score.bind readScore? = none := by
  cases score with
  | none => rfl
  | some text =>
    have hgiven : given.elim (some "") Json.text? = some text := by
      cases given with
      | none => exact nomatch Option.some.inj h
      | some json => exact decode_of_nullable? h
    exact readScore?_of_not_isSaid hgiven hsaid

/-- A score on a schedule with neither a quantity nor a text is unknown. -/
theorem points?_of_not_given {json : Json} {score : ScheduleScore}
    (h : ScheduleScore.layout.decode json = some score)
    (hvalue : ¬∃ n, ScheduleScore.layout.given? "value" json = some (.number n))
    (hsaid : ¬IsSaid (ScheduleScore.layout.given? "displayValue" json)) :
    score.points? = none := by
  have hnone : score.value = none := by
    cases hgiven : ScheduleScore.layout.given? "value" json with
    | none => exact Layout.default_of_not_given h (.here _) hgiven
    | some value =>
      have hdecode : Json.nullable? Json.whole? value = some score.value :=
        Layout.decode_of_given h (.here _) hgiven
      cases value with
      | null => exact (Option.some.inj hdecode).symm
      | number n => exact absurd ⟨n, hgiven⟩ hvalue
      | _ => exact nomatch hdecode
  rw [ScheduleScore.points?, hnone]
  exact readScore?_of_not_isSaid (Layout.field_of_decode h (.there (.here _))) hsaid

/-! ## Lists -/

section Lists

variable {α : Type} {decode : Json → Option α} {docs : List Json} {values : List α}

theorem map_of_mapM (h : docs.mapM decode = some values) : docs.map decode = values.map some := by
  induction docs generalizing values with
  | nil =>
    obtain rfl := Option.some.inj h
    rfl
  | cons doc rest ih =>
    rw [List.mapM_cons] at h
    obtain ⟨value, hvalue, h⟩ := Option.bind_eq_some_iff.1 h
    obtain ⟨others, hothers, h⟩ := Option.bind_eq_some_iff.1 h
    obtain rfl := Option.some.inj h
    rw [List.map_cons, List.map_cons, hvalue, ih hothers]

/-- A list that is not given is empty. -/
theorem items_of_decode {β : Type} {layout : Layout β} {name : String} {json : Json}
    (h : (layout.given? name json).elim (some []) (Json.list? decode) = some values) :
    (layout.items name json).map decode = values.map some := by
  refine map_of_mapM ?_
  rw [Layout.items]
  cases hgiven : layout.given? name json with
  | none =>
    rw [hgiven] at h
    obtain rfl := Option.some.inj h
    rfl
  | some value =>
    rw [hgiven] at h
    cases value with
    | array items => exact h
    | _ => exact nomatch h

/-- The competitors in the first of some contests. -/
def competitorsIn {γ : Type} (layout : Layout γ) (contests : List Json) : List Json :=
  (contests.head?.map (layout.items "competitors")).getD []

/-- **The sides of a game** are told by two of the competitors that its first contest lists, and
each of them tells a side. -/
theorem sides_of_contest {γ : Type} {layout : Layout γ} {contests : List Json}
    {decoded : List γ} {contest : γ} {part : MissingPart} {mark : α → String} {side : α → Side}
    {sides : Side × Side} (hcontests : contests.map layout.decode = decoded.map some)
    (hfirst : firstContest part decoded = .ok contest)
    (hlisted : ∀ doc, layout.decode doc = some contest →
      (layout.items "competitors" doc).map decode = values.map some)
    (hsides : pickSides (values.map fun s => (mark s, side s)) = .ok sides) :
    (∀ doc ∈ competitorsIn layout contests, ∃ s, (decode doc).map side = some s) ∧
    (∃ home ∈ competitorsIn layout contests, (decode home).map side = some sides.1) ∧
    ∃ away ∈ competitorsIn layout contests, (decode away).map side = some sides.2 := by
  cases decoded with
  | nil => exact nomatch hfirst
  | cons first rest =>
    obtain rfl := Except.ok.inj hfirst
    obtain ⟨doc, contests, rfl, hdoc, -⟩ := List.map_eq_cons_iff.1 hcontests
    have hdocs := hlisted doc hdoc
    have hin : competitorsIn layout (doc :: contests) = layout.items "competitors" doc := rfl
    rw [hin]
    constructor
    · intro doc' hdoc'
      have hmem : decode doc' ∈ values.map some := hdocs ▸ List.mem_map_of_mem hdoc'
      obtain ⟨value, -, hvalue⟩ := List.mem_map.1 hmem
      exact ⟨side value, by rw [← hvalue, Option.map_some]⟩
    · refine pickSides_elim (motive := fun s =>
        ∃ doc' ∈ layout.items "competitors" doc, (decode doc').map side = some s) hsides ?_
      intro entry hentry
      obtain ⟨value, hvalue, rfl⟩ := List.mem_map.1 hentry
      have hmem : some value ∈ (layout.items "competitors" doc).map decode :=
        hdocs ▸ List.mem_map_of_mem hvalue
      obtain ⟨doc', hdoc', hdecode⟩ := List.mem_map.1 hmem
      exact ⟨doc', hdoc', by rw [hdecode, Option.map_some]⟩

end Lists

/-! ## Games -/

theorem exists_of_bind_eq_ok {ε α β : Type} {x : Except ε α} {f : α → Except ε β} {b : β}
    (h : x >>= f = .ok b) : ∃ a, x = .ok a ∧ f a = .ok b := by
  cases x with
  | error e => exact nomatch h
  | ok a => exact ⟨a, rfl, h⟩

variable {game : Game}

theorem ScoreboardGame.exists_of_game {g : ScoreboardGame} (h : g.game = .ok game) :
    ∃ contest, firstContest .competitions g.competitions = .ok contest ∧
      pickSides (contest.competitors.map fun s => (s.homeAway, s.side)) =
        .ok (game.home, game.away) := by
  obtain ⟨start, -, h⟩ := exists_of_bind_eq_ok h
  obtain ⟨contest, hcontest, h⟩ := exists_of_bind_eq_ok h
  obtain ⟨sides, hsides, h⟩ := exists_of_bind_eq_ok h
  obtain rfl := Except.ok.inj h
  exact ⟨contest, hcontest, hsides⟩

theorem ScheduleGame.exists_of_game {g : ScheduleGame} (h : g.game = .ok game) :
    ∃ contest, firstContest .competitions g.competitions = .ok contest ∧
      pickSides (contest.competitors.map fun s => (s.homeAway, s.side)) =
        .ok (game.home, game.away) := by
  obtain ⟨start, -, h⟩ := exists_of_bind_eq_ok h
  obtain ⟨contest, hcontest, h⟩ := exists_of_bind_eq_ok h
  obtain ⟨sides, hsides, h⟩ := exists_of_bind_eq_ok h
  obtain rfl := Except.ok.inj h
  exact ⟨contest, hcontest, hsides⟩

theorem SummaryPage.exists_of_game {page : SummaryPage} (h : page.game = .ok game) :
    ∃ contest, firstContest .summaryCompetitions page.header.competitions = .ok contest ∧
      pickSides (contest.competitors.map fun s => (s.homeAway, s.side)) =
        .ok (game.home, game.away) := by
  obtain ⟨contest, hcontest, h⟩ := exists_of_bind_eq_ok h
  obtain ⟨start, -, h⟩ := exists_of_bind_eq_ok h
  obtain ⟨sides, hsides, h⟩ := exists_of_bind_eq_ok h
  obtain rfl := Except.ok.inj h
  exact ⟨contest, hcontest, hsides⟩

/-- The documents that tell a game: an entry of the scoreboard, an entry of a schedule, or a
summary. -/
inductive Telling where
  | scoreboard
  | schedule
  | summary
  deriving DecidableEq, Repr

namespace Telling

/-- Reads the game that a document tells. -/
def game? : Telling → Json → Option (Except FeedError Game)
  | scoreboard, json => (ScoreboardGame.decode json).map ScoreboardGame.game
  | schedule, json => (ScheduleGame.decode json).map ScheduleGame.game
  | summary, json => (SummaryPage.decode json).map SummaryPage.game

/-- Reads a side from the document of a competitor. -/
def side? : Telling → Json → Option Side
  | scoreboard, doc => (ScoreboardSide.decode doc).map ScoreboardSide.side
  | schedule, doc => (ScheduleSide.decode doc).map ScheduleSide.side
  | summary, doc => (SummarySide.decode doc).map SummarySide.side

/-- The documents of the competitors, in the first contest that is given. -/
def competitors : Telling → Json → List Json
  | scoreboard, json =>
    competitorsIn ScoreboardContest.layout (ScoreboardGame.layout.items "competitions" json)
  | schedule, json =>
    competitorsIn ScheduleContest.layout (ScheduleGame.layout.items "competitions" json)
  | summary, json =>
    competitorsIn SummaryContest.layout (((SummaryPage.layout.given? "header" json).map
      (SummaryHeader.layout.items "competitions")).getD [])

/-- The line scores that are listed for a competitor. A schedule lists none. -/
def entries : Telling → Json → List Json
  | scoreboard, doc => ScoreboardSide.layout.items "linescores" doc
  | schedule, _ => []
  | summary, doc => SummarySide.layout.items "linescores" doc

/-- A competitor's score is given: as a text, or on a schedule as a quantity or a text. -/
def GivesScore : Telling → Json → Prop
  | scoreboard, doc => IsSaid (ScoreboardSide.layout.given? "score" doc)
  | schedule, doc => ∃ score, ScheduleSide.layout.given? "score" doc = some score ∧
      ((∃ n, ScheduleScore.layout.given? "value" score = some (.number n)) ∨
        IsSaid (ScheduleScore.layout.given? "displayValue" score))
  | summary, doc => IsSaid (SummarySide.layout.given? "score" doc)

/-- The points of a period are given: as a quantity on the scoreboard, as a text in a summary. -/
def GivesPoints : Telling → Json → Prop
  | scoreboard, entry => ∃ n, LineValue.layout.given? "value" entry = some (.number n)
  | schedule, _ => False
  | summary, entry => IsSaid (LineText.layout.given? "displayValue" entry)

/-- What an entry of the line scores is read as. -/
def reading : Telling → Json → Option Int
  | scoreboard, entry => (LineValue.decode entry).map fun line => saturate line.value
  | schedule, _ => none
  | summary, entry => (LineText.decode entry).bind fun line => readScore? line.displayValue

/-- What an entry without points is read as. -/
def unsaid : Telling → Option Int
  | scoreboard => some 0
  | schedule | summary => none

variable {kind : Telling} {json doc entry : Json} {side : Side}

/-- A game is told by two of its competitors, and each of them tells a side. -/
theorem sides_of_game? (h : kind.game? json = some (.ok game)) :
    (∀ doc ∈ kind.competitors json, ∃ side, kind.side? doc = some side) ∧
    (∃ home ∈ kind.competitors json, kind.side? home = some game.home) ∧
    ∃ away ∈ kind.competitors json, kind.side? away = some game.away := by
  cases kind with
  | scoreboard =>
    obtain ⟨g, hg, hgame⟩ := Option.map_eq_some_iff.1 h
    obtain ⟨contest, hcontest, hsides⟩ := g.exists_of_game hgame
    replace hg : ScoreboardGame.layout.decode json = some g := hg
    have hcontests := items_of_decode
      (Layout.field_of_decode hg (.there (.there (.there (.there (.there (.there (.here _))))))))
    refine sides_of_contest hcontests hcontest (fun doc hdoc => ?_) hsides
    exact items_of_decode (Layout.field_of_decode hdoc (.there (.there (.there (.here _)))))
  | schedule =>
    obtain ⟨g, hg, hgame⟩ := Option.map_eq_some_iff.1 h
    obtain ⟨contest, hcontest, hsides⟩ := g.exists_of_game hgame
    replace hg : ScheduleGame.layout.decode json = some g := hg
    have hcontests := items_of_decode
      (Layout.field_of_decode hg (.there (.there (.there (.there (.there (.there (.here _))))))))
    refine sides_of_contest hcontests hcontest (fun doc hdoc => ?_) hsides
    exact items_of_decode (Layout.field_of_decode hdoc (.there (.there (.there (.here _)))))
  | summary =>
    obtain ⟨page, hpage, hgame⟩ := Option.map_eq_some_iff.1 h
    obtain ⟨contest, hcontest, hsides⟩ := page.exists_of_game hgame
    replace hpage : SummaryPage.layout.decode json = some page := hpage
    have hcontests : (((SummaryPage.layout.given? "header" json).map
        (SummaryHeader.layout.items "competitions")).getD []).map SummaryContest.layout.decode =
          page.header.competitions.map some := by
      cases hgiven : SummaryPage.layout.given? "header" json with
      | none =>
        -- without a header there is no contest
        have hheader : page.header = {} := Layout.default_of_not_given hpage (.here _) hgiven
        rw [hheader]
        rfl
      | some header =>
        have hdecode := Layout.decode_of_given hpage (.here _) hgiven
        exact items_of_decode
          (Layout.field_of_decode hdecode (.there (.there (.there (.here _)))))
    refine sides_of_contest hcontests hcontest (fun doc hdoc => ?_) hsides
    exact items_of_decode (Layout.field_of_decode hdoc (.there (.there (.there (.here _)))))

theorem decode_entries {s : ScoreboardSide} (h : ScoreboardSide.layout.decode doc = some s) :
    (entries scoreboard doc).map LineValue.decode = s.linescores.map some :=
  items_of_decode (Layout.field_of_decode h (.there (.there (.there (.there (.here _))))))

/-- What is listed for a competitor is read entry by entry. -/
theorem lines_of_side? (h : kind.side? doc = some side) :
    side.points.lines = .ofEntries ((kind.entries doc).map kind.reading) := by
  cases kind with
  | scoreboard =>
    obtain ⟨s, hs, rfl⟩ := Option.map_eq_some_iff.1 h
    replace hs : ScoreboardSide.layout.decode doc = some s := hs
    have hreadings : (entries scoreboard doc).map (reading scoreboard) =
        (s.linescores.map fun line => saturate line.value).map some := by
      have := congrArg (List.map (Option.map fun line : LineValue => saturate line.value))
        (decode_entries hs)
      rw [List.map_map, List.map_map] at this
      rw [List.map_map]
      exact this
    rw [hreadings]
    rfl
  | schedule =>
    obtain ⟨s, -, rfl⟩ := Option.map_eq_some_iff.1 h
    rfl
  | summary =>
    obtain ⟨s, hs, rfl⟩ := Option.map_eq_some_iff.1 h
    replace hs : SummarySide.layout.decode doc = some s := hs
    have hentries : (entries summary doc).map LineText.decode = s.linescores.map some :=
      items_of_decode
        (Layout.field_of_decode hs (.there (.there (.there (.there (.there (.here _)))))))
    have hreadings : (entries summary doc).map (reading summary) =
        s.linescores.map fun line => readScore? line.displayValue := by
      have := congrArg (List.map fun line : Option LineText =>
        line.bind fun line => readScore? line.displayValue) hentries
      rw [List.map_map, List.map_map] at this
      exact this
    rw [hreadings]
    rfl

/-- **An entry without points** is unknown, except on the scoreboard, where it is zero. -/
theorem reading_of_not_givesPoints (h : kind.side? doc = some side)
    (hentry : entry ∈ kind.entries doc) (hpoints : ¬kind.GivesPoints entry) :
    kind.reading entry = kind.unsaid := by
  cases kind with
  | scoreboard =>
    obtain ⟨s, hs, rfl⟩ := Option.map_eq_some_iff.1 h
    replace hs : ScoreboardSide.layout.decode doc = some s := hs
    obtain ⟨line, -, hline⟩ := List.mem_map.1 (decode_entries hs ▸ List.mem_map_of_mem hentry)
    replace hline : LineValue.layout.decode entry = some line := hline.symm
    have hvalue : line.value = 0 := by
      cases hgiven : LineValue.layout.given? "value" entry with
      | none => exact Layout.default_of_not_given hline (.here _) hgiven
      | some value =>
        have hwhole : Json.whole? value = some line.value :=
          Layout.decode_of_given hline (.here _) hgiven
        cases value with
        | number n => exact absurd ⟨n, hgiven⟩ hpoints
        | _ => exact nomatch hwhole
    have hread : reading scoreboard entry = some (saturate line.value) :=
      congrArg (Option.map fun line : LineValue => saturate line.value) hline
    rw [hread, hvalue]
    rfl
  | schedule => exact nomatch hentry
  | summary =>
    show (LineText.layout.decode entry).bind (fun line => readScore? line.displayValue) = none
    cases hline : LineText.layout.decode entry with
    | none => rfl
    | some line =>
      exact readScore?_of_not_isSaid (Layout.field_of_decode hline (.here _)) hpoints

/-- **A score that is not given** is unknown. -/
theorem total_of_not_givesScore (h : kind.side? doc = some side) (hscore : ¬kind.GivesScore doc) :
    side.points.total = none := by
  cases kind with
  | scoreboard =>
    obtain ⟨s, hs, rfl⟩ := Option.map_eq_some_iff.1 h
    replace hs : ScoreboardSide.layout.decode doc = some s := hs
    exact bind_readScore?_of_not_isSaid
      (Layout.field_of_decode hs (.there (.there (.there (.here _))))) hscore
  | schedule =>
    obtain ⟨s, hs, rfl⟩ := Option.map_eq_some_iff.1 h
    replace hs : ScheduleSide.layout.decode doc = some s := hs
    show s.score.bind ScheduleScore.points? = none
    cases hgiven : ScheduleSide.layout.given? "score" doc with
    | none =>
      have hnone : s.score = none :=
        Layout.default_of_not_given hs (.there (.there (.there (.here _)))) hgiven
      rw [hnone]
      rfl
    | some given =>
      have hdecode : Json.nullable? ScheduleScore.decode given = some s.score :=
        Layout.decode_of_given hs (.there (.there (.there (.here _)))) hgiven
      cases hread : s.score with
      | none => rfl
      | some score =>
        rw [hread] at hdecode
        refine points?_of_not_given (decode_of_nullable? hdecode) ?_ ?_
        · exact fun hvalue => hscore ⟨given, hgiven, .inl hvalue⟩
        · exact fun hsaid => hscore ⟨given, hgiven, .inr hsaid⟩
  | summary =>
    obtain ⟨s, hs, rfl⟩ := Option.map_eq_some_iff.1 h
    replace hs : SummarySide.layout.decode doc = some s := hs
    exact bind_readScore?_of_not_isSaid
      (Layout.field_of_decode hs (.there (.there (.there (.there (.here _)))))) hscore

/-- Periods that are listed for a competitor without their points are unknown to a side. -/
structure KeepsUnknown (kind : Telling) (doc : Json) (points : Points) : Prop where
  quarter : ∀ i entry, (kind.entries doc)[i]? = some entry → ¬kind.GivesPoints entry → i < 4 →
    points.lines.quarter i = none
  /-- It makes no difference to overtime whether such a period is listed. -/
  overtime : ∀ i entry, (kind.entries doc)[i]? = some entry → ¬kind.GivesPoints entry → 4 ≤ i →
    points.lines.ot =
      (LineScores.ofEntries (((kind.entries doc).eraseIdx i).map kind.reading)).ot
  noOvertime : (∀ i entry, (kind.entries doc)[i]? = some entry → 4 ≤ i →
    ¬kind.GivesPoints entry) → points.lines.ot = none
  through : ∀ i entry, (kind.entries doc)[i]? = some entry → ¬kind.GivesPoints entry →
    ∀ league period, i ∈ period.parts league → points.through league period = none

/-- **Periods without points** are unknown on every page but the scoreboard. -/
theorem keepsUnknown_of_side? (hkind : kind ≠ .scoreboard) (h : kind.side? doc = some side) :
    kind.KeepsUnknown doc side.points := by
  have hunsaid : kind.unsaid = none := by
    cases kind with
    | scoreboard => exact absurd rfl hkind
    | _ => rfl
  have hlines := lines_of_side? h
  have hreadings : ∀ {i : Nat} {entry : Json}, (kind.entries doc)[i]? = some entry →
      ¬kind.GivesPoints entry → ((kind.entries doc).map kind.reading)[i]? = some none := by
    intro i entry hentry hpoints
    rw [List.getElem?_map, hentry, Option.map_some,
      reading_of_not_givesPoints h (List.mem_of_getElem? hentry) hpoints, hunsaid]
  have hquarter : ∀ i entry, (kind.entries doc)[i]? = some entry → ¬kind.GivesPoints entry →
      i < 4 → side.points.lines.quarter i = none := by
    intro i entry hentry hpoints hi
    rw [hlines, LineScores.quarter_ofEntries hi, hreadings hentry hpoints]
    rfl
  refine ⟨hquarter, ?overtime, ?noOvertime, ?through⟩
  case overtime =>
    intro i entry hentry hpoints hi
    rw [hlines, ← List.eraseIdx_map, LineScores.ot_ofEntries_eraseIdx hi (hreadings hentry hpoints)]
  case noOvertime =>
    intro hpoints
    rw [hlines]
    refine LineScores.ot_ofEntries_eq_none fun j value hj hvalue => ?_
    rw [List.getElem?_map, Option.map_eq_some_iff] at hvalue
    obtain ⟨entry, hentry, rfl⟩ := hvalue
    have hread := hreadings hentry (hpoints j entry hentry hj)
    rw [List.getElem?_map, hentry] at hread
    exact Option.some.inj hread
  case through =>
    intro i entry hentry hpoints league period hi
    exact Points.through_eq_none hi
      (hquarter i entry hentry hpoints (Period.lt_of_mem_parts hi))

end Telling

/-- **Scores that are left out.** Take a document that tells a game, on the scoreboard, on a
schedule or as a summary. The two sides of the game are told by two of its competitors. Where the
score of a competitor is not given, because it is missing, null, blank or without a value, it is
unknown, and so is the score of every period that it is the score of. Where a period is listed
without its points, in a summary it is unknown, with every period that it is a part of, and beyond
the fourth it adds nothing; a schedule lists no periods. On the scoreboard alone such a period is
read as one in which nothing was scored. -/
theorem scores_left_out (kind : Telling) {json : Json} {game : Game}
    (told : kind.game? json = some (.ok game)) :
    (∃ home ∈ kind.competitors json, kind.side? home = some game.home) ∧
    (∃ away ∈ kind.competitors json, kind.side? away = some game.away) ∧
    (∀ league period, (GameRecord.ofFeed league game).progress.scoreThrough league period =
      (game.home.points.through league period, game.away.points.through league period)) ∧
    ∀ doc ∈ kind.competitors json, ∃ side, kind.side? doc = some side ∧
      (¬kind.GivesScore doc → side.points.total = none ∧
        ∀ league period, period.isAtEnd = true → side.points.through league period = none) ∧
      side.points.lines = .ofEntries ((kind.entries doc).map kind.reading) ∧
      (kind ≠ .scoreboard → kind.KeepsUnknown doc side.points) ∧
      (kind = .scoreboard →
        ∀ entry ∈ kind.entries doc, ¬kind.GivesPoints entry → kind.reading entry = some 0) := by
  obtain ⟨every, home, away⟩ := Telling.sides_of_game? told
  refine ⟨home, away, fun _ _ => rfl, fun doc hdoc => ?_⟩
  obtain ⟨side, hside⟩ := every doc hdoc
  refine ⟨side, hside, ?score, Telling.lines_of_side? hside, fun hkind =>
    Telling.keepsUnknown_of_side? hkind hside, ?zero⟩
  case score =>
    intro hscore
    have htotal := Telling.total_of_not_givesScore hside hscore
    refine ⟨htotal, fun league period hperiod => ?_⟩
    rw [Points.through_of_isAtEnd _ _ hperiod, htotal]
  case zero =>
    rintro rfl entry hentry hpoints
    exact Telling.reading_of_not_givesPoints hside hentry hpoints

/-- In a summary the second period of the home side is blank and its fifth has no text, its score is
blank, and that of the guests is null. Only what is given is known. -/
theorem summary_with_blanks :
    let period (text : String) : Json := .ofMembers [("displayValue", .text text)]
    let homeDoc : Json := .ofMembers [("homeAway", .text "home"), ("score", .text " "),
      ("linescores", .array
        [period "7", period "", period "3", period "0", .ofMembers [], period "6"])]
    let awayDoc : Json := .ofMembers [("homeAway", .text "away"), ("score", .null)]
    let json : Json := .ofMembers [("header", .ofMembers [("competitions", .array
      [.ofMembers [("date", .text "2024-02-11T23:30Z"),
        ("competitors", .array [homeDoc, awayDoc])]])])]
    let home : Points := { lines := { q1 := some 7, q3 := some 3, q4 := some 0, ot := some 6 } }
    let game : Game :=
      { start := ⟨19764, 84600, 0, by decide, by decide⟩, status := .inProgress
        home := { points := home } }
    Telling.summary.game? json = some (.ok game) ∧
      ¬Telling.summary.GivesScore homeDoc ∧ ¬Telling.summary.GivesPoints (period "") ∧
      home.total = none ∧ home.through .nfl .q3 = none ∧ home.through .nfl .final = none := by
  intro period homeDoc awayDoc json home game
  have told : Telling.summary.game? json = some (.ok game) := by rfl
  have hscore : ¬Telling.summary.GivesScore homeDoc := by
    rintro ⟨text, htext, hsaid⟩
    obtain rfl : " " = text := Option.some.inj (Json.string.inj (Option.some.inj htext))
    exact absurd hsaid (by decide)
  have hpoints : ¬Telling.summary.GivesPoints (period "") := by
    rintro ⟨text, htext, hsaid⟩
    obtain rfl : "" = text := Option.some.inj (Json.string.inj (Option.some.inj htext))
    exact absurd hsaid (by decide)
  have hside : Telling.summary.side? homeDoc = some game.home := by rfl
  obtain ⟨-, -, -, every⟩ := scores_left_out .summary told
  obtain ⟨side, hread, total, -, keeps, -⟩ := every homeDoc (.head _)
  obtain rfl : game.home = side := Option.some.inj (hside.symm.trans hread)
  have hentry : (Telling.summary.entries homeDoc)[1]? = some (period "") := rfl
  exact ⟨told, hscore, hpoints, (total hscore).1,
    (keeps nofun).through 1 _ hentry hpoints .nfl .q3 (by decide), (total hscore).2 .nfl .final rfl⟩

/-- On a scoreboard the second period of the home side is listed without its points. It is read as
a period without any, and the score at halftime as that of the first period. -/
theorem scoreboard_reads_zero :
    let homeDoc : Json := .ofMembers [("homeAway", .text "home"),
      ("linescores", .array [.ofMembers [("value", .int 7)], .ofMembers []])]
    let awayDoc : Json := .ofMembers [("homeAway", .text "away")]
    let json : Json := .ofMembers [("date", .text "2024-02-11T23:30Z"), ("competitions", .array
      [.ofMembers [("competitors", .array [homeDoc, awayDoc])]])]
    let home : Points := { lines := { q1 := some 7, q2 := some 0 } }
    let game : Game :=
      { start := ⟨19764, 84600, 0, by decide, by decide⟩, status := .inProgress
        home := { points := home } }
    Telling.scoreboard.game? json = some (.ok game) ∧
      homeDoc ∈ Telling.scoreboard.competitors json ∧
      Telling.scoreboard.side? homeDoc = some game.home ∧
      (Telling.scoreboard.entries homeDoc)[1]? = some (.ofMembers []) ∧
      ¬Telling.scoreboard.GivesPoints (.ofMembers []) ∧
      home.lines.quarter 1 = some 0 ∧ home.through .nfl .half = some 7 ∧
      ¬Telling.scoreboard.KeepsUnknown homeDoc game.home.points := by
  intro homeDoc awayDoc json home game
  have hentry : (Telling.scoreboard.entries homeDoc)[1]? = some (.ofMembers []) := rfl
  have hpoints : ¬Telling.scoreboard.GivesPoints (.ofMembers []) := by
    rintro ⟨n, hn⟩
    exact nomatch hn
  refine ⟨by decide +kernel, .head _, by decide +kernel, hentry, hpoints, rfl, rfl, fun keeps => ?_⟩
  exact nomatch keeps.quarter 1 _ hentry hpoints (by decide)

end Feed

end SquarePool
