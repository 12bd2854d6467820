import Mathlib.Data.List.Basic
import SquarePool.Feed.Address
import SquarePool.Proofs.Text.Decimal
import SquarePool.Proofs.Text.Percent

/-!
# Addresses read back

Splitting an address at its marks and decoding the pieces gives back what it was built from. Main
statements: the parameters of a scoreboard's address are those that are asked, each from the option
it stands for; and the identifiers in the other addresses can be told apart and divide nothing.
-/

namespace SquarePool

/-! ## What a scoreboard is asked -/

/-- What is asked of the scoreboard of a league: no empty date, weeks of football only, and numbers
above zero. -/
def ScoreboardQuery.sent (query : ScoreboardQuery) (league : League) : ScoreboardQuery where
  date := query.date.filter (· ≠ "")
  week := if league.isFootball then query.week.filter (0 < ·) else none
  season := query.season.filter (0 < ·)
  seasonType := query.seasonType

/-- The value of the parameter with a name. -/
def ScoreboardQuery.value? (query : ScoreboardQuery) : String → Option String
  | "dates" => query.date
  | "week" => query.week.map Text.showInt
  | "seasonYear" => query.season.map Text.showInt
  | "seasontype" => query.seasonType.map fun part => Text.showInt part.code
  | _ => none

/-- The names of the parameters, in the order in which they are sent. -/
def parameterNames : List String := ["dates", "week", "seasonYear", "seasontype"]

/-- The parameters that are present, in order. -/
def ScoreboardQuery.present (query : ScoreboardQuery) : List (String × String) :=
  parameterNames.filterMap fun name => (query.value? name).map (name, ·)

theorem ScoreboardQuery.present_eq (query : ScoreboardQuery) :
    query.present = (query.date.map ("dates", ·)).toList
      ++ (query.week.map fun n => ("week", Text.showInt n)).toList
      ++ (query.season.map fun n => ("seasonYear", Text.showInt n)).toList
      ++ (query.seasonType.map fun part => ("seasontype", Text.showInt part.code)).toList := by
  obtain ⟨_ | date, _ | week, _ | season, _ | part⟩ := query <;> rfl

theorem lookup_filterMap (names : List String) (value? : String → Option String) (name : String) :
    (names.filterMap fun n => (value? n).map (n, ·)).lookup name =
      if name ∈ names then value? name else none := by
  induction names with
  | nil => rfl
  | cons n rest ih =>
    by_cases hn : name = n
    · subst hn
      cases h : value? name with
      | none => simp [h, ih]
      | some v => simp [h]
    · cases h : value? n <;> simp [h, ih, hn, List.lookup_cons, beq_eq_false_iff_ne.2 hn]

/-- A parameter has the value that its own option gives it. -/
theorem ScoreboardQuery.lookup_present (query : ScoreboardQuery) (name : String) :
    query.present.lookup name = query.value? name := by
  rw [ScoreboardQuery.present, lookup_filterMap]
  split
  next => rfl
  next h =>
    unfold ScoreboardQuery.value?
    split <;> first | rfl | exact absurd (by decide) h

theorem SeasonType.code_injective (p r : SeasonType) : p.code = r.code → p = r := by
  cases p <;> cases r <;> decide

/-- The parameters that are present say all of a query. -/
theorem ScoreboardQuery.present_injective {a b : ScoreboardQuery} (h : a.present = b.present) :
    a = b := by
  have hvalue : ∀ name, a.value? name = b.value? name := fun name => by
    rw [← lookup_present, ← lookup_present, h]
  have hdate : a.date = b.date := hvalue "dates"
  have hweek : a.week = b.week :=
    Option.map_injective (fun _ _ => Text.showInt_injective) (hvalue "week")
  have hseason : a.season = b.season :=
    Option.map_injective (fun _ _ => Text.showInt_injective) (hvalue "seasonYear")
  have hpart : a.seasonType = b.seasonType := by
    refine Option.map_injective (fun p r hcode => ?_) (hvalue "seasontype")
    exact SeasonType.code_injective p r (Text.showInt_injective hcode)
  cases a
  cases b
  simp_all

namespace Feed

/-! ## Reading addresses -/

/-- What follows the last place where a part stands. -/
def afterLast? (part : List Char) : List Char → Option (List Char)
  | [] => part.isPrefixOf? []
  | c :: cs => afterLast? part cs <|> part.isPrefixOf? (c :: cs)

/-- Reads a parameter: a name and a value about an equals sign. -/
def readParameter? (cs : List Char) : Option (String × String) :=
  match cs.splitOn '=' with
  | [name, value] => do
    return (← Text.Percent.decode? (String.ofList name),
      ← Text.Percent.decode? (String.ofList value))
  | _ => none

/-- Reads what follows a page: nothing, or a question mark and parameters between ampersands. -/
def readQuery? (cs : List Char) : Option (List (String × String)) :=
  match cs.splitOn '?' with
  | [[]] => some []
  | [[], parameters] => (parameters.splitOn '&').mapM readParameter?
  | _ => none

/-- Reads the parameters of a scoreboard's address: what follows its last `/scoreboard`. -/
def readParameters? (url : String) : Option (List (String × String)) :=
  (afterLast? "/scoreboard".toList url.toList).bind readQuery?

/-! ## Parts of an address -/

section Parts

variable {name front rest : List Char}

/-- A part that starts with a slash stands nowhere in a text without one. -/
theorem afterLast?_of_not_mem (h : '/' ∉ rest) : afterLast? ('/' :: name) rest = none := by
  induction rest with
  | nil => rfl
  | cons c rest ih =>
    have hc : '/' ≠ c := fun heq => h (heq ▸ List.mem_cons_self)
    rw [afterLast?, ih fun hrest => h (List.mem_cons_of_mem c hrest), List.isPrefixOf?,
      if_neg (by simpa using hc)]
    rfl

theorem afterLast?_append {part cs : List Char} (h : afterLast? part cs = some rest) :
    afterLast? part (front ++ cs) = some rest := by
  induction front with
  | nil => exact h
  | cons c front ih =>
    rw [List.cons_append, afterLast?, ih]
    rfl

/-- A part that starts with its only slash stands last where no slash follows. -/
theorem afterLast?_eq (hname : '/' ∉ name) (hrest : '/' ∉ rest) :
    afterLast? ('/' :: name) (front ++ ('/' :: name ++ rest)) = some rest := by
  refine afterLast?_append ?_
  rw [List.cons_append, afterLast?, afterLast?_of_not_mem (by simp [hname, hrest]),
    ← List.cons_append, List.isPrefixOf?_eq_some_iff_append_eq.2 rfl]
  rfl

end Parts

/-- Two texts are told apart by a character between them that neither holds. -/
theorem splitOn_pair {c : Char} {before after : List Char} (hbefore : c ∉ before)
    (hafter : c ∉ after) : (before ++ c :: after).splitOn c = [before, after] := by
  have hjoin : before ++ c :: after = [c].intercalate [before, after] := by simp
  rw [hjoin]
  exact List.splitOn_intercalate c (by simp [hbefore, hafter]) (List.cons_ne_nil _ _)

/-! ## Parameters -/

/-- A parameter as it is written. -/
def writtenParameter (parameter : String × String) : List Char :=
  parameter.1.toList ++ '=' :: (Text.Percent.encode parameter.2).toList

/-- A name that is written as it is. -/
def IsPlain (name : String) : Prop := Text.Percent.encode name = name

/-- A character that neither plain names nor escaped values hold. -/
def IsMark (c : Char) : Prop :=
  c ≠ '%' ∧ Text.Percent.isUnreserved (UInt8.ofNat c.toNat) = false

instance (c : Char) : Decidable (IsMark c) := inferInstanceAs (Decidable (_ ∧ _))

theorem isMark_of_mem {c : Char} (h : c ∈ ['/', '?', '&', '#']) : IsMark c := by
  simp only [List.mem_cons, List.not_mem_nil, or_false] at h
  obtain rfl | rfl | rfl | rfl := h <;> decide

theorem IsMark.not_mem_encode {c : Char} (h : IsMark c) (s : String) :
    c ∉ (Text.Percent.encode s).toList :=
  Text.Percent.not_mem_encode h.1 h.2 s

theorem IsPlain.not_mem {name : String} (hname : IsPlain name) {c : Char} (h : IsMark c) :
    c ∉ name.toList := by
  have hmem := h.not_mem_encode name
  rwa [hname] at hmem

theorem not_mem_writtenParameter {c : Char} (h : IsMark c) (hc : c ≠ '=')
    {parameter : String × String} (hname : IsPlain parameter.1) :
    c ∉ writtenParameter parameter := by
  rw [writtenParameter, List.mem_append, List.mem_cons]
  rintro (hin | hin | hin)
  · exact hname.not_mem h hin
  · exact hc hin
  · exact h.not_mem_encode _ hin

/-- What is written is read back. -/
theorem readParameter?_written {parameter : String × String} (hname : IsPlain parameter.1) :
    readParameter? (writtenParameter parameter) = some parameter := by
  have heq : IsMark '=' := by decide
  have hsplit := splitOn_pair (hname.not_mem heq) (heq.not_mem_encode parameter.2)
  rw [readParameter?, writtenParameter, hsplit]
  have hread : Text.Percent.decode? parameter.1 = some parameter.1 := by
    have hdecode := Text.Percent.decode?_encode parameter.1
    rwa [hname] at hdecode
  simp [hread, Text.Percent.decode?_encode]

theorem toList_writeParameters {parameters : List (String × String)} (h : parameters ≠ []) :
    (writeParameters parameters).toList =
      '?' :: ['&'].intercalate (parameters.map writtenParameter) := by
  obtain ⟨first, rest, rfl⟩ := List.exists_cons_of_ne_nil h
  rw [writeParameters, String.toList_append, String.toList_intercalate, List.map_map]
  · refine congrArg (fun pieces => '?' :: ['&'].intercalate pieces)
      (List.map_congr_left fun parameter _ => ?_)
    obtain ⟨name, value⟩ := parameter
    simp [writtenParameter]
  · exact h

/-- A text put together holds what its pieces and the character between them hold, and no more. -/
theorem not_mem_intercalate {c d : Char} {pieces : List (List Char)} (hd : c ≠ d)
    (h : ∀ piece ∈ pieces, c ∉ piece) : c ∉ [d].intercalate pieces := by
  induction pieces with
  | nil => exact List.not_mem_nil
  | cons first rest ih =>
    have hfirst := h first List.mem_cons_self
    cases rest with
    | nil => simpa [List.intercalate] using hfirst
    | cons second rest =>
      rw [List.intercalate_cons_cons, List.mem_append, List.mem_append, List.mem_singleton]
      rintro ((hin | hin) | hin)
      · exact hfirst hin
      · exact hd hin
      · exact ih (fun piece hp => h piece (List.mem_cons_of_mem _ hp)) hin

section Written

variable {parameters : List (String × String)}

theorem not_mem_writtenParameters (hnames : ∀ parameter ∈ parameters, IsPlain parameter.1)
    {c : Char} (h : IsMark c) (heq : c ≠ '=') (hand : c ≠ '&') :
    c ∉ ['&'].intercalate (parameters.map writtenParameter) := by
  refine not_mem_intercalate hand fun piece hpiece => ?_
  obtain ⟨parameter, hmem, rfl⟩ := List.mem_map.1 hpiece
  exact not_mem_writtenParameter h heq (hnames parameter hmem)

theorem mapM_readParameter?_written (hnames : ∀ parameter ∈ parameters, IsPlain parameter.1) :
    (parameters.map writtenParameter).mapM readParameter? = some parameters := by
  induction parameters with
  | nil => rfl
  | cons parameter rest ih =>
    rw [List.map_cons, List.mapM_cons, readParameter?_written (hnames _ List.mem_cons_self),
      ih fun p hp => hnames p (List.mem_cons_of_mem _ hp)]
    rfl

/-- Parameters that are written after a page are read back. -/
theorem readQuery?_written (hnames : ∀ parameter ∈ parameters, IsPlain parameter.1) :
    readQuery? (writeParameters parameters).toList = some parameters := by
  by_cases hnil : parameters = []
  · subst hnil
    rfl
  · have hquestion := splitOn_pair (List.not_mem_nil (a := '?'))
      (not_mem_writtenParameters hnames (c := '?') (by decide) (by decide) (by decide))
    have hand : (['&'].intercalate (parameters.map writtenParameter)).splitOn '&' =
        parameters.map writtenParameter := by
      refine List.splitOn_intercalate '&' (fun piece hpiece => ?_) (by simpa using hnil)
      obtain ⟨parameter, hmem, rfl⟩ := List.mem_map.1 hpiece
      exact not_mem_writtenParameter (by decide) (by decide) (hnames parameter hmem)
    rw [List.nil_append] at hquestion
    rw [readQuery?, toList_writeParameters hnil, hquestion]
    show (((['&'].intercalate (parameters.map writtenParameter)).splitOn '&').mapM
      readParameter?) = _
    rw [hand, mapM_readParameter?_written hnames]

/-- No parameter holds a slash, so the page before it is the last. -/
theorem not_mem_writeParameters (hnames : ∀ parameter ∈ parameters, IsPlain parameter.1) :
    '/' ∉ (writeParameters parameters).toList := by
  by_cases hnil : parameters = []
  · subst hnil
    exact List.not_mem_nil
  · rw [toList_writeParameters hnil, List.mem_cons, not_or]
    exact ⟨by decide,
      not_mem_writtenParameters hnames (c := '/') (by decide) (by decide) (by decide)⟩

theorem readParameters?_written (front : String)
    (hnames : ∀ parameter ∈ parameters, IsPlain parameter.1) :
    readParameters? (front ++ "/scoreboard" ++ writeParameters parameters) = some parameters := by
  have hlast : afterLast? "/scoreboard".toList
      (front ++ "/scoreboard" ++ writeParameters parameters).toList =
        some (writeParameters parameters).toList := by
    rw [String.toList_append, String.toList_append, List.append_assoc]
    exact afterLast?_eq (by decide) (not_mem_writeParameters hnames)
  rw [readParameters?, hlast, Option.bind_some, readQuery?_written hnames]

end Written

/-! ## What is sent of a query -/

theorem isPlain_of_mem_parameterNames {name : String} (h : name ∈ parameterNames) :
    IsPlain name := by
  simp only [parameterNames, List.mem_cons, List.not_mem_nil, or_false] at h
  unfold IsPlain
  obtain rfl | rfl | rfl | rfl := h <;> decide +kernel

theorem scoreboardParameters_eq (league : League) (query : ScoreboardQuery) :
    scoreboardParameters league query = (query.sent league).present := by
  rw [ScoreboardQuery.present_eq, scoreboardParameters, ScoreboardQuery.sent]
  simp only [Option.toList_map, List.map_map]
  cases league.isFootball <;> rfl

/-- **The address of a scoreboard reads back as what is asked of it.** -/
theorem readParameters?_scoreboardAddress (base : String) (league : League)
    (query : ScoreboardQuery) :
    readParameters? (scoreboardAddress base league query) = some (query.sent league).present := by
  have hpage : scoreboardAddress base league query =
      base ++ "/" ++ league.feedPath ++ "/scoreboard" ++
        writeParameters (query.sent league).present := by
    have hslash : "/scoreboard" = "/" ++ "scoreboard" := by decide
    rw [scoreboardAddress, leaguePage, scoreboardParameters_eq, hslash, ← String.append_assoc]
  rw [hpage]
  refine readParameters?_written _ fun parameter hmem => ?_
  obtain ⟨name, hname, hparameter⟩ := List.mem_filterMap.1 hmem
  obtain ⟨value, -, rfl⟩ := Option.map_eq_some_iff.1 hparameter
  exact isPlain_of_mem_parameterNames hname

/-- An escaped text holds no mark. -/
theorem count_encode {c : Char} (h : IsMark c) (s : String) :
    (Text.Percent.encode s).toList.count c = 0 :=
  List.count_eq_zero.2 (h.not_mem_encode s)

/-- An identifier can be read off between texts that are the same for all. -/
theorem eq_of_append_encode {front back s t : String}
    (h : front ++ Text.Percent.encode s ++ back = front ++ Text.Percent.encode t ++ back) :
    s = t := by
  have hchars := congrArg String.toList h
  simp only [String.toList_append] at hchars
  have hencode := List.append_cancel_left (List.append_cancel_right hchars)
  exact Text.Percent.encode_injective (String.toList_inj.1 hencode)

/-- How often each mark that divides an address stands in it. -/
def marksIn (address : String) : List Nat :=
  ['/', '?', '&', '#'].map fun c => address.toList.count c

/-- **Addresses read back as the questions they stand for.** The parameters of a scoreboard's
address are those that are asked, in order, each as its own option says, so two queries have the
same address just if the same is asked. Schedules of two teams and summaries of two games have two
addresses, and no identifier adds a mark that divides an address. -/
theorem addresses_read_back (base : String) (league : League) :
    (∀ query, readParameters? (scoreboardAddress base league query) =
      some (query.sent league).present) ∧
    (∀ query name, (readParameters? (scoreboardAddress base league query)).bind (·.lookup name) =
      (query.sent league).value? name) ∧
    (∀ a b, scoreboardAddress base league a = scoreboardAddress base league b ↔
      a.sent league = b.sent league) ∧
    (∀ s t, scheduleAddress base league s = scheduleAddress base league t ↔ s = t) ∧
    (∀ s t, summaryAddress base league s = summaryAddress base league t ↔ s = t) ∧
    (∀ id, marksIn (scheduleAddress base league id) = marksIn (scheduleAddress base league "")) ∧
    ∀ id, marksIn (summaryAddress base league id) = marksIn (summaryAddress base league "") := by
  refine ⟨readParameters?_scoreboardAddress base league, fun query name => ?_, fun a b => ?_,
    fun s t => ⟨fun h => ?_, congrArg _⟩, fun s t => ⟨fun h => ?_, congrArg _⟩,
    fun id => List.map_congr_left fun c hc => ?_, fun id => List.map_congr_left fun c hc => ?_⟩
  · rw [readParameters?_scoreboardAddress, Option.bind_some, ScoreboardQuery.lookup_present]
  · constructor
    · intro h
      have hread := readParameters?_scoreboardAddress base league a
      rw [h, readParameters?_scoreboardAddress] at hread
      exact (ScoreboardQuery.present_injective (Option.some.inj hread)).symm
    · intro h
      rw [scoreboardAddress, scoreboardAddress, scoreboardParameters_eq, scoreboardParameters_eq, h]
  · simp only [scheduleAddress, leaguePage, ← String.append_assoc] at h
    exact eq_of_append_encode h
  · simp only [summaryAddress, leaguePage, ← String.append_assoc] at h
    exact eq_of_append_encode (congrArg (· ++ "") h)
  · simp only [scheduleAddress, leaguePage, String.toList_append, List.count_append,
      count_encode (isMark_of_mem hc)]
  · simp only [summaryAddress, leaguePage, String.toList_append, List.count_append,
      count_encode (isMark_of_mem hc)]

example :
    let query : ScoreboardQuery :=
      { date := some "1&week=2/scoreboard?", week := some 3, season := some 0 }
    readParameters? (scoreboardAddress "http://host" .nfl query) =
      some [("dates", "1&week=2/scoreboard?"), ("week", "3")] := by decide +kernel

end Feed

end SquarePool
