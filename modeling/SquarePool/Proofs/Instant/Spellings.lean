import SquarePool.Feed.Reading
import SquarePool.Proofs.Calendar
import SquarePool.Proofs.Instant.Forms

/-!
# The spellings of an instant

How a moment is written: to the minute in universal time, or in the Internet form of RFC 3339 by a
clock that shows the time of some place, with a fraction of up to nine digits. Main statement: every
spelling of a moment is read as this moment, and no other order of the trials would read it
otherwise.
-/

namespace SquarePool

namespace Instant

/-- What a clock shows that is so many minutes ahead, as if it showed universal time. -/
def ahead (t : Instant) (minutes : Int) : Instant :=
  ofSeconds (t.seconds + minutes * 60) t.nano t.nano_lt

/-- A leap second comes at the end of a minute. -/
def IsOnClock (t : Instant) : Prop := 1000000000 ≤ t.nano → t.second % 60 = 59

/-- The year has four digits. -/
def HasPlainYear (t : Instant) : Prop := 0 ≤ t.date.civil.year ∧ t.date.civil.year ≤ 9999

instance (t : Instant) : Decidable t.HasPlainYear := inferInstanceAs (Decidable (_ ∧ _))

/-- Date and time to the minute, with a mark between them. -/
def clockText (t : Instant) (mark : Char) : String :=
  t.date.toText ++ String.singleton mark ++ Text.padded 2 (t.second / 3600) ++ ":"
    ++ Text.padded 2 (t.second / 60 % 60)

/-- The second of the minute, which for a leap second is the sixtieth. -/
def clockSecond (t : Instant) : Nat := t.second % 60 + if 1000000000 ≤ t.nano then 1 else 0

/-- The fraction of the second. -/
def clockNano (t : Instant) : Nat := t.nano % 1000000000

/-- A fraction to so many places, after a point if there are any. -/
def fractionText (places nano : Nat) : String :=
  if places = 0 then "" else "." ++ Text.padded places (nano / 10 ^ (9 - places))

/-- The ways to write by how many minutes a clock is ahead of universal time. -/
inductive WritesOffset : Int → String → Prop
  | upper : WritesOffset 0 "Z"
  | lower : WritesOffset 0 "z"
  | plus (minutes : Nat) (h : minutes < 1440) : WritesOffset minutes
      ("+" ++ Text.padded 2 (minutes / 60) ++ ":" ++ Text.padded 2 (minutes % 60))
  | minus (minutes : Nat) (h : minutes < 1440) : WritesOffset (-minutes)
      ("-" ++ Text.padded 2 (minutes / 60) ++ ":" ++ Text.padded 2 (minutes % 60))

/-- What a clock shows in the Internet form, to so many places and with its zone. -/
def internetText (shown : Instant) (mark : Char) (places : Nat) (zone : String) : String :=
  shown.clockText mark ++ ":" ++ Text.padded 2 shown.clockSecond
    ++ fractionText places shown.clockNano ++ zone

/-- The spellings of a moment. -/
inductive Spelling (t : Instant) : String → Prop
  /-- To the minute, in universal time. -/
  | minute (second : t.second % 60 = 0) (nano : t.nano = 0) (year : t.HasPlainYear) :
    Spelling t (t.clockText 'T' ++ "Z")
  /-- In the Internet form, by a clock that is ahead by so many minutes. -/
  | internet {mark : Char} {places : Nat} {minutes : Int} {zone : String} (clock : t.IsOnClock)
    (hmark : mark = 'T' ∨ mark = 't' ∨ mark = ' ') (hplaces : places ≤ 9)
    (fits : 10 ^ (9 - places) ∣ t.clockNano) (hzone : WritesOffset minutes zone)
    (year : (t.ahead minutes).HasPlainYear) :
    Spelling t ((t.ahead minutes).internetText mark places zone)

variable {t : Instant} {rest : List Char} {c mark : Char} {minutes : Int} {zone : String}

/-! ## Clocks -/

theorem seconds_ofSeconds (seconds : Int) {nano : Nat} (h : nano < 2000000000) :
    (ofSeconds seconds nano h).seconds = seconds := by
  simp only [Instant.seconds, ofSeconds]
  omega

theorem ofSeconds_seconds (t : Instant) : ofSeconds t.seconds t.nano t.nano_lt = t := by
  obtain ⟨day, second, nano, hsecond, hnano⟩ := t
  simp only [ofSeconds, Instant.seconds, mk.injEq, and_true]
  omega

theorem IsOnClock.ahead (h : t.IsOnClock) (minutes : Int) : (t.ahead minutes).IsOnClock := by
  intro hleap
  have hsecond := h hleap
  simp only [Instant.ahead, ofSeconds, Instant.seconds]
  omega

/-- The fields of a moment up to the minute. -/
def clockFields (t : Instant) : Fields where
  year := t.date.civil.year
  month := t.date.civil.month
  day := t.date.civil.day
  hour := t.second / 3600
  minute := t.second / 60 % 60

/-- **The fields of a clock** name the moment at which it shows them. -/
theorem instant?_clockFields (clock : t.IsOnClock) (year : t.HasPlainYear) (offset : Int) :
    Fields.instant? { t.clockFields with second := t.clockSecond, nano := t.clockNano } offset =
      some (ofSeconds (t.seconds - offset) t.nano t.nano_lt) := by
  obtain ⟨hfirst, hlast⟩ := year
  have hsecond := t.second_lt
  have hnano := t.nano_lt
  have hclock : t.clockSecond ≤ 60 ∧ t.clockNano < 1000000000 := by
    simp only [clockSecond, clockNano]
    split <;> omega
  have hfields : t.second / 3600 < 24 ∧ t.second / 60 % 60 < 60 ∧ t.clockSecond ≤ 60 ∧
      t.clockNano < 1000000000 ∧ -maxYear - 1 ≤ t.date.civil.year ∧
      t.date.civil.year ≤ maxYear := by
    simp only [maxYear, Calendar.lastYear]
    omega
  -- second sixty stands for a leap second, which counts as the second before it
  have hleap : t.clockSecond = 60 ↔ 1000000000 ≤ t.nano := by
    constructor
    · simp only [clockSecond]
      split <;> omega
    · intro h
      rw [clockSecond, clock h, if_pos h]
  have hnano' : (if t.clockSecond = 60 then t.clockNano + 1000000000 else t.clockNano) =
      t.nano := by
    simp only [hleap, clockNano]
    split <;> omega
  have hseconds : t.date.number * 86400 + (t.second / 3600 : Nat) * 3600 +
      (t.second / 60 % 60 : Nat) * 60 + (if t.clockSecond = 60 then 59 else t.clockSecond : Nat) -
      offset = t.seconds - offset := by
    have hshown : (if t.clockSecond = 60 then 59 else t.clockSecond) = t.second % 60 := by
      by_cases h : 1000000000 ≤ t.nano
      · rw [if_pos (hleap.2 h), clock h]
      · rw [if_neg (mt hleap.1 h), clockSecond, if_neg h, Nat.add_zero]
    rw [hshown]
    simp only [date, Instant.seconds]
    omega
  simp only [Fields.instant?, clockFields]
  rw [dif_pos hfields, t.date.ofCivil?_civil, Option.map_some]
  congr 1
  congr 1

/-! ## Digits -/

/-- **A number of a fixed width** is read back, whatever follows it. -/
theorem readDigits_fixedWidth {width n : Nat} (h : n < 10 ^ width) (rest : List Char) :
    readDigits width width (Text.fixedWidth width n ++ rest) = some (n, rest) := by
  rw [readDigits, Text.takeDigits_fixedWidth]
  simp [Text.ofDigits_lastDigits, Nat.mod_eq_of_lt h]

theorem toList_clockText (year : t.HasPlainYear) (mark : Char) :
    (t.clockText mark).toList = Text.fixedWidth 4 t.date.civil.year.toNat ++
      '-' :: (Text.fixedWidth 2 t.date.civil.month ++ '-' :: (Text.fixedWidth 2 t.date.civil.day ++
        mark :: (Text.fixedWidth 2 (t.second / 3600) ++
          ':' :: Text.fixedWidth 2 (t.second / 60 % 60)))) := by
  obtain ⟨hmonth, hday⟩ := CivilDate.lt_of_isValid t.date.civil_isValid
  have hsecond := t.second_lt
  have hyear : t.date.civil.year.toNat < 10 ^ 4 := by have := year.2; omega
  have hshow : showYear t.date.civil.year = Text.padded 4 t.date.civil.year.toNat := if_pos year
  have hcolon : ":".toList = [':'] := rfl
  have hhyphen : "-".toList = ['-'] := rfl
  simp only [clockText, Date.toText, hshow, String.toList_append, String.toList_singleton, hcolon,
    hhyphen, List.append_assoc, List.cons_append, List.nil_append]
  rw [Text.toList_padded hyear, Text.toList_padded (by omega), Text.toList_padded (by omega),
    Text.toList_padded (by omega), Text.toList_padded (by omega)]

theorem startsFixed_clockText (year : t.HasPlainYear) (mark : Char) (rest : List Char) :
    StartsFixed ((t.clockText mark).toList ++ rest) t.clockFields mark rest := by
  obtain ⟨hmonth, hday⟩ := CivilDate.lt_of_isValid t.date.civil_isValid
  have hsecond := t.second_lt
  have hyear : t.date.civil.year.toNat < 10 ^ 4 := by have := year.2; omega
  have hfields : t.clockFields =
      { t.clockFields with year := (t.date.civil.year.toNat : Int) } := by
    rw [Int.toNat_of_nonneg year.1]
    rfl
  rw [hfields, toList_clockText year]
  simp only [List.append_assoc, List.cons_append]
  exact .intro (readDigits_fixedWidth hyear _) (readDigits_fixedWidth (by omega) _)
    (readDigits_fixedWidth (by omega) _) (readDigits_fixedWidth (by omega) _)
    (readDigits_fixedWidth (by omega) _)

theorem readFraction_fractionText {places nano : Nat} (hplaces : places ≤ 9)
    (hnano : nano < 1000000000) (fits : 10 ^ (9 - places) ∣ nano) (hdigit : Text.digit? c = none)
    (hpoint : c ≠ '.') :
    readFraction ((fractionText places nano).toList ++ c :: rest) = some (nano, c :: rest) := by
  obtain ⟨value, rfl⟩ := fits
  have hpow : 10 ^ (9 - places) * 10 ^ places = 1000000000 := by
    rw [← Nat.pow_add, Nat.sub_add_cancel hplaces]
  have hvalue : value < 10 ^ places := by
    rw [← hpow] at hnano
    exact Nat.lt_of_mul_lt_mul_left hnano
  rw [fractionText, Nat.mul_div_cancel_left value (Nat.pow_pos (by decide))]
  split
  next hzero =>
    subst hzero
    obtain rfl : value = 0 := by simpa using hvalue
    simp [readFraction, hpoint]
  next hsome =>
    have htake : Text.takeDigits 9 (Text.fixedWidth places value ++ c :: rest) =
        (Text.lastDigits places value, c :: rest) :=
      Text.takeDigits_fixedWidth_cons hplaces value hdigit
    have hnonempty : (Text.lastDigits places value).isEmpty = false := by
      rw [List.isEmpty_eq_false_iff, ← List.length_pos_iff, Text.length_lastDigits]
      omega
    have hspan : Text.spanDigits (c :: rest) = ([], c :: rest) :=
      Text.takeDigits_of_not_digit hdigit _
    rw [String.toList_append, Text.toList_padded hvalue]
    show readFractionDigits (Text.fixedWidth places value ++ c :: rest) = _
    rw [readFractionDigits, htake]
    simp only [hnonempty, hspan, Text.length_lastDigits, Text.ofDigits_lastDigits,
      Nat.mod_eq_of_lt hvalue]
    rw [Nat.mul_comm]
    rfl

theorem toList_offset {sign : String} {minutes : Nat} (h : minutes < 1440) :
    (sign ++ Text.padded 2 (minutes / 60) ++ ":" ++ Text.padded 2 (minutes % 60)).toList =
      sign.toList ++ (Text.fixedWidth 2 (minutes / 60) ++
        ':' :: Text.fixedWidth 2 (minutes % 60)) := by
  have hcolon : ":".toList = [':'] := rfl
  simp only [String.toList_append, hcolon, List.append_assoc, List.cons_append, List.nil_append]
  rw [Text.toList_padded (by omega), Text.toList_padded (by omega)]

/-- A sign, hours and minutes are read back. -/
theorem readOffset_sign {sign : Char} {factor : Int} {minutes : Nat} (h : minutes < 1440)
    (hsign : sign = '+' ∧ factor = 1 ∨ sign = '-' ∧ factor = -1) :
    readOffset (sign :: (Text.fixedWidth 2 (minutes / 60) ++
      ':' :: Text.fixedWidth 2 (minutes % 60))) = some (factor * minutes * 60) := by
  have hhours := readDigits_fixedWidth (show minutes / 60 < 10 ^ 2 by omega)
  have hminutes := readDigits_fixedWidth (show minutes % 60 < 10 ^ 2 by omega) []
  rw [List.append_nil] at hminutes
  have hbounds : minutes / 60 < 24 ∧ minutes % 60 < 60 := by omega
  rcases hsign with ⟨rfl, rfl⟩ | ⟨rfl, rfl⟩
  all_goals
    simp [readOffset, hhours, hminutes, readChar, hbounds]
    omega

theorem WritesOffset.readOffset (h : WritesOffset minutes zone) :
    Instant.readOffset zone.toList = some (minutes * 60) := by
  cases h with
  | upper => rfl
  | lower => rfl
  | plus minutes h =>
    rw [toList_offset h, ← Int.one_mul (minutes : Int)]
    exact readOffset_sign h (.inl ⟨rfl, rfl⟩)
  | minus minutes h =>
    rw [toList_offset h, ← Int.neg_one_mul (minutes : Int)]
    exact readOffset_sign h (.inr ⟨rfl, rfl⟩)

/-- An offset starts neither with a digit nor with a point. -/
theorem WritesOffset.exists_toList (h : WritesOffset minutes zone) :
    ∃ c rest, zone.toList = c :: rest ∧ Text.digit? c = none ∧ c ≠ '.' := by
  cases h with
  | upper => exact ⟨'Z', [], rfl, by decide, by decide⟩
  | lower => exact ⟨'z', [], rfl, by decide, by decide⟩
  | plus minutes h => exact ⟨'+', _, toList_offset h, by decide, by decide⟩
  | minus minutes h => exact ⟨'-', _, toList_offset h, by decide, by decide⟩

/-! ## Spellings -/

theorem clockSecond_lt (t : Instant) : t.clockSecond < 10 ^ 2 := by
  simp only [clockSecond]
  split <;> omega

theorem toList_internetText (shown : Instant) (mark : Char) (places : Nat) (zone : String) :
    (shown.internetText mark places zone).toList = (shown.clockText mark).toList ++
      ':' :: (Text.fixedWidth 2 shown.clockSecond ++
        ((fractionText places shown.clockNano).toList ++ zone.toList)) := by
  have hcolon : ":".toList = [':'] := rfl
  simp only [internetText, String.toList_append, hcolon, Text.toList_padded shown.clockSecond_lt,
    List.append_assoc, List.cons_append, List.nil_append]

/-- **The Internet form of a clock** is read as the moment at which it shows this. -/
theorem ofInternet?_internetText {shown : Instant} {places : Nat} (clock : shown.IsOnClock)
    (hmark : mark = 'T' ∨ mark = 't' ∨ mark = ' ') (hplaces : places ≤ 9)
    (fits : 10 ^ (9 - places) ∣ shown.clockNano) (hzone : WritesOffset minutes zone)
    (year : shown.HasPlainYear) :
    ofInternet? (shown.internetText mark places zone).toList =
      some (ofSeconds (shown.seconds - minutes * 60) shown.nano shown.nano_lt) := by
  obtain ⟨c, rest, htoList, hdigit, hpoint⟩ := hzone.exists_toList
  have hoffset := hzone.readOffset
  rw [toList_internetText, htoList]
  rw [htoList] at hoffset
  have hstart := startsFixed_clockText year mark
    (':' :: (Text.fixedWidth 2 shown.clockSecond ++
      ((fractionText places shown.clockNano).toList ++ c :: rest)))
  have hsecond := readDigits_fixedWidth shown.clockSecond_lt
    ((fractionText places shown.clockNano).toList ++ c :: rest)
  have hfraction : readFraction ((fractionText places shown.clockNano).toList ++ c :: rest) =
      some (shown.clockNano, c :: rest) :=
    readFraction_fractionText hplaces (Nat.mod_lt shown.nano (by decide)) fits hdigit hpoint
  have hvalue := instant?_clockFields clock year (minutes * 60)
  exact ofInternet?_eq_some_iff.2 ⟨shown.clockFields, mark, _, shown.clockSecond, _,
    shown.clockNano, _, minutes * 60, hstart, hmark, hsecond, hfraction, hoffset, hvalue⟩

/-- What a clock shows to the minute is read as this minute. -/
theorem ofParts?_clockText (second : t.second % 60 = 0) (nano : t.nano = 0)
    (year : t.HasPlainYear) : ofParts? toMinute (t.clockText 'T' ++ "Z").toList = some t := by
  have clock : t.IsOnClock := fun h => by omega
  have hvalue := instant?_clockFields clock year 0
  have hsecond : t.clockSecond = 0 := by simp [clockSecond, second, nano]
  have hnano : t.clockNano = 0 := by simp [clockNano, nano]
  rw [hsecond, hnano, Int.sub_zero, ofSeconds_seconds] at hvalue
  refine ofParts?_toMinute.2 ⟨t.clockFields, ?_, hvalue⟩
  rw [String.toList_append, (startsFixed_clockText year 'T' _).readSome]
  rfl

/-- **Every spelling** of a moment is read as this moment by one of the forms. -/
theorem Spelling.exists_form {text : String} (h : t.Spelling text) :
    ∃ form ∈ forms, form text.toList = some t := by
  cases h with
  | minute second nano year =>
    exact ⟨ofParts? toMinute, by simp [forms], ofParts?_clockText second nano year⟩
  | @internet mark places minutes zone clock hmark hplaces fits hzone year =>
    have hseconds : (t.ahead minutes).seconds = t.seconds + minutes * 60 := seconds_ofSeconds _ _
    have hread := ofInternet?_internetText (clock.ahead minutes) hmark hplaces fits hzone year
    rw [hseconds, Int.add_sub_cancel] at hread
    exact ⟨ofInternet?, by simp [forms], hread.trans (congrArg some t.ofSeconds_seconds)⟩

/-- A fraction is printed to none, three, six or nine places. -/
theorem exists_showFraction (nano : Nat) :
    ∃ places ≤ 9, 10 ^ (9 - places) ∣ nano ∧ showFraction nano = fractionText places nano := by
  unfold showFraction
  split
  next h => exact ⟨0, by decide, by rw [h]; exact Nat.dvd_zero _, rfl⟩
  next =>
    split
    next h => exact ⟨3, by decide, Nat.dvd_of_mod_eq_zero h, rfl⟩
    next =>
      split
      next h => exact ⟨6, by decide, Nat.dvd_of_mod_eq_zero h, rfl⟩
      next => exact ⟨9, by decide, Nat.one_dvd nano, by simp [fractionText]⟩

/-- **What is printed** of a moment is one of its spellings. -/
theorem spelling_toText (clock : t.IsOnClock) (year : t.HasPlainYear) : t.Spelling t.toText := by
  have hahead : t.ahead 0 = t := by
    rw [ahead, Int.zero_mul, Int.add_zero]
    exact t.ofSeconds_seconds
  obtain ⟨places, hplaces, fits, hfraction⟩ := exists_showFraction t.clockNano
  have hnano : (if 1000000000 ≤ t.nano then t.nano - 1000000000 else t.nano) = t.clockNano := by
    have := t.nano_lt
    simp only [clockNano]
    split <;> omega
  have htext : t.toText = (t.ahead 0).internetText 'T' places "Z" := by
    rw [hahead, internetText, ← hfraction, ← hnano]
    rfl
  rw [htext]
  exact .internet clock (.inl rfl) hplaces fits .upper (hahead.symm ▸ year)

end Instant

namespace Feed

variable {t : Instant} {text : String}

theorem readDate_of_spelling (h : t.Spelling text) : readDate text = .ok t := by
  rw [readDate, Instant.ofFeed?_eq_some_iff.2 h.exists_form]

/-- **Spellings name one moment.** Whatever moment is written, to the minute or in the Internet form
and by the clock of whatever place, it is this moment that is read. Two of the four forms that read
one text read the same moment, and so it is read in every order of the trials. -/
theorem spellings_name_one_moment :
    (∀ (t : Instant) (text : String), t.Spelling text → readDate text = .ok t) ∧
    (∀ first ∈ Instant.forms, ∀ second ∈ Instant.forms, ∀ (cs : List Char) (a b : Instant),
      first cs = some a → second cs = some b → a = b) ∧
    ∀ order : List (List Char → Option Instant), order.Perm Instant.forms → ∀ text : String,
      readDate text =
        (order.findSome? (· text.toList)).elim (.error (.unreadableDate text)) .ok := by
  refine ⟨fun t text h => readDate_of_spelling h, ?agree, ?order⟩
  case agree => exact fun first hfirst second hsecond => Instant.agree_of_mem_forms hfirst hsecond
  case order =>
    intro order h text
    have hsame : order.findSome? (· text.toList) = Instant.ofFeed? text := by
      refine Option.ext fun t => ?_
      rw [Instant.findSome?_eq_some_iff h, Instant.ofFeed?_eq_some_iff]
    rw [hsame, readDate]
    cases Instant.ofFeed? text <;> rfl

/-- A leap second at the end of a year in universal time is one of the next year at a place that is
five hours and three quarters ahead. The same moment is read from what is printed of it, where two
of the forms read its text, and where the forms are tried from the last to the first. -/
theorem leap_second_by_two_clocks :
    let t : Instant := ⟨17166, 86399, 1500000000, by decide, by decide⟩
    let there := "2017-01-01T05:44:60.500+05:45"
    let here := "2016-12-31T23:59:60.5Z"
    readDate there = .ok t ∧ readDate here = .ok t ∧ readDate t.toText = .ok t ∧
      Instant.ofInternet? here.toList = some t ∧
      Instant.ofParts? Instant.toFraction here.toList = some t ∧
      Instant.forms.reverse.findSome? (· here.toList) = some t := by
  intro t there here
  have hzone : Instant.WritesOffset 345 "+05:45" := by
    have h := Instant.WritesOffset.plus 345 (by decide)
    have htext : "+" ++ Text.padded 2 (345 / 60) ++ ":" ++ Text.padded 2 (345 % 60) = "+05:45" := by
      decide +kernel
    exact htext ▸ h
  have hthere : t.Spelling there := by
    have h : t.Spelling ((t.ahead 345).internetText 'T' 3 "+05:45") :=
      .internet (fun _ => by decide) (.inl rfl) (by decide) (by decide) hzone (by decide +kernel)
    have htext : (t.ahead 345).internetText 'T' 3 "+05:45" = there := by decide +kernel
    exact htext ▸ h
  obtain ⟨spelled, agree, order⟩ := spellings_name_one_moment
  have hinternet : Instant.ofInternet? here.toList = some t := by decide +kernel
  have hfraction : (Instant.ofParts? Instant.toFraction here.toList).isSome := by decide +kernel
  obtain ⟨u, hu⟩ := Option.isSome_iff_exists.1 hfraction
  obtain rfl : t = u :=
    agree _ (by simp [Instant.forms]) _ (by simp [Instant.forms]) _ t u hinternet hu
  have hreverse : Instant.forms.reverse.findSome? (· here.toList) = some t := by decide +kernel
  have printed : t.Spelling t.toText :=
    Instant.spelling_toText (fun _ => by decide) (by decide +kernel)
  refine ⟨spelled t there hthere, ?_, spelled t _ printed, hinternet, hu, hreverse⟩
  rw [order _ (List.reverse_perm _), hreverse]
  rfl

end Feed

end SquarePool
