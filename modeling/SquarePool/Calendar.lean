import SquarePool.Text.Decimal

/-!
# Calendar days

Days are numbered from the first of January 1970, in the Gregorian calendar extended without end
in both directions, with a year zero. Days are stepped through one by one up to the end of a last
year. Main definitions: the day of a civil date, and the civil date of a day.
-/

namespace SquarePool

/-- A date by year, month and day of the month. -/
structure CivilDate where
  year : Int
  month : Nat
  day : Nat
  deriving DecidableEq, Repr, Inhabited

/-- A calendar day, by its distance from the first of January 1970. -/
structure Date where
  number : Int
  deriving DecidableEq, Repr, Inhabited

namespace Calendar

/-- A leap year has a twenty-ninth of February. -/
def isLeap (year : Int) : Bool := year % 4 == 0 && (year % 100 != 0 || year % 400 == 0)

/-- The lengths of the months of a year. -/
def monthLengths (leap : Bool) : List Nat :=
  [31, if leap then 29 else 28, 31, 30, 31, 30, 31, 31, 30, 31, 30, 31]

/-- The last year that days are counted in. -/
def lastYear : Int := 262142

/-- The number of the first of January of a year. -/
def yearStart (year : Int) : Int :=
  365 * (year - 1970) + (year - 1) / 4 - (year - 1) / 100 + (year - 1) / 400 - 477

/-- The year that holds a day: four hundred years have 146097 days, which gives the year or a
neighbour of it. -/
def yearOf (number : Int) : Int :=
  let guess := (number + 719162) * 400 / 146097 + 1
  if number < yearStart guess then guess - 1
  else if yearStart (guess + 1) ≤ number then guess + 1
  else guess

/-- Finds the month that holds the day `rest` days into a year whose remaining months have the
given lengths; `month` is the number of the first of them. -/
def findMonth (month : Nat) : List Nat → Nat → Nat × Nat
  | [], rest => (month, rest + 1)
  | length :: lengths, rest =>
    if rest < length then (month, rest + 1) else findMonth (month + 1) lengths (rest - length)

end Calendar

/-- The month is one of twelve and has the day. -/
def CivilDate.isValid (c : CivilDate) : Bool :=
  1 ≤ c.month && 1 ≤ c.day
    && match (Calendar.monthLengths (Calendar.isLeap c.year))[c.month - 1]? with
      | some length => c.day ≤ length
      | none => false

/-- How many days of a year come before a month. -/
def Calendar.daysBefore (leap : Bool) (month : Nat) : Nat :=
  ((Calendar.monthLengths leap).take (month - 1)).foldr (· + ·) 0

/-- The day of a civil date. -/
def Date.ofCivil (c : CivilDate) : Date where
  number :=
    Calendar.yearStart c.year + Calendar.daysBefore (Calendar.isLeap c.year) c.month + c.day - 1

/-- The day of a civil date, if there is one. -/
def Date.ofCivil? (c : CivilDate) : Option Date :=
  if c.isValid then some (Date.ofCivil c) else none

/-- The civil date of a day. -/
def Date.civil (d : Date) : CivilDate :=
  let year := Calendar.yearOf d.number
  let (month, day) := Calendar.findMonth 1 (Calendar.monthLengths (Calendar.isLeap year))
    (d.number - Calendar.yearStart year).toNat
  ⟨year, month, day⟩

/-- The day a number of days later. -/
def Date.addDays (d : Date) (days : Int) : Date := ⟨d.number + days⟩

/-- The last day of the last year. -/
def Date.last : Date := Date.ofCivil ⟨Calendar.lastYear, 12, 31⟩

/-- The next day; the last day has none. -/
def Date.next? (d : Date) : Option Date :=
  if d.number < Date.last.number then some (d.addDays 1) else none

/-- How many days there are from `first` to `last`, both included; none if `last` comes first. -/
def Date.span (first last : Date) : Nat := (last.number - first.number + 1).toNat

/-- So many days in order, from `first` on. -/
def Date.run (first : Date) : Nat → List Date
  | 0 => []
  | n + 1 => first :: (first.addDays 1).run n

/-- The days from `first` to `last`, both included, in order. -/
def Date.range (first last : Date) : List Date := first.run (first.span last)

theorem Date.eq_of_next? {d next : Date} (h : d.next? = some next) : next = d.addDays 1 := by
  unfold next? at h
  split at h
  · exact (Option.some.inj h).symm
  · exact nomatch h

theorem Date.number_of_next? {d next : Date} (h : d.next? = some next) :
    next.number = d.number + 1 :=
  congrArg Date.number (eq_of_next? h)

/-- A year is written with four digits from 0 to 9999, otherwise with a sign and at least four
digits. -/
def showYear (year : Int) : String :=
  if 0 ≤ year ∧ year ≤ 9999 then Text.padded 4 year.toNat
  else (if year < 0 then "-" else "+") ++ Text.padded 4 year.natAbs

/-- Year, month and day without separators. -/
def Date.compact (d : Date) : String :=
  let c := d.civil
  showYear c.year ++ Text.padded 2 c.month ++ Text.padded 2 c.day

/-- Year, month and day, joined by hyphens. -/
def Date.toText (d : Date) : String :=
  let c := d.civil
  showYear c.year ++ "-" ++ Text.padded 2 c.month ++ "-" ++ Text.padded 2 c.day

/-- Splits off the digits at the front, of which there is at least one, and the hyphen after
them. -/
def readHyphened (cs : List Char) : Option (Nat × List Char) :=
  match Text.spanDigits cs with
  | (d :: ds, '-' :: rest) => some (Text.ofDigits (d :: ds), rest)
  | _ => none

/-- Reads year, month and day, joined by hyphens. The year may carry a sign. -/
def Date.ofText? (text : String) : Option Date := do
  let (sign, cs) := match text.toList with
    | '-' :: cs => ((-1 : Int), cs)
    | '+' :: cs => (1, cs)
    | cs => (1, cs)
  let (year, cs) ← readHyphened cs
  let (month, cs) ← readHyphened cs
  let day ← Text.readNatural? cs
  Date.ofCivil? ⟨sign * year, month, day⟩

end SquarePool
