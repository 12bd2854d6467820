import SquarePool.Instant.Basic
import SquarePool.Text.Blank

/-!
# Reading instants

A feed writes the same moment in several ways. Four forms are read, in this order: a date and a
time to the minute, the Internet date and time with an offset, and two forms to the second that
allow single digits and blanks before a number. All name the same moments, so the order of the
trials does not matter.
-/

namespace SquarePool

namespace Instant

/-- What a spelling of a moment says, before it is known to be one. -/
structure Fields where
  year : Int := 0
  month : Nat := 0
  day : Nat := 0
  hour : Nat := 0
  minute : Nat := 0
  second : Nat := 0
  nano : Nat := 0
  deriving Repr, Inhabited

/-- The last year that is read. -/
def maxYear : Int := Calendar.lastYear

/-- The moment that the fields name in a place that is `offset` seconds ahead of universal time.
Second sixty is a leap second. -/
def Fields.instant? (f : Fields) (offset : Int) : Option Instant :=
  if h : f.hour < 24 ∧ f.minute < 60 ∧ f.second ≤ 60 ∧ f.nano < 1000000000
      ∧ -maxYear - 1 ≤ f.year ∧ f.year ≤ maxYear then
    (Date.ofCivil? ⟨f.year, f.month, f.day⟩).map fun d =>
      let leap := f.second = 60
      let second := if leap then 59 else f.second
      let nano := if leap then f.nano + 1000000000 else f.nano
      ofSeconds (d.number * 86400 + f.hour * 3600 + f.minute * 60 + second - offset) nano
        (by simp only [nano]; split <;> omega)
  else
    none

/-- Reads a number of `least` to `most` digits. -/
def readDigits (least most : Nat) (cs : List Char) : Option (Nat × List Char) :=
  let (ds, rest) := Text.takeDigits most cs
  if least ≤ ds.length then some (Text.ofDigits ds, rest) else none

/-- Reads the digits of a fraction, at least one of them. Digits after the ninth are dropped. -/
def readFractionDigits (cs : List Char) : Option (Nat × List Char) :=
  let (ds, rest) := Text.takeDigits 9 cs
  if ds.isEmpty then none
  else some (Text.ofDigits ds * Nat.pow 10 (9 - ds.length), (Text.spanDigits rest).2)

/-- Reads a fraction if a point announces one. -/
def readFraction : List Char → Option (Nat × List Char)
  | '.' :: cs => readFractionDigits cs
  | cs => some (0, cs)

/-- Reads one given character. -/
def readChar (c : Char) : List Char → Option (List Char)
  | [] => none
  | d :: cs => if d = c then some cs else none

/-- A part of a lenient form. -/
inductive Part where
  | literal (c : Char)
  | year
  | month
  | day
  | hour
  | minute
  | second
  | fraction
  deriving DecidableEq, Repr

/-- A year has up to four digits, or any number of digits after a sign. -/
def readYear (cs : List Char) : Option (Int × List Char) :=
  match cs with
  | '-' :: rest => (readDigits 1 rest.length rest).map fun (n, r) => (-(n : Int), r)
  | '+' :: rest => (readDigits 1 rest.length rest).map fun (n, r) => ((n : Int), r)
  | _ => (readDigits 1 4 cs).map fun (n, r) => ((n : Int), r)

/-- Reads a number of one or two digits after any blanks. -/
def readTwo (cs : List Char) : Option (Nat × List Char) := readDigits 1 2 (Text.trimLeft cs)

/-- Reads one part of a lenient form into the fields. -/
def readPart (f : Fields) (part : Part) (cs : List Char) : Option (Fields × List Char) :=
  match part with
  | .literal c => (readChar c cs).map fun r => (f, r)
  | .year => (readYear (Text.trimLeft cs)).map fun (n, r) => ({ f with year := n }, r)
  | .month => (readTwo cs).map fun (n, r) => ({ f with month := n }, r)
  | .day => (readTwo cs).map fun (n, r) => ({ f with day := n }, r)
  | .hour => (readTwo cs).map fun (n, r) => ({ f with hour := n }, r)
  | .minute => (readTwo cs).map fun (n, r) => ({ f with minute := n }, r)
  | .second => (readTwo cs).map fun (n, r) => ({ f with second := n }, r)
  | .fraction => (readFraction cs).map fun (n, r) => ({ f with nano := n }, r)

/-- Reads the parts of a lenient form, and nothing after them. -/
def readParts (f : Fields) : List Part → List Char → Option Fields
  | [], [] => some f
  | [], _ :: _ => none
  | part :: parts, cs => do
    let (f, rest) ← readPart f part cs
    readParts f parts rest

/-- The parts that every lenient form starts with, up to the minute. -/
def minuteParts : List Part :=
  [.year, .literal '-', .month, .literal '-', .day, .literal 'T', .hour, .literal ':', .minute]

/-- The form that feeds use most: to the minute, in universal time. -/
def toMinute : List Part := minuteParts ++ [.literal 'Z']

/-- To the second, with a fraction if there is one. -/
def toFraction : List Part := minuteParts ++ [.literal ':', .second, .fraction, .literal 'Z']

/-- To the second. -/
def toSecond : List Part := minuteParts ++ [.literal ':', .second, .literal 'Z']

/-- Reads a lenient form, which is always in universal time. -/
def ofParts? (parts : List Part) (cs : List Char) : Option Instant := do
  let f ← readParts {} parts cs
  f.instant? 0

/-- Reads an offset from universal time, in seconds: `Z`, or a sign, hours and minutes. The minus
sign of mathematics counts as a hyphen. -/
def readOffset : List Char → Option Int
  | ['Z'] => some 0
  | ['z'] => some 0
  | sign :: cs => do
    let factor : Int ← if sign = '+' then some 1
      else if sign = '-' ∨ sign = '\u2212' then some (-1)
      else none
    let (hours, cs) ← readDigits 2 2 cs
    let cs ← readChar ':' cs
    let (minutes, cs) ← readDigits 2 2 cs
    if hours < 24 ∧ minutes < 60 ∧ cs.isEmpty then
      some (factor * (hours * 3600 + minutes * 60))
    else
      none
  | [] => none

/-- Reads the mark between date and time: `T` in either case, or a space. -/
def readSeparator : List Char → Option (List Char)
  | c :: cs => if c = 'T' ∨ c = 't' ∨ c = ' ' then some cs else none
  | [] => none

/-- Reads the Internet form: fixed widths, an optional fraction and an offset. -/
def ofInternet? (cs : List Char) : Option Instant := do
  let (year, cs) ← readDigits 4 4 cs
  let cs ← readChar '-' cs
  let (month, cs) ← readDigits 2 2 cs
  let cs ← readChar '-' cs
  let (day, cs) ← readDigits 2 2 cs
  let cs ← readSeparator cs
  let (hour, cs) ← readDigits 2 2 cs
  let cs ← readChar ':' cs
  let (minute, cs) ← readDigits 2 2 cs
  let cs ← readChar ':' cs
  let (second, cs) ← readDigits 2 2 cs
  let (nano, cs) ← readFraction cs
  let offset ← readOffset cs
  Fields.instant? ⟨year, month, day, hour, minute, second, nano⟩ offset

/-- Reads the Internet form. -/
def ofText? (text : String) : Option Instant := ofInternet? text.toList

/-- Reads a moment in any of the forms that a feed may use. -/
def ofFeed? (text : String) : Option Instant :=
  let cs := text.toList
  ofParts? toMinute cs <|> ofInternet? cs <|> ofParts? toFraction cs <|> ofParts? toSecond cs

end Instant

end SquarePool
