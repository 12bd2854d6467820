import SquarePool.Instant.Reader
import SquarePool.Toml.Document

/-!
# TOML scalars

Numbers, truth values and moments. A scalar is a run of the characters that scalars are made of;
only a moment may hold one space, between its day and its time.
-/

namespace SquarePool.Toml

open Instant (readDigits readChar)

/-- A character of a scalar. -/
def isScalarChar (c : Char) : Bool :=
  c.isAlphanum || c == '+' || c == '-' || c == '_' || c == '.' || c == ':'

/-- The value of a digit in a base up to sixteen. -/
def digitIn? (base : Nat) (c : Char) : Option Nat :=
  let value :=
    if '0' ≤ c ∧ c ≤ '9' then some (c.toNat - '0'.toNat)
    else if 'a' ≤ c ∧ c ≤ 'f' then some (c.toNat - 'a'.toNat + 10)
    else if 'A' ≤ c ∧ c ≤ 'F' then some (c.toNat - 'A'.toNat + 10)
    else none
  value.filter (· < base)

/-- Reads digits, of which there is at least one. Single underscores may stand between digits. -/
def digits? (base : Nat) : List Char → Option (List Nat)
  | [] => none
  | [c] => (digitIn? base c).map ([·])
  | c :: '_' :: rest => do
    let d ← digitIn? base c
    (digits? base rest).map (d :: ·)
  | c :: rest => do
    let d ← digitIn? base c
    (digits? base rest).map (d :: ·)

/-- The number that digits of a base stand for. -/
def ofDigitsIn (base : Nat) (ds : List Nat) : Nat := ds.foldl (fun n d => n * base + d) 0

/-- Reads the digits of a whole number in base ten, which starts with a zero only if it is one. -/
def whole? (cs : List Char) : Option (List Nat) :=
  (digits? 10 cs).filter fun ds => ds.length == 1 || ds.head? != some 0

/-- The integers that a document can hold. -/
def inRange (i : Int) : Bool := -9223372036854775808 ≤ i && i ≤ 9223372036854775807

/-- Splits off a sign. -/
def splitSign : List Char → Bool × List Char
  | '-' :: cs => (true, cs)
  | '+' :: cs => (false, cs)
  | cs => (false, cs)

/-- Reads an integer. Bases other than ten are announced, and take no sign. -/
def integer? (cs : List Char) : Option Int :=
  let value : Option Int := match cs with
    | '0' :: 'x' :: r => (digits? 16 r).map fun ds => (ofDigitsIn 16 ds : Int)
    | '0' :: 'o' :: r => (digits? 8 r).map fun ds => (ofDigitsIn 8 ds : Int)
    | '0' :: 'b' :: r => (digits? 2 r).map fun ds => (ofDigitsIn 2 ds : Int)
    | cs =>
      let (negative, r) := splitSign cs
      (whole? r).map fun ds =>
        if negative then -(ofDigitsIn 10 ds : Int) else (ofDigitsIn 10 ds : Int)
  value.filter inRange

/-- The quantity `n` times ten to the `power` is at least two to the 1024, up to rounding. -/
def overflows (n : Nat) (power : Int) : Bool :=
  let bound := (Nat.pow 2 54 - 1) * Nat.pow 2 970
  if n = 0 then false
  else if 310 < power then true
  else if 0 ≤ power then bound ≤ n * Nat.pow 10 power.toNat
  else if n.log2 < power.natAbs then false
  else bound * Nat.pow 10 power.natAbs ≤ n

/-- Splits at the first character that fits; without one there is no second part. -/
def splitAtFirst (fits : Char → Bool) (cs : List Char) : List Char × Option (List Char) :=
  match cs.span fun c => !fits c with
  | (before, _ :: after) => (before, some after)
  | (before, []) => (before, none)

/-- Reads the digits after a mark, if there is the mark. -/
def optionalDigits? : Option (List Char) → Option (List Nat)
  | none => some []
  | some cs => digits? 10 cs

/-- A number with a point or an exponent. One that is too large to exist is no number. -/
def isFloat (cs : List Char) : Bool :=
  let (negative, body) := splitSign cs
  if body = "inf".toList ∨ body = "nan".toList then true
  else
    let (mantissa, exponent) := splitAtFirst (fun c => c == 'e' || c == 'E') body
    let (before, after) := splitAtFirst (· == '.') mantissa
    if after.isNone ∧ exponent.isNone then false
    else
      let (expNegative, expDigits) := match exponent with
        | none => (false, none)
        | some cs => ((splitSign cs).1, some (splitSign cs).2)
      match whole? before, optionalDigits? after, optionalDigits? expDigits with
      | some w, some f, some e =>
        let power : Int := if expNegative then -(ofDigitsIn 10 e : Int) else ofDigitsIn 10 e
        negative || !overflows (ofDigitsIn 10 (w ++ f)) (power - f.length)
      | _, _, _ => false

/-- Reads a day at the front. -/
def readDay (cs : List Char) : Option (List Char) := do
  let (year, cs) ← readDigits 4 4 cs
  let cs ← readChar '-' cs
  let (month, cs) ← readDigits 2 2 cs
  let cs ← readChar '-' cs
  let (day, cs) ← readDigits 2 2 cs
  if CivilDate.isValid ⟨year, month, day⟩ then some cs else none

/-- Reads a time of day at the front. -/
def readTime (cs : List Char) : Option (List Char) := do
  let (hour, cs) ← readDigits 2 2 cs
  let cs ← readChar ':' cs
  let (minute, cs) ← readDigits 2 2 cs
  let cs ← readChar ':' cs
  let (second, cs) ← readDigits 2 2 cs
  let (_, cs) ← Instant.readFraction cs
  if hour < 24 ∧ minute < 60 ∧ second ≤ 60 then some cs else none

/-- The text is an offset from universal time. -/
def isOffset : List Char → Bool
  | ['Z'] => true
  | ['z'] => true
  | sign :: cs => (sign == '+' || sign == '-') && (do
      let (hours, cs) ← readDigits 2 2 cs
      let cs ← readChar ':' cs
      let (minutes, cs) ← readDigits 2 2 cs
      if hours < 24 ∧ minutes < 60 ∧ cs.isEmpty then some () else none).isSome
  | [] => false

/-- The text is a time of day, with or without an offset. -/
def isTimeOfDay (cs : List Char) : Bool :=
  match readTime cs with
  | some rest => rest.isEmpty || isOffset rest
  | none => false

/-- The text is a day, a time, or both joined by a letter. Only with a day is there an offset. -/
def isMoment (cs : List Char) : Bool :=
  match readDay cs with
  | some [] => true
  | some (c :: rest) => (c == 'T' || c == 't') && isTimeOfDay rest
  | none => readTime cs == some []

/-- The value that a run of scalar characters stands for. -/
def ofRun? (cs : List Char) : Option Toml :=
  if cs = "true".toList then some (boolean true)
  else if cs = "false".toList then some (boolean false)
  else if isMoment cs then some moment
  else if isFloat cs then some float
  else (integer? cs).map integer

/-- Reads a scalar at the front. -/
def readScalar (cs : List Char) : Option (Toml × List Char) :=
  let (run, rest) := cs.span isScalarChar
  match rest with
  | ' ' :: after =>
    let (time, rest') := after.span isScalarChar
    if readDay run = some [] ∧ isTimeOfDay time then some (moment, rest')
    else (ofRun? run).map fun value => (value, rest)
  | _ => (ofRun? run).map fun value => (value, rest)

end SquarePool.Toml
