import SquarePool.Calendar

/-!
# Instants

A moment of universal time: a day, a second of the day and a fraction of up to nine digits. A leap
second is the fraction from one to two billion of the second before it, so it sorts after that
second and before the next. Main statements: instants are ordered as their counts of ticks, and
two instants with the same count are equal.
-/

namespace SquarePool

/-- A moment of universal time. -/
structure Instant where
  day : Int
  second : Nat
  nano : Nat
  second_lt : second < 86400
  nano_lt : nano < 2000000000
  deriving DecidableEq, Repr

namespace Instant

/-- The first moment of 1970. -/
def epoch : Instant := ⟨0, 0, 0, by decide, by decide⟩

instance : Inhabited Instant := ⟨epoch⟩

/-- A count that grows with time: each second, with a leap second that may follow it, has two
billion ticks. -/
def ticks (t : Instant) : Int := (t.day * 86400 + t.second) * 2000000000 + t.nano

instance : LT Instant := ⟨fun a b => a.ticks < b.ticks⟩
instance : LE Instant := ⟨fun a b => a.ticks ≤ b.ticks⟩

instance (a b : Instant) : Decidable (a < b) := inferInstanceAs (Decidable (a.ticks < b.ticks))
instance (a b : Instant) : Decidable (a ≤ b) := inferInstanceAs (Decidable (a.ticks ≤ b.ticks))

theorem lt_iff {a b : Instant} : a < b ↔ a.ticks < b.ticks := Iff.rfl

theorem le_iff {a b : Instant} : a ≤ b ↔ a.ticks ≤ b.ticks := Iff.rfl

theorem ticks_injective {a b : Instant} (h : a.ticks = b.ticks) : a = b := by
  obtain ⟨da, sa, na, hsa, hna⟩ := a
  obtain ⟨db, sb, nb, hsb, hnb⟩ := b
  simp only [ticks] at h
  have hd : da = db := by omega
  have hs : sa = sb := by omega
  have hn : na = nb := by omega
  subst hd hs hn
  rfl

/-- The moment with a count of seconds since 1970 and a fraction. -/
def ofSeconds (seconds : Int) (nano : Nat) (h : nano < 2000000000 := by omega) : Instant where
  day := seconds / 86400
  second := (seconds % 86400).toNat
  nano := nano
  second_lt := by omega
  nano_lt := h

/-- Whole seconds since 1970; a leap second counts as the second before it. -/
def seconds (t : Instant) : Int := t.day * 86400 + t.second

/-- The moment `amount` seconds later. Stepping out of a leap second forward starts at the second
before it, stepping out backward at the second after it. -/
def addSeconds (t : Instant) (amount : Int) : Instant :=
  if t.nano < 1000000000 ∨ amount = 0 then ofSeconds (t.seconds + amount) t.nano t.nano_lt
  else if 0 < amount then
    ofSeconds (t.seconds + amount) (t.nano - 1000000000) (by have := t.nano_lt; omega)
  else
    ofSeconds (t.seconds + 1 + amount) (t.nano - 1000000000) (by have := t.nano_lt; omega)

/-- A day, in seconds. -/
def daySeconds : Int := 86400

/-- The calendar day of a moment. -/
def date (t : Instant) : Date := ⟨t.day⟩

/-- Thousandths of a second since 1970. -/
def unixMillis (t : Instant) : Int := t.seconds * 1000 + t.nano / 1000000

/-- The fraction with as few groups of three digits as hold it; nothing when it is zero. -/
def showFraction (nano : Nat) : String :=
  if nano = 0 then ""
  else if nano % 1000000 = 0 then "." ++ Text.padded 3 (nano / 1000000)
  else if nano % 1000 = 0 then "." ++ Text.padded 6 (nano / 1000)
  else "." ++ Text.padded 9 nano

/-- The moment in universal time, to the last digit of its fraction. -/
def toText (t : Instant) : String :=
  let leap := 1000000000 ≤ t.nano
  let second := t.second % 60 + if leap then 1 else 0
  let nano := if leap then t.nano - 1000000000 else t.nano
  t.date.toText ++ "T" ++ Text.padded 2 (t.second / 3600) ++ ":"
    ++ Text.padded 2 (t.second / 60 % 60) ++ ":" ++ Text.padded 2 second
    ++ showFraction nano ++ "Z"

end Instant

end SquarePool
