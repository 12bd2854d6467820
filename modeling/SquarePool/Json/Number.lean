/-!
# JSON numbers

A number as it is written: a sign, digits before and after the point, and an exponent. Two readings
are made of it. As an integer it counts only when it is written as one and is not a negative zero.
As a quantity it is the nearest binary fraction of 53 bits, of which the whole part is used; the
rounding is done on exact whole numbers, so it does not depend on a processor.
-/

namespace SquarePool.Json

/-- A number as it is written. Digits are values below ten, the highest place first. -/
structure Number where
  negative : Bool := false
  whole : List Nat
  /-- The digits after the point; empty when there is no point. -/
  fraction : List Nat := []
  exponent : Option Int := none
  deriving DecidableEq, Repr, Inhabited

/-- Digits on the way to a significand: those that still fit 64 bits, and how many did not. -/
structure Significand where
  value : Nat
  dropped : Nat
  used : Nat
  deriving DecidableEq, Repr

namespace Significand

/-- The greatest value that 64 bits hold. -/
def most : Nat := Nat.pow 2 64 - 1

/-- Takes in digits as long as they fit; from the first that does not, all are dropped. -/
def push (s : Significand) : List Nat → Significand
  | [] => s
  | d :: ds =>
    if s.value * 10 + d ≤ most then push { s with value := s.value * 10 + d, used := s.used + 1 } ds
    else { s with dropped := s.dropped + ds.length + 1 }

end Significand

/-- A non-negative binary fraction: `mantissa` times two to the `exponent`. -/
structure Binary where
  mantissa : Nat
  exponent : Int
  deriving DecidableEq, Repr

namespace Binary

/-- Half up to the even neighbour: the whole number nearest to `n / d`. -/
def roundHalfEven (n d : Nat) : Nat :=
  let q := n / d
  let r := n % d
  if 2 * r < d ∨ (2 * r = d ∧ q % 2 = 0) then q else q + 1

/-- The binary fraction of 53 bits that is nearest to `n / d`, a tie going to the even one. -/
def ofRatio (n d : Nat) : Binary :=
  if n = 0 ∨ d = 0 then ⟨0, 0⟩
  else
    let shift : Int := 53 + (d.log2 : Int) - n.log2
    let scaled (k : Int) : Nat :=
      if 0 ≤ k then roundHalfEven (n * Nat.pow 2 k.toNat) d
      else roundHalfEven n (d * Nat.pow 2 (-k).toNat)
    -- The quotient lies within a factor of two, so one of the two shifts gives 53 bits.
    if n * Nat.pow 2 shift.toNat / (d * Nat.pow 2 (-shift).toNat) < Nat.pow 2 53 then
      ⟨scaled shift, -shift⟩
    else ⟨scaled (shift - 1), -(shift - 1)⟩

/-- The ratio of whole numbers that a binary fraction stands for. -/
def ratio (b : Binary) : Nat × Nat :=
  if 0 ≤ b.exponent then (b.mantissa * Nat.pow 2 b.exponent.toNat, 1)
  else (b.mantissa, Nat.pow 2 (-b.exponent).toNat)

/-- The whole part. -/
def floor (b : Binary) : Nat := b.ratio.1 / b.ratio.2

/-- The nearest binary fraction to a power of ten. -/
def powerOfTen (k : Nat) : Binary := ofRatio (Nat.pow 10 k) 1

end Binary

namespace Number

/-- The digits as a whole number and a power of ten. Once digits before the point have been
dropped, digits after it are still tried. -/
def significand (n : Number) : Nat × Int :=
  let whole := Significand.push ⟨0, 0, 0⟩ n.whole
  let all := Significand.push ⟨whole.value, 0, 0⟩ n.fraction
  (all.value, (whole.dropped : Int) - all.used + n.exponent.getD 0)

/-- The greatest power of ten that quantities reach. -/
def maxExponent : Int := 308

/-- The whole part of the size of the quantity: the significand rounded to 53 bits, times or
through the power of ten rounded likewise, rounded again. Quantities of two to the 1024 and more do
not exist; those below ten to the -308 times the greatest significand have no whole part. -/
def size? (n : Number) : Option Nat :=
  let (digits, power) := n.significand
  if digits = 0 then some 0
  else if maxExponent < power then none
  else if power < -maxExponent then some 0
  else
    let (a, b) := (Binary.ofRatio digits 1).ratio
    let (c, d) := (Binary.powerOfTen power.natAbs).ratio
    let value := if 0 ≤ power then Binary.ofRatio (a * c) (b * d) else Binary.ofRatio (a * d) (b * c)
    if 0 ≤ power ∧ Nat.pow 2 1024 ≤ value.floor then none else some value.floor

/-- The whole part of the quantity, cut toward zero; absent when it is too large to exist. -/
def whole? (n : Number) : Option Int :=
  n.size?.map fun size => if n.negative then -(size : Int) else size

/-- The integer, when the number is written as one. A negative zero is no integer. -/
def integer? (n : Number) : Option Int :=
  if n.fraction ≠ [] ∨ n.exponent.isSome then none
  else
    let value : Nat := n.whole.foldl (fun v d => v * 10 + d) 0
    if n.negative then if value = 0 then none else some (-(value : Int)) else some value

/-- The digits of a natural number, the highest place first. -/
def digitsOf (n : Nat) : List Nat := ((Nat.toDigits 10 n).map fun c => c.toNat - '0'.toNat)

/-- An integer, written as one. -/
def ofInt (i : Int) : Number := { negative := i < 0, whole := digitsOf i.natAbs }

end Number

end SquarePool.Json
