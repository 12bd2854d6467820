/-!
# Decimal numbers in text

Reading and writing whole numbers in ASCII digits. A reader refuses everything but the digits and
one sign that it names: no blanks, no separators, no other scripts. A number written to a fixed
width keeps its last digits only.
-/

namespace SquarePool.Text

/-- The value of an ASCII digit. -/
def digit? (c : Char) : Option Nat :=
  if '0' ≤ c ∧ c ≤ '9' then some (c.toNat - '0'.toNat) else none

/-- The character of a digit below ten. -/
def digitChar (n : Nat) : Char := Char.ofNat ('0'.toNat + n)

/-- The number that a list of digit values stands for, the highest place first. -/
def ofDigits (digits : List Nat) : Nat := digits.foldl (fun n d => n * 10 + d) 0

/-- Splits off at most `limit` digits from the front and gives their values. -/
def takeDigits : Nat → List Char → List Nat × List Char
  | 0, cs => ([], cs)
  | _ + 1, [] => ([], [])
  | limit + 1, c :: cs =>
    match digit? c with
    | some d => let (ds, rest) := takeDigits limit cs; (d :: ds, rest)
    | none => ([], c :: cs)

/-- Splits off every digit at the front and gives their values. -/
def spanDigits (cs : List Char) : List Nat × List Char := takeDigits cs.length cs

/-- Reads a text of one or more digits. -/
def readNatural? (cs : List Char) : Option Nat :=
  match spanDigits cs with
  | (d :: ds, []) => some (ofDigits (d :: ds))
  | _ => none

/-- Reads a natural number that may carry a plus sign, and must not be above `most`. -/
def readUnsigned? (most : Nat) (cs : List Char) : Option Nat :=
  let body := match cs with
    | '+' :: rest => rest
    | _ => cs
  (readNatural? body).filter (· ≤ most)

/-- The least whole number of 32 bits. -/
def int32Min : Int := -2147483648

/-- The greatest whole number of 32 bits. -/
def int32Max : Int := 2147483647

/-- Whether a whole number fits 32 bits. -/
def isInt32 (n : Int) : Bool := int32Min ≤ n && n ≤ int32Max

/-- Reads a whole number of 32 bits that may carry a sign. -/
def readInt32? (cs : List Char) : Option Int :=
  let value : Option Int := match cs with
    | '+' :: rest => (readNatural? rest).map fun n => (n : Int)
    | '-' :: rest => (readNatural? rest).map fun n => -(n : Int)
    | _ => (readNatural? cs).map fun n => (n : Int)
  value.filter isInt32

/-- The last `width` digits of `n`, with leading zeros. -/
def fixedWidth : Nat → Nat → List Char
  | 0, _ => []
  | width + 1, n => fixedWidth width (n / 10) ++ [digitChar (n % 10)]

/-- Writes `n` with at least `width` digits. -/
def padded (width n : Nat) : String :=
  if n < Nat.pow 10 width then String.ofList (fixedWidth width n) else toString n

/-- Writes a whole number. -/
def showInt (n : Int) : String :=
  match n with
  | .ofNat k => toString k
  | .negSucc k => "-" ++ toString (k + 1)

theorem digit?_digitChar : ∀ n < 10, digit? (digitChar n) = some n := by decide

theorem takeDigits_zero (cs : List Char) : takeDigits 0 cs = ([], cs) := by
  cases cs <;> rfl

end SquarePool.Text
