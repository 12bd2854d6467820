import SquarePool.Invalid

/-!
# Payouts

The periods a pool can pay on, the payouts that bundle them, and the draw of ten numbers for each
period. Leagues that play halves are offered only payouts without quarters.
-/

namespace SquarePool

/-- A moment of a game at which a square wins. -/
inductive Period where
  /-- The one payout of a standard pool, at the end of the game. -/
  | all
  | q1
  | q2
  | q3
  | q4
  | half
  | final
  deriving DecidableEq, Repr, Inhabited

namespace Period

/-- Every period, in storage order. -/
def list : List Period := [all, q1, q2, q3, q4, half, final]

/-- The key a period is stored under. -/
protected def key : Period → String
  | all => "all"
  | q1 => "q1"
  | q2 => "q2"
  | q3 => "q3"
  | q4 => "q4"
  | half => "half"
  | final => "final"

instance : Keyed Period := ⟨list, Period.key⟩

instance : LawfulKeyed Period where
  mem_members a := by cases a <;> decide
  key_injective a b := by cases a <;> cases b <;> decide

/-- The short name, for column heads. -/
def shortLabel : Period → String
  | all => "All"
  | q1 => "1st"
  | q2 => "2nd"
  | q3 => "3rd"
  | q4 => "4th"
  | half => "Half"
  | final => "Final"

/-- The full name. -/
def longLabel : Period → String
  | all | final => "Final"
  | q1 => "1st Quarter"
  | q2 => "2nd Quarter"
  | q3 => "3rd Quarter"
  | q4 => "4th Quarter"
  | half => "Halftime"

/-- The place of the period in a list of wins: the order in which a game reaches them, with the
rarely used ones last. -/
def displayRank : Period → Nat
  | q1 => 1
  | half => 2
  | q2 => 3
  | q3 => 4
  | final => 5
  | all => 6
  | q4 => 7

/-- Reads the key of a period. -/
def ofText (text : String) : Except Invalid Period :=
  match ofKey? text with
  | some period => .ok period
  | none => .error (.period text)

end Period

/-- The periods a pool pays on. -/
inductive Payout where
  /-- The end of the game only. -/
  | standard
  /-- The first three quarters and the end. -/
  | threeQuarters
  /-- Halftime and the end. -/
  | halves
  /-- All four quarters. -/
  | quarters
  /-- Halftime and the fourth quarter. -/
  | halfAndFourth
  deriving DecidableEq, Repr, Inhabited

namespace Payout

/-- Every payout, in display order. -/
def all : List Payout := [standard, threeQuarters, halves, quarters, halfAndFourth]

/-- The key a payout is stored under. -/
protected def key : Payout → String
  | standard => "standard"
  | threeQuarters => "123f"
  | halves => "hf"
  | quarters => "1234"
  | halfAndFourth => "h4"

instance : Keyed Payout := ⟨all, Payout.key⟩

instance : LawfulKeyed Payout where
  mem_members a := by cases a <;> decide
  key_injective a b := by cases a <;> cases b <;> decide

/-- The payout, in words. -/
def label : Payout → String
  | standard => "Same"
  | threeQuarters => "1st, 2nd, 3rd, Final"
  | halves => "Half, Final"
  | quarters => "1st, 2nd, 3rd, 4th"
  | halfAndFourth => "Half, 4th"

/-- The periods the payout pays on, in order. -/
def periods : Payout → List Period
  | standard => [.all]
  | threeQuarters => [.q1, .q2, .q3, .final]
  | halves => [.half, .final]
  | quarters => [.q1, .q2, .q3, .q4]
  | halfAndFourth => [.half, .q4]

/-- Whether pools on the league's games may choose the payout. Payouts on the fourth quarter can
be stored but are offered nowhere. -/
def isOfferedIn (payout : Payout) (league : League) : Bool :=
  match payout with
  | standard | halves => true
  | threeQuarters => !league.playsHalves
  | quarters | halfAndFourth => false

/-- The payouts offered in a league, in display order. -/
def offeredIn (league : League) : List Payout := all.filter (·.isOfferedIn league)

/-- Checks that a league offers the payout. -/
def validateFor (payout : Payout) (league : League) : Except Invalid Unit :=
  if payout.isOfferedIn league then .ok () else .error (.payoutNotOffered payout.key league)

/-- Reads the key of a payout. -/
def ofText (text : String) : Except Invalid Payout :=
  match ofKey? text with
  | some payout => .ok payout
  | none => .error (.payout text)

end Payout

/-- The numbers drawn for one period of a grid. -/
structure NumberSet where
  gridId : Int := 0
  period : Period
  homeNumbers : Option (List Int) := none
  awayNumbers : Option (List Int) := none
  manualDraw : Bool := false
  deriving DecidableEq, Repr

/-- The two lists, when both are drawn. -/
def NumberSet.drawn? (set : NumberSet) : Option (List Int × List Int) :=
  match set.homeNumbers, set.awayNumbers with
  | some home, some away => some (home, away)
  | _, _ => none

namespace Draw

/-- Checks each number against the digits and against the numbers `seen` before it. -/
def check (seen : List Int) : List Int → Except BadNumbers Unit
  | [] => .ok ()
  | n :: rest =>
    if n < 0 ∨ 9 < n then .error (.outOfRange n)
    else if n ∈ seen then .error (.repeated n)
    else check (n :: seen) rest

/-- Checks that the numbers are the ten digits in some order. -/
def validate (numbers : List Int) : Except Invalid Unit :=
  if numbers.length ≠ 10 then
    .error (.numbers (.wrongCount numbers.length))
  else
    (check [] numbers).mapError .numbers

end Draw

end SquarePool
