import SquarePool.League

/-!
# Refused input

The ways in which a word or a list of numbers given by a user can be wrong, and what is said about
each. Nothing is changed when one of these is reported.
-/

namespace SquarePool

/-- Why a list of numbers is no draw. -/
inductive BadNumbers where
  /-- There are not ten of them. -/
  | wrongCount (count : Nat)
  /-- One of them is not a digit. -/
  | outOfRange (number : Int)
  /-- One of them was seen before. -/
  | repeated (number : Int)
  deriving DecidableEq, Repr

/-- What is wrong with the numbers, in words. -/
def BadNumbers.message : BadNumbers → String
  | wrongCount count => s!"expected 10 numbers, got {count}"
  | outOfRange number => s!"{number} is out of range"
  | repeated number => s!"{number} appears twice"

/-- Why an input is refused. Words that could not be read are kept as they were given. -/
inductive Invalid where
  | league (text : String)
  | status (text : String)
  | mode (text : String)
  | board (text : String)
  | payout (text : String)
  | period (text : String)
  | numbers (problem : BadNumbers)
  /-- The payout's key, and the league it is not offered in. -/
  | payoutNotOffered (payout : String) (league : League)
  deriving DecidableEq, Repr

/-- What is said about a refused input. -/
def Invalid.message : Invalid → String
  | league text => "invalid league: " ++ text
  | status text => "invalid event status: " ++ text
  | mode text => "invalid sync type: " ++ text
  | board text => "invalid grid type: " ++ text
  | payout text => "invalid number set config: " ++ text
  | period text => "invalid number set type: " ++ text
  | numbers problem => "invalid numbers: " ++ problem.message
  | payoutNotOffered name l =>
    "number set config '" ++ name ++ "' is not valid for " ++ l.label ++ " games"

/-- Reads a league name, or says why it is none. -/
def League.ofName (name : String) : Except Invalid League :=
  match League.ofName? name with
  | some league => .ok league
  | none => .error (.league name)

end SquarePool
