import SquarePool.Text.CaseTable

/-!
# Lower case

The full lower-case mapping of a text. It is the simple mapping of each letter with two
exceptions: a capital dotted i becomes two characters, and a capital sigma at the end of a word
becomes the final form of the letter.
-/

namespace SquarePool.Text

/-- The capital that `run` lowers, if it lowers `n`. -/
def CaseRun.lower? (run : CaseRun) (n : Nat) : Option Nat :=
  if run.first ≤ n && n ≤ run.last && (n - run.first) % run.step == 0 then
    some (Int.toNat (n + run.shift))
  else
    none

/-- The simple lower-case mapping. -/
def lowerSimple (c : Char) : Char :=
  match caseRuns.findSome? (·.lower? c.toNat) with
  | some n => Char.ofNat n
  | none => c

/-- Membership of a code point in a list of closed ranges. -/
def inRanges (ranges : List (Nat × Nat)) (c : Char) : Bool :=
  ranges.any fun (first, last) => first ≤ c.toNat && c.toNat ≤ last

/-- Looking past case-ignorable characters, the next one has case. -/
def meetsCased (cs : List Char) : Bool :=
  match cs.dropWhile (inRanges caseIgnorableRanges) with
  | [] => false
  | c :: _ => inRanges casedRanges c

/-- Lowers `c`, which stands after the characters `before` (nearest first) and before `after`. -/
def lowerAt (before : List Char) (c : Char) (after : List Char) : List Char :=
  if c = 'Σ' then
    if meetsCased before && !meetsCased after then ['ς'] else ['σ']
  else if c = 'İ' then
    ['i', '\u0307']
  else
    [lowerSimple c]

/-- Lowers the text that follows `before` (nearest character first). -/
def lowerAfter (before : List Char) : List Char → List Char
  | [] => []
  | c :: rest => lowerAt before c rest ++ lowerAfter (c :: before) rest

/-- The full lower-case mapping. -/
def lower (s : String) : String := String.ofList (lowerAfter [] s.toList)

/-- `needle` occurs in `hay` as a run of neighbouring characters. -/
def containsChars (needle : List Char) : List Char → Bool
  | [] => needle.isEmpty
  | c :: rest => needle.isPrefixOf (c :: rest) || containsChars needle rest

/-- `needle` occurs in `hay` as a run of neighbouring characters. -/
def contains (hay needle : String) : Bool := containsChars needle.toList hay.toList

end SquarePool.Text
