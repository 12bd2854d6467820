import SquarePool.Proofs.Text.Decimal
import SquarePool.Sql.Statements

/-!
# Statements as tokens

A statement is read as words and marks, which blanks only set apart. Main statement: the tokens of a
list with commas are the tokens of its items, with commas between them.
-/

namespace SquarePool.Sql

/-- A part of a statement. -/
inductive Token where
  | word (s : String)
  | mark (c : Char)
  deriving DecidableEq, Repr

/-- Words are made of letters, digits and underscores. -/
def isWordChar (c : Char) : Bool := c.isAlphanum || c == '_'

namespace Token

/-- The token of the characters of a word, if there are any. -/
def ofWord (cs : List Char) : List Token := if cs = [] then [] else [word (String.ofList cs)]

/-- The token of a character that belongs to no word. -/
def ofMark (c : Char) : List Token := if c = ' ' then [] else [mark c]

/-- The tokens of characters that follow the first ones of a word. -/
def scan (begun : List Char) : List Char → List Token
  | [] => ofWord begun
  | c :: rest =>
    if isWordChar c then scan (begun ++ [c]) rest else ofWord begun ++ ofMark c ++ scan [] rest

/-- The tokens of a text. -/
def ofText (s : String) : List Token := scan [] s.toList

variable {c : Char} {begun cs before after : List Char} {a b s : String}

/-! ## Where tokens end -/

theorem scan_append_cons (h : isWordChar c = false) :
    scan begun (before ++ c :: after) = scan begun before ++ ofMark c ++ scan [] after := by
  induction before generalizing begun with
  | nil => simp [scan, h]
  | cons d before ih =>
    rw [List.cons_append, scan, scan]
    cases hd : isWordChar d with
    | true => exact ih
    | false => simp [ih]

theorem scan_append_singleton (h : isWordChar c = false) :
    scan begun (before ++ [c]) = scan begun before ++ ofMark c := by
  rw [scan_append_cons h, show scan [] [] = [] from rfl, List.append_nil]

/-- Characters of words make one word. -/
theorem scan_of_isWordChar (h : ∀ c ∈ cs, isWordChar c = true) :
    scan begun cs = ofWord (begun ++ cs) := by
  induction cs generalizing begun with
  | nil => rw [scan, List.append_nil]
  | cons c rest ih =>
    rw [List.forall_mem_cons] at h
    rw [scan, if_pos h.1, ih h.2, List.append_assoc, List.singleton_append]

/-- A text that is a word by itself. -/
def IsWord (s : String) : Prop := s.toList ≠ [] ∧ s.toList.all isWordChar = true

instance (s : String) : Decidable (IsWord s) := inferInstanceAs (Decidable (_ ∧ _))

theorem ofText_of_isWord (h : IsWord s) : ofText s = [word s] := by
  rw [ofText, scan_of_isWordChar (List.all_eq_true.1 h.2), List.nil_append, ofWord, if_neg h.1,
    String.ofList_toList]

theorem isWord_toString (n : Nat) : IsWord (toString n) := by
  rw [IsWord, Nat.toString_eq_repr, Nat.toList_repr]
  refine ⟨Nat.toDigits_ne_nil, List.all_eq_true.2 fun c hc => ?_⟩
  simp [isWordChar, Char.isAlphanum, Text.isDigit_of_mem_toDigits hc]

/-- The text ends with the character, which belongs to no word. -/
def EndsWith (s : String) (c : Char) : Prop :=
  s.toList.getLast? = some c ∧ isWordChar c = false

/-- The text starts with the character, which belongs to no word. -/
def StartsWith (s : String) (c : Char) : Prop := s.toList.head? = some c ∧ isWordChar c = false

theorem ofText_append_of_endsWith (h : EndsWith a c) : ofText (a ++ b) = ofText a ++ ofText b := by
  obtain ⟨before, ha⟩ := List.getLast?_eq_some_iff.1 h.1
  rw [ofText, ofText, ofText, String.toList_append, ha, List.append_assoc, List.singleton_append,
    scan_append_cons h.2, scan_append_singleton h.2]

theorem ofText_append_of_startsWith (h : StartsWith b c) :
    ofText (a ++ b) = ofText a ++ ofText b := by
  obtain ⟨after, hb⟩ := List.head?_eq_some_iff.1 h.1
  have hrest : scan [] ([] ++ c :: after) = ofMark c ++ scan [] after := scan_append_cons h.2
  rw [List.nil_append] at hrest
  rw [ofText, ofText, ofText, String.toList_append, hb, scan_append_cons h.2, hrest,
    List.append_assoc]

/-- A text between two others, with marks or blanks at its ends, keeps them apart. -/
theorem ofText_between (mid : String) {c d : Char} (hfirst : StartsWith mid c)
    (hlast : EndsWith mid d) (a b : String) :
    ofText (a ++ (mid ++ b)) = ofText a ++ (ofText mid ++ ofText b) := by
  obtain ⟨after, hmid⟩ := List.head?_eq_some_iff.1 hfirst.1
  have hstart : StartsWith (mid ++ b) c := ⟨by simp [hmid], hfirst.2⟩
  rw [ofText_append_of_startsWith hstart, ofText_append_of_endsWith hlast]

/-! ## Lists with commas -/

theorem commaList_cons_cons (first second : String) (rest : List String) :
    Statement.commaList (first :: second :: rest) =
      first ++ (", " ++ Statement.commaList (second :: rest)) := by
  simp only [Statement.commaList, ← String.toList_inj, String.toList_append,
    String.toList_intercalate, List.map_cons, List.intercalate_cons_cons, List.append_assoc]

/-- **The items of a list** are set apart by commas. -/
theorem ofText_commaList (items : List String) :
    ofText (Statement.commaList items) = [mark ','].intercalate (items.map ofText) := by
  match items with
  | [] => rfl
  | [item] => simp [Statement.commaList, List.intercalate]
  | first :: second :: rest =>
    have hcomma : ofText ", " = [mark ','] := by rfl
    rw [commaList_cons_cons, ofText_between ", " (c := ',') (d := ' ') ⟨rfl, rfl⟩ ⟨rfl, rfl⟩,
      hcomma, ofText_commaList (second :: rest), List.map_cons, List.map_cons, List.map_cons,
      List.intercalate_cons_cons, List.append_assoc]

end Token

end SquarePool.Sql
