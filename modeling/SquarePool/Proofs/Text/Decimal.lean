import SquarePool.Text.Blank
import SquarePool.Text.Decimal
import Mathlib.Data.Nat.Digits.Defs

/-!
# Decimal numbers that are written and read

Main statements: a whole number of 32 bits is read back from the text in which it is written, and no
blank stands at the ends of that text; the digits of a number written to a fixed width are read back
whatever follows them; a natural number is read from one or more digits, with or without a plus
sign, and from nothing else.
-/

namespace SquarePool.Text

theorem digit?_of_isDigit {c : Char} (h : c.isDigit) : digit? c = some (c.toNat - '0'.toNat) := by
  simp only [Char.isDigit, Bool.and_eq_true, decide_eq_true_eq] at h
  exact if_pos h

/-- Digits are split off to the last. -/
theorem spanDigits_of_isDigit {cs : List Char} (h : ∀ c ∈ cs, c.isDigit) :
    spanDigits cs = (cs.map fun c => c.toNat - '0'.toNat, []) := by
  unfold spanDigits
  induction cs with
  | nil => rfl
  | cons c rest ih =>
    have hrest := ih fun d hd => h d (by simp [hd])
    simp [takeDigits, digit?_of_isDigit (h c (by simp)), hrest]

theorem isDigit_of_mem_toDigits {n : Nat} {c : Char} (h : c ∈ Nat.toDigits 10 n) : c.isDigit :=
  Nat.isDigit_of_mem_toDigits (b := 10) (by decide) (by decide) h

/-- The digits of a number stand for it. -/
theorem ofDigits_toDigits (n : Nat) :
    ofDigits ((Nat.toDigits 10 n).map fun c => c.toNat - '0'.toNat) = n := by
  have h := Nat.ofDigitChars_ten_toDigits (n := n)
  rw [Nat.ofDigitChars_eq_foldl] at h
  rw [ofDigits, List.foldl_map]
  simpa only [Nat.mul_comm] using h

theorem toDigits_injective {m n : Nat} (h : Nat.toDigits 10 m = Nat.toDigits 10 n) : m = n := by
  calc
    m = Nat.ofDigitChars 10 (Nat.toDigits 10 m) 0 := Nat.ofDigitChars_ten_toDigits.symm
    _ = Nat.ofDigitChars 10 (Nat.toDigits 10 n) 0 := by rw [h]
    _ = n := Nat.ofDigitChars_ten_toDigits

theorem readNatural?_toDigits (n : Nat) : readNatural? (Nat.toDigits 10 n) = some n := by
  have hdigits : ∀ c ∈ Nat.toDigits 10 n, c.isDigit := fun c => isDigit_of_mem_toDigits
  have hvalue := ofDigits_toDigits n
  rw [readNatural?, spanDigits_of_isDigit hdigits]
  cases h : Nat.toDigits 10 n with
  | nil => exact absurd h Nat.toDigits_ne_nil
  | cons c rest =>
    rw [h] at hvalue
    exact congrArg some hvalue

/-- A number without a sign is a list of digits. -/
theorem toList_showInt_ofNat (n : Nat) : (showInt (.ofNat n)).toList = Nat.toDigits 10 n := by
  show (toString n).toList = _
  rw [Nat.toString_eq_repr, Nat.toList_repr]

theorem toList_showInt_negSucc (n : Nat) :
    (showInt (.negSucc n)).toList = '-' :: Nat.toDigits 10 (n + 1) := by
  show ("-" ++ toString (n + 1)).toList = _
  rw [String.toList_append, Nat.toString_eq_repr, Nat.toList_repr]
  rfl

/-- **What is written is read back.** -/
theorem readInt32?_showInt {i : Int} (h : isInt32 i) : readInt32? (showInt i).toList = some i := by
  cases i with
  | ofNat n =>
    have hread := readNatural?_toDigits n
    have hdigits : ∀ c ∈ Nat.toDigits 10 n, c.isDigit := fun c => isDigit_of_mem_toDigits
    rw [toList_showInt_ofNat]
    unfold readInt32?
    -- the text starts with a digit and so with no sign
    split
    next rest hplus => simp [hplus, Char.isDigit] at hdigits
    next rest hminus => simp [hminus, Char.isDigit] at hdigits
    next => simpa [hread] using h
  | negSucc n =>
    have hread := readNatural?_toDigits (n + 1)
    rw [toList_showInt_negSucc]
    simp only [readInt32?, hread]
    show (some (Int.negSucc n)).filter isInt32 = _
    rw [Option.filter_some, if_pos h]

/-- A character of a number is a digit or the minus sign. -/
theorem isDigit_or_eq_of_mem_showInt {i : Int} {c : Char} (h : c ∈ (showInt i).toList) :
    c.isDigit ∨ c = '-' := by
  cases i with
  | ofNat n =>
    rw [toList_showInt_ofNat] at h
    exact .inl (isDigit_of_mem_toDigits h)
  | negSucc n =>
    rw [toList_showInt_negSucc] at h
    rcases List.mem_cons.1 h with rfl | h
    · exact .inr rfl
    · exact .inl (isDigit_of_mem_toDigits h)

/-- Different numbers are written differently. -/
theorem showInt_injective {i j : Int} (h : showInt i = showInt j) : i = j := by
  have hlist : (showInt i).toList = (showInt j).toList := congrArg String.toList h
  -- a sign is no digit
  have hsign {m : Nat} {cs : List Char} : Nat.toDigits 10 m ≠ '-' :: cs := fun h =>
    absurd (isDigit_of_mem_toDigits (h ▸ List.mem_cons_self)) (by decide)
  cases i with
  | ofNat m =>
    rw [toList_showInt_ofNat] at hlist
    cases j with
    | ofNat n =>
      rw [toList_showInt_ofNat] at hlist
      rw [toDigits_injective hlist]
    | negSucc n =>
      rw [toList_showInt_negSucc] at hlist
      exact absurd hlist hsign
  | negSucc m =>
    rw [toList_showInt_negSucc] at hlist
    cases j with
    | ofNat n =>
      rw [toList_showInt_ofNat] at hlist
      exact absurd hlist.symm hsign
    | negSucc n =>
      rw [toList_showInt_negSucc] at hlist
      rw [Nat.succ.inj (toDigits_injective (List.cons.inj hlist).2)]

theorem isBlank_of_isDigit {c : Char} (h : c.isDigit) : isBlank c = false := by
  simp only [Char.isDigit, Bool.and_eq_true, decide_eq_true_eq] at h
  have hlow : 48 ≤ c.toNat := h.1
  have hhigh : c.toNat ≤ 57 := h.2
  simp only [isBlank, Bool.or_eq_false_iff, Bool.and_eq_false_iff, decide_eq_false_iff_not,
    beq_eq_false_iff_ne]
  omega

/-- A text without blanks is left alone. -/
theorem trimChars_of_not_isBlank {cs : List Char} (h : ∀ c ∈ cs, isBlank c = false) :
    trimChars cs = cs := by
  have hleft : ∀ ds : List Char, (∀ c ∈ ds, isBlank c = false) → trimLeft ds = ds := by
    intro ds hds
    cases ds with
    | nil => rfl
    | cons c rest => exact trimLeft_of_head (hds c (by simp))
  rw [trimChars, hleft cs h, hleft cs.reverse (by simpa using h), List.reverse_reverse]

theorem trimChars_showInt (i : Int) : trimChars (showInt i).toList = (showInt i).toList := by
  refine trimChars_of_not_isBlank fun c hc => ?_
  rcases isDigit_or_eq_of_mem_showInt hc with hdigit | rfl
  · exact isBlank_of_isDigit hdigit
  · rfl

/-! ## Numbers of a fixed width -/

/-- The values of the last `width` digits of a number, the highest place first. -/
def lastDigits : Nat → Nat → List Nat
  | 0, _ => []
  | width + 1, n => lastDigits width (n / 10) ++ [n % 10]

variable {c : Char} {rest : List Char}

@[simp] theorem length_lastDigits (width n : Nat) : (lastDigits width n).length = width := by
  induction width generalizing n with
  | zero => rfl
  | succ width ih => simp [lastDigits, ih]

theorem lastDigits_lt {width n : Nat} : ∀ d ∈ lastDigits width n, d < 10 := by
  induction width generalizing n with
  | zero => simp [lastDigits]
  | succ width ih =>
    intro d hd
    rcases List.mem_append.1 hd with hd | hd
    · exact ih d hd
    · obtain rfl := List.mem_singleton.1 hd
      exact Nat.mod_lt _ (by decide)

theorem ofDigits_append_singleton (ds : List Nat) (d : Nat) :
    ofDigits (ds ++ [d]) = ofDigits ds * 10 + d := by
  simp [ofDigits]

/-- The last digits stand for the number, modulo what the width can hold. -/
theorem ofDigits_lastDigits (width n : Nat) : ofDigits (lastDigits width n) = n % 10 ^ width := by
  induction width generalizing n with
  | zero => simp [lastDigits, ofDigits, Nat.mod_one]
  | succ width ih =>
    rw [lastDigits, ofDigits_append_singleton, ih, Nat.pow_succ, Nat.mul_comm (10 ^ width),
      Nat.mod_mul]
    omega

theorem fixedWidth_eq (width n : Nat) :
    fixedWidth width n = (lastDigits width n).map digitChar := by
  induction width generalizing n with
  | zero => rfl
  | succ width ih => simp [fixedWidth, lastDigits, ih]

/-- Digits are split off up to the limit, and the rest of it is left for what follows. -/
theorem takeDigits_append (ds : List Nat) (h : ∀ d ∈ ds, d < 10) (limit : Nat)
    (rest : List Char) :
    takeDigits (ds.length + limit) (ds.map digitChar ++ rest) =
      (ds ++ (takeDigits limit rest).1, (takeDigits limit rest).2) := by
  induction ds with
  | nil => simp
  | cons d ds ih =>
    have hrest := ih fun e he => h e (by simp [he])
    rw [List.length_cons, Nat.add_right_comm, List.map_cons, List.cons_append, takeDigits,
      digit?_digitChar d (h d (by simp)), hrest]
    rfl

/-- Nothing is split off in front of something else than a digit. -/
theorem takeDigits_of_not_digit (h : digit? c = none) (limit : Nat) :
    takeDigits limit (c :: rest) = ([], c :: rest) := by
  cases limit with
  | zero => rfl
  | succ limit => rw [takeDigits, h]

/-- **A number of a fixed width** is split off as long as the limit is this width. -/
theorem takeDigits_fixedWidth (width n : Nat) (rest : List Char) :
    takeDigits width (fixedWidth width n ++ rest) = (lastDigits width n, rest) := by
  have h := takeDigits_append (lastDigits width n) lastDigits_lt 0 rest
  rw [length_lastDigits, takeDigits_zero, ← fixedWidth_eq] at h
  simpa using h

/-- A number of a fixed width is split off before something else than a digit. -/
theorem takeDigits_fixedWidth_cons {width limit : Nat} (hlimit : width ≤ limit) (n : Nat)
    (h : digit? c = none) :
    takeDigits limit (fixedWidth width n ++ c :: rest) = (lastDigits width n, c :: rest) := by
  have hdigits :=
    takeDigits_append (lastDigits width n) lastDigits_lt (limit - width) (c :: rest)
  rw [length_lastDigits, Nat.add_sub_cancel' hlimit, takeDigits_of_not_digit h,
    ← fixedWidth_eq] at hdigits
  simpa using hdigits

/-- A number that fits its width is written in this width. -/
theorem toList_padded {width n : Nat} (h : n < 10 ^ width) :
    (padded width n).toList = fixedWidth width n := by
  rw [padded, if_pos (show n < Nat.pow 10 width from h), String.toList_ofList]

/-! ## Natural numbers in text -/

theorem isDigit_of_digit? {d : Nat} (h : digit? c = some d) : c.isDigit := by
  rw [digit?, Option.ite_none_right_eq_some] at h
  simp only [Char.isDigit, Bool.and_eq_true, decide_eq_true_eq]
  exact h.1

/-- Where everything is split off, everything is a digit. -/
theorem isDigit_of_takeDigits {limit : Nat} {cs : List Char} {ds : List Nat}
    (h : takeDigits limit cs = (ds, [])) : ∀ c ∈ cs, c.isDigit := by
  induction limit generalizing cs ds with
  | zero =>
    rw [takeDigits_zero] at h
    obtain rfl : cs = [] := (Prod.ext_iff.1 h).2
    simp
  | succ limit ih =>
    cases cs with
    | nil => simp
    | cons c cs =>
      rw [takeDigits] at h
      split at h
      next d hd =>
        have hrest : takeDigits limit cs = ((takeDigits limit cs).1, []) :=
          Prod.ext rfl (Prod.ext_iff.1 h).2
        exact List.forall_mem_cons.2 ⟨isDigit_of_digit? hd, ih hrest⟩
      next hd => exact absurd (Prod.ext_iff.1 h).2 (List.cons_ne_nil c cs)

/-- The digits of a text stand for what they stand for in the usual order of places. -/
theorem ofDigits_map_toNat (cs : List Char) :
    ofDigits (cs.map fun c => c.toNat - '0'.toNat) = Nat.ofDigitChars 10 cs 0 := by
  rw [ofDigits, Nat.ofDigitChars_eq_foldl, List.foldl_map]
  simp only [Nat.mul_comm]

/-- A text is read as a natural number when it is one or more digits. -/
theorem readNatural?_eq_some_iff {cs : List Char} {n : Nat} :
    readNatural? cs = some n ↔
      cs ≠ [] ∧ (∀ c ∈ cs, c.isDigit) ∧ Nat.ofDigitChars 10 cs 0 = n := by
  rw [readNatural?]
  constructor
  · intro h
    split at h
    next d ds hspan =>
      have hdigits := isDigit_of_takeDigits hspan
      rw [spanDigits_of_isDigit hdigits] at hspan
      have hmap : (cs.map fun c => c.toNat - '0'.toNat) = d :: ds := (Prod.ext_iff.1 hspan).1
      refine ⟨?_, hdigits, ?_⟩
      · rintro rfl
        exact List.cons_ne_nil d ds hmap.symm
      · rw [← ofDigits_map_toNat, hmap]
        exact Option.some.inj h
    next => exact absurd h nofun
  · rintro ⟨hne, hdigits, rfl⟩
    obtain ⟨c, rest, rfl⟩ := List.exists_cons_of_ne_nil hne
    rw [spanDigits_of_isDigit hdigits, ← ofDigits_map_toNat]
    rfl

/-- A text that says a natural number up to `most`: digits of ASCII, with or without a plus sign
before them. -/
def IsUnsigned (most : Nat) (cs : List Char) (n : Nat) : Prop :=
  ∃ digits, (cs = digits ∨ cs = '+' :: digits) ∧ digits ≠ [] ∧ (∀ c ∈ digits, c.isDigit) ∧
    Nat.ofDigitChars 10 digits 0 = n ∧ n ≤ most

/-- **What is read as a natural number** is what says one. -/
theorem readUnsigned?_eq_some_iff {most n : Nat} {cs : List Char} :
    readUnsigned? most cs = some n ↔ IsUnsigned most cs n := by
  have hread : ∀ body : List Char, (readNatural? body).filter (· ≤ most) = some n ↔
      body ≠ [] ∧ (∀ c ∈ body, c.isDigit) ∧ Nat.ofDigitChars 10 body 0 = n ∧ n ≤ most := by
    intro body
    rw [Option.filter_eq_some_iff, readNatural?_eq_some_iff, decide_eq_true_eq]
    tauto
  unfold readUnsigned?
  split
  next rest =>
    rw [hread]
    constructor
    · exact fun h => ⟨rest, .inr rfl, h⟩
    · rintro ⟨digits, rfl | hplus, hdigits⟩
      · -- a sign is no digit
        exact absurd (hdigits.2.1 '+' (by simp)) (by decide)
      · obtain rfl : rest = digits := (List.cons.inj hplus).2
        exact hdigits
  next hplus =>
    rw [hread]
    constructor
    · exact fun h => ⟨cs, .inl rfl, h⟩
    · rintro ⟨digits, rfl | rfl, hdigits⟩
      · exact hdigits
      · exact absurd rfl (hplus digits)

end SquarePool.Text
