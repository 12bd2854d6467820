import SquarePool.Json.Decode
import SquarePool.Proofs.Text.Decimal

/-!
# Documents that are written and read

Integers and records as a program writes them. A quantity is rounded three times on its way to a
whole number, but an integer of up to 53 bits survives each time as it is. Main statements: such an
integer is read back as an integer and as a quantity alike, and the fields of a record are those that
were written.
-/

namespace SquarePool.Json

/-! ## Rounding -/

namespace Binary

theorem roundHalfEven_mul_right (n : Nat) {d : Nat} (hd : 0 < d) :
    roundHalfEven (n * d) d = n := by
  simp [roundHalfEven, Nat.mul_div_cancel n hd, hd]

theorem log2_mul_two_pow {n : Nat} (pos : 0 < n) (j : Nat) :
    (n * 2 ^ j).log2 = n.log2 + j := by
  have hj : 0 < 2 ^ j := Nat.two_pow_pos j
  have hlow : 2 ^ n.log2 ≤ n := Nat.log2_self_le (by omega)
  have hhigh : n < 2 ^ (n.log2 + 1) := Nat.lt_log2_self
  have hne : n * 2 ^ j ≠ 0 := (Nat.mul_pos pos hj).ne'
  refine (Nat.log2_eq_iff hne).2 ⟨?_, ?_⟩
  · rw [Nat.pow_add]
    exact Nat.mul_le_mul_right _ hlow
  · rw [Nat.add_right_comm, Nat.pow_add]
    exact Nat.mul_lt_mul_of_pos_right hhigh hj

/-- The places by which a number of at most 53 bits is shifted to have all of them. -/
def spare (n : Nat) : Nat := 52 - n.log2

/-- A number of at most 53 bits times a power of two, divided by that power, is kept exactly. -/
theorem ofRatio_mul_two_pow {n : Nat} (pos : 0 < n) (small : n < 2 ^ 53) (j : Nat) :
    ofRatio (n * 2 ^ j) (2 ^ j) = ⟨n * 2 ^ spare n, -(spare n : Int)⟩ := by
  have hlog : n.log2 ≤ 52 := Nat.le_of_lt_succ ((Nat.log2_lt (by omega)).2 small)
  have hj : 0 < 2 ^ j := Nat.two_pow_pos j
  have hlog₁ : (n * 2 ^ j).log2 = n.log2 + j := log2_mul_two_pow pos j
  have hlog₂ : (2 ^ j).log2 = j := Nat.log2_two_pow
  have hshift : 53 + ((2 ^ j).log2 : Int) - (n * 2 ^ j).log2 = (spare n + 1 : Nat) := by
    rw [hlog₁, hlog₂, spare]
    omega
  -- with one place more the number would have 54 bits
  have hbits : ¬ n * 2 ^ j * 2 ^ (spare n + 1) / 2 ^ j < 2 ^ 53 := by
    have hlow : 2 ^ n.log2 ≤ n := Nat.log2_self_le (by omega)
    have hpow : 2 ^ 53 = 2 ^ n.log2 * 2 ^ (spare n + 1) := by
      rw [← Nat.pow_add, spare]
      congr 1
      omega
    rw [Nat.mul_right_comm, Nat.mul_div_cancel _ hj, hpow, Nat.not_lt]
    exact Nat.mul_le_mul_right _ hlow
  have hround : roundHalfEven (n * 2 ^ j * 2 ^ spare n) (2 ^ j) = n * 2 ^ spare n := by
    rw [Nat.mul_right_comm, roundHalfEven_mul_right _ hj]
  have hne : ¬ (n * 2 ^ j = 0 ∨ 2 ^ j = 0) := by
    simp only [Nat.mul_eq_zero]
    omega
  have hplus : ((spare n + 1 : Nat) : Int).toNat = spare n + 1 := Int.toNat_natCast _
  have hminus : (-((spare n + 1 : Nat) : Int)).toNat = 0 := by omega
  have hpred : ((spare n + 1 : Nat) : Int) - 1 = spare n := by omega
  have hnonneg : (0 : Int) ≤ spare n := by omega
  unfold ofRatio
  simp only [hshift, if_neg hne, hplus, hminus, hpred, Nat.pow_eq, Nat.pow_zero, Nat.mul_one,
    if_neg hbits, if_pos hnonneg, Int.toNat_natCast, hround]

theorem ratio_ofRatio {n : Nat} (pos : 0 < n) (small : n < 2 ^ 53) (j : Nat) :
    (ofRatio (n * 2 ^ j) (2 ^ j)).ratio = (n * 2 ^ spare n, 2 ^ spare n) := by
  rw [ofRatio_mul_two_pow pos small j, ratio]
  cases h : spare n with
  | zero => simp
  | succ k =>
    have hneg : ¬ (0 : Int) ≤ -((k + 1 : Nat) : Int) := by omega
    have hsize : (- -((k + 1 : Nat) : Int)).toNat = k + 1 := by omega
    rw [if_neg hneg, hsize, Nat.pow_eq]

theorem floor_ofRatio {n : Nat} (pos : 0 < n) (small : n < 2 ^ 53) (j : Nat) :
    (ofRatio (n * 2 ^ j) (2 ^ j)).floor = n := by
  rw [floor, ratio_ofRatio pos small j, Nat.mul_div_cancel n (Nat.two_pow_pos _)]

end Binary

/-! ## Integers -/

/-- Digits that fit are all taken in. -/
theorem Significand.push_of_fits (digits : List Nat) (s : Significand)
    (fits : digits.foldl (fun v d => v * 10 + d) s.value ≤ most) :
    s.push digits =
      { s with
        value := digits.foldl (fun v d => v * 10 + d) s.value
        used := s.used + digits.length } := by
  have grows : ∀ (ds : List Nat) (v : Nat), v ≤ ds.foldl (fun v d => v * 10 + d) v := by
    intro ds
    induction ds with
    | nil => exact fun v => Nat.le_refl v
    | cons d rest ih => exact fun v => Nat.le_trans (by omega) (ih (v * 10 + d))
  induction digits generalizing s with
  | nil => rfl
  | cons d rest ih =>
    have hd : s.value * 10 + d ≤ most := Nat.le_trans (grows rest _) fits
    rw [push, if_pos hd, ih _ fits]
    simp only [List.foldl_cons, List.length_cons, Nat.add_assoc, Nat.add_comm 1]

namespace Number

variable {i : Int}

theorem foldl_digitsOf (n : Nat) : (digitsOf n).foldl (fun v d => v * 10 + d) 0 = n :=
  Text.ofDigits_toDigits n

/-- **An integer is read back** as an integer. -/
theorem integer?_ofInt (i : Int) : (ofInt i).integer? = some i := by
  have hvalue := foldl_digitsOf i.natAbs
  by_cases h : i < 0
  · have hne : ¬ i.natAbs = 0 := by omega
    have habs : |i| = -i := abs_of_neg h
    simp [integer?, ofInt, h, hvalue, hne, habs]
  · have habs : |i| = i := abs_of_nonneg (by omega)
    simp [integer?, ofInt, h, hvalue, habs]

theorem significand_ofInt (small : i.natAbs < 2 ^ 53) : (ofInt i).significand = (i.natAbs, 0) := by
  have hvalue := foldl_digitsOf i.natAbs
  have fits : (digitsOf i.natAbs).foldl (fun v d => v * 10 + d) 0 ≤ Significand.most := by
    rw [hvalue]
    exact Nat.le_trans (Nat.le_of_lt small) (by decide)
  simp only [significand, ofInt, Significand.push_of_fits _ ⟨0, 0, 0⟩ fits, hvalue]
  rfl

/-- The size of an integer of 53 bits is exact. -/
theorem size?_ofInt (small : i.natAbs < 2 ^ 53) : (ofInt i).size? = some i.natAbs := by
  rw [size?, significand_ofInt small]
  by_cases h : i.natAbs = 0
  · simp [h]
  · have pos : 0 < i.natAbs := by omega
    -- the number itself, one as the power of ten, and their product
    have hdigits := Binary.ratio_ofRatio pos small 0
    have hpower := Binary.ratio_ofRatio (n := 1) (by decide) (by decide) 0
    have hvalue := Binary.floor_ofRatio pos small (Binary.spare i.natAbs + Binary.spare 1)
    simp only [Nat.pow_zero, Nat.mul_one, Nat.one_mul] at hdigits hpower
    rw [Nat.pow_add, ← Nat.mul_assoc] at hvalue
    have hten : Binary.powerOfTen 0 = Binary.ofRatio 1 1 := rfl
    have hmost : ∀ k, 53 < k → ¬ Nat.pow 2 k ≤ i.natAbs :=
      fun k hk => Nat.not_le_of_lt (small.trans (Nat.pow_lt_pow_right Nat.one_lt_two hk))
    have hinside : ¬ maxExponent < 0 ∧ ¬ 0 < -maxExponent := by decide
    simp only [h, if_false, Int.natAbs_zero, hten, hdigits, hpower, if_neg hinside.1,
      if_neg hinside.2, Int.le_refl, if_true, hvalue, true_and, if_neg (hmost 1024 (by decide))]

/-- **An integer of 53 bits is read back** as a quantity. -/
theorem whole?_ofInt (small : i.natAbs < 2 ^ 53) : (ofInt i).whole? = some i := by
  rw [whole?, size?_ofInt small]
  by_cases h : i < 0
  · have habs : |i| = -i := abs_of_neg h
    simp [ofInt, h, habs]
  · have habs : |i| = i := abs_of_nonneg (by omega)
    simp [ofInt, h, habs]

end Number

theorem isInt32_toInt (n : Int32) : Text.isInt32 n.toInt := by
  have hlow : Text.int32Min ≤ n.toInt := n.le_toInt
  have hhigh : n.toInt ≤ Text.int32Max := Int.le_of_lt_add_one n.toInt_lt
  simp only [Text.isInt32, hlow, hhigh]
  rfl

@[simp]
theorem int32?_int (n : Int32) : int32? (.int n.toInt) = some n.toInt := by
  simp [int32?, int, Number.integer?_ofInt, isInt32_toInt]

@[simp]
theorem whole?_int (n : Int32) : whole? (.int n.toInt) = some n.toInt := by
  have hlow := n.le_toInt
  have hhigh := n.toInt_lt
  exact Number.whole?_ofInt (by omega)

/-! ## Texts, lists and records -/

@[simp]
theorem text?_text (s : String) : text? (.text s) = some s := rfl

@[simp]
theorem bool?_bool (b : Bool) : bool? (.bool b) = some b := rfl

variable {α β : Type} {decode : Json → Option β} {encode : α → Json} {f : α → β}

/-- A value that is not written as null is told from one that is absent. -/
theorem nullable?_orNull (read : ∀ a, decode (encode a) = some (f a))
    (present : ∀ a, encode a ≠ .null) (value : Option α) :
    nullable? decode (.orNull encode value) = some (value.map f) := by
  cases value with
  | none => rfl
  | some a =>
    have hne := present a
    show nullable? decode (encode a) = _
    unfold nullable?
    split
    next hnull => exact absurd hnull hne
    next => rw [read, Option.map_some, Option.map_some]

@[simp]
theorem nullable?_orNull_text (value : Option String) :
    nullable? text? (.orNull .text value) = some value := by
  rw [nullable?_orNull text?_text nofun, Option.map_id']

theorem list?_array_map (read : ∀ a, decode (encode a) = some (f a)) (values : List α) :
    list? decode (.array (values.map encode)) = some (values.map f) := by
  show (values.map encode).mapM decode = _
  induction values with
  | nil => rfl
  | cons a rest ih => simp [read, ih]

/-- **The fields of a record** are its members, if all are known and none is written twice. -/
theorem fields?_ofMembers {names : List String} {members : List (String × Json)}
    (known : ∀ name ∈ members.map Prod.fst, name ∈ names)
    (distinct : (members.map Prod.fst).Nodup) :
    fields? names (.ofMembers members) = some members := by
  rw [ofMembers, fields?]
  induction members with
  | nil => rfl
  | cons first rest ih =>
    obtain ⟨name, value⟩ := first
    rw [List.map_cons, List.nodup_cons] at distinct
    have hrest := ih (fun other hother => known other (by simp [hother])) distinct.2
    have hknown : name ∈ names := known name (by simp)
    have hnew : rest.lookup name = none := by
      rw [List.lookup_eq_none_iff]
      intro other hother
      have hmem : other.1 ∈ rest.map Prod.fst := List.mem_map_of_mem hother
      have hne : other.1 ≠ name := fun e => distinct.1 (e ▸ hmem)
      simpa using hne.symm
    simp [knownMembers, hrest, hknown, hnew]

section Field

variable {name other : String} {json : Json} {rest : List (String × Json)}
  {read : Json → Option α} {default : α}

@[simp]
theorem field_nil : field [] name read default = some default := rfl

@[simp]
theorem field_cons_self : field ((name, json) :: rest) name read default = read json := by
  simp [field]

@[simp]
theorem field_cons_of_ne (h : name ≠ other) :
    field ((other, json) :: rest) name read default = field rest name read default := by
  have hne : (name == other) = false := beq_eq_false_iff_ne.2 h
  simp only [field, List.lookup_cons, hne]

end Field

end SquarePool.Json
