import SquarePool.Text.Lower

/-!
# Lower case and containment

What a letter becomes depends on its neighbours only as far as a letter with case is met on either
side. Main statements: no letter becomes one of the ASCII signs before the small letters, and a text
is held where it stands as a run of neighbouring characters.
-/

namespace SquarePool.Text

/-! ## Containment -/

theorem containsChars_iff {needle hay : List Char} :
    containsChars needle hay = true ↔ needle <:+: hay := by
  induction hay with
  | nil => simp [containsChars]
  | cons c rest ih =>
    rw [containsChars, Bool.or_eq_true, List.isPrefixOf_iff_prefix, ih, List.infix_cons_iff]

/-- A text is held where it stands as a run of neighbouring characters. -/
theorem contains_iff {hay needle : String} :
    contains hay needle = true ↔ needle.toList <:+: hay.toList :=
  containsChars_iff

/-! ## What is met on a side -/

theorem meetsCased_of_ignorable {c : Char} (h : inRanges caseIgnorableRanges c = true)
    (cs : List Char) : meetsCased (c :: cs) = meetsCased cs := by
  rw [meetsCased, meetsCased, List.dropWhile_cons_of_pos h]

theorem meetsCased_of_not_ignorable {c : Char} (h : inRanges caseIgnorableRanges c = false)
    (cs : List Char) : meetsCased (c :: cs) = inRanges casedRanges c := by
  rw [meetsCased, List.dropWhile_cons_of_neg (by simp [h])]

/-- A first character is looked at before all others. -/
theorem meetsCased_cons_congr {cs ds : List Char} (h : meetsCased cs = meetsCased ds) (c : Char) :
    meetsCased (c :: cs) = meetsCased (c :: ds) := by
  cases hc : inRanges caseIgnorableRanges c with
  | true => rw [meetsCased_of_ignorable hc, meetsCased_of_ignorable hc, h]
  | false => rw [meetsCased_of_not_ignorable hc, meetsCased_of_not_ignorable hc]

theorem lowerAt_congr {before before' after after' : List Char}
    (hbefore : meetsCased before = meetsCased before')
    (hafter : meetsCased after = meetsCased after') (c : Char) :
    lowerAt before c after = lowerAt before' c after' := by
  simp only [lowerAt, hbefore, hafter]

/-! ## What a letter becomes -/

/-- All capitals of a run lie before their small letters, which lie after the ASCII signs. -/
theorem lt_of_mem_caseRuns : ∀ run ∈ caseRuns, (0x60 : Int) < run.first + run.shift := by
  decide +kernel

theorem lt_toNat_of_lower? {run : CaseRun} (hrun : run ∈ caseRuns) {n m : Nat}
    (h : run.lower? n = some m) : 0x60 < m := by
  have hlow := lt_of_mem_caseRuns run hrun
  rw [CaseRun.lower?] at h
  split at h
  case isFalse => exact nomatch h
  case isTrue hin =>
    simp only [Bool.and_eq_true, decide_eq_true_eq] at hin
    have hm := Option.some.inj h
    omega

/-- A letter that changes becomes neither an ASCII capital nor one of the signs between capitals
and small letters. -/
theorem lowerSimple_cases (c : Char) :
    lowerSimple c = c ∨ lowerSimple c = '\x00' ∨ 0x60 < (lowerSimple c).toNat := by
  rw [lowerSimple]
  cases h : caseRuns.findSome? (·.lower? c.toNat) with
  | none => exact .inl rfl
  | some n =>
    obtain ⟨run, hrun, hn⟩ := List.exists_of_findSome?_eq_some h
    have hlow : 0x60 < n := lt_toNat_of_lower? hrun hn
    by_cases hvalid : n.isValidChar
    · refine .inr (.inr ?_)
      show 0x60 < (Char.ofNat n).toNat
      rw [Char.ofNat, dif_pos hvalid]
      exact hlow
    · refine .inr (.inl ?_)
      show Char.ofNat n = _
      rw [Char.ofNat, dif_neg hvalid]
      rfl

end SquarePool.Text
