import SquarePool.Proofs.Text.Lower
import SquarePool.Sql.Like

/-!
# What a pattern accepts

The rules of patterns, apart from the matcher that decides them. Main statements: the matcher keeps
to the rules; the pattern made from a text accepts the texts that hold it and no other; and lowering
a pattern made from a text gives the pattern of the lowered text, since no sign of a pattern has
case and no letter becomes one.
-/

namespace SquarePool.Sql.Like

open Text (inRanges caseIgnorableRanges casedRanges lowerAt lowerAfter lowerSimple meetsCased)

/-- A pattern fits a text: a percent sign stands for any run of characters, a low line for any one,
a character after a backslash for itself, and every other character for itself too. -/
inductive Fits : List Char → List Char → Prop
  | done : Fits [] []
  | run (skipped : List Char) {pattern text : List Char} (h : Fits pattern text) :
    Fits ('%' :: pattern) (skipped ++ text)
  | one (c : Char) {pattern text : List Char} (h : Fits pattern text) :
    Fits ('_' :: pattern) (c :: text)
  | quoted (c : Char) {pattern text : List Char} (h : Fits pattern text) :
    Fits ('\\' :: c :: pattern) (c :: text)
  | plain {c : Char} (hc : isSpecial c = false) {pattern text : List Char} (h : Fits pattern text) :
    Fits (c :: pattern) (c :: text)

theorem isSpecial_iff {c : Char} : isSpecial c = true ↔ c = '\\' ∨ c = '%' ∨ c = '_' := by
  simp [isSpecial, or_assoc]

theorem ne_of_not_isSpecial {c : Char} (h : isSpecial c = false) :
    c ≠ '\\' ∧ c ≠ '%' ∧ c ≠ '_' := by
  simpa [isSpecial, and_assoc] using h

variable {pattern text : List Char} {c d : Char}

/-! ## One step of a pattern -/

theorem fits_nil_iff : Fits [] text ↔ text = [] := by
  constructor
  · rintro ⟨⟩
    rfl
  · rintro rfl
    exact .done

theorem fits_run_iff :
    Fits ('%' :: pattern) text ↔ ∃ skipped rest, text = skipped ++ rest ∧ Fits pattern rest := by
  constructor
  · intro h
    cases h with
    | run skipped h => exact ⟨skipped, _, rfl, h⟩
    | plain hc h => exact absurd hc (by decide)
  · rintro ⟨skipped, rest, rfl, h⟩
    exact .run skipped h

theorem fits_one_iff :
    Fits ('_' :: pattern) text ↔ ∃ c rest, text = c :: rest ∧ Fits pattern rest := by
  constructor
  · intro h
    cases h with
    | one c h => exact ⟨c, _, rfl, h⟩
    | plain hc h => exact absurd hc (by decide)
  · rintro ⟨c, rest, rfl, h⟩
    exact .one c h

theorem fits_quoted_iff :
    Fits ('\\' :: c :: pattern) text ↔ ∃ rest, text = c :: rest ∧ Fits pattern rest := by
  constructor
  · intro h
    cases h with
    | quoted c h => exact ⟨_, rfl, h⟩
    | plain hc h => exact absurd hc (by decide)
  · rintro ⟨rest, rfl, h⟩
    exact .quoted c h

theorem fits_plain_iff (hc : isSpecial c = false) :
    Fits (c :: pattern) text ↔ ∃ rest, text = c :: rest ∧ Fits pattern rest := by
  constructor
  · intro h
    cases h with
    | plain _ h => exact ⟨_, rfl, h⟩
    | run | one | quoted => exact absurd hc (by decide)
  · rintro ⟨rest, rfl, h⟩
    exact .plain hc h

theorem not_fits_lone_backslash : ¬ Fits ['\\'] text := by
  intro h
  cases h with
  | plain hc h => exact absurd hc (by decide)

/-! ## The matcher -/

theorem someEnd_iff {test : List Char → Bool} :
    someEnd test text = true ↔ ∃ skipped rest, text = skipped ++ rest ∧ test rest = true := by
  induction text with
  | nil =>
    rw [someEnd]
    constructor
    · exact fun h => ⟨[], [], rfl, h⟩
    · rintro ⟨skipped, rest, htext, h⟩
      rw [(List.append_eq_nil_iff.1 htext.symm).2] at h
      exact h
  | cons c text ih =>
    rw [someEnd, Bool.or_eq_true, ih]
    constructor
    · rintro (h | ⟨skipped, rest, rfl, h⟩)
      · exact ⟨[], _, rfl, h⟩
      · exact ⟨c :: skipped, rest, rfl, h⟩
    · rintro ⟨_ | ⟨d, skipped⟩, rest, htext, h⟩
      · exact .inl (htext ▸ h)
      · obtain ⟨rfl, rfl⟩ := List.cons.inj htext
        exact .inr ⟨skipped, rest, rfl, h⟩

theorem accepts_plain_nil (hc : isSpecial c = false) (pattern : List Char) :
    accepts (c :: pattern) [] = false := by
  obtain ⟨hslash, hpercent, hlow⟩ := ne_of_not_isSpecial hc
  exact accepts.eq_8 c pattern hpercent hlow (fun _ _ h _ => hslash h) fun h _ => hslash h

theorem accepts_plain_cons (hc : isSpecial c = false) (pattern : List Char) (d : Char)
    (rest : List Char) : accepts (c :: pattern) (d :: rest) = (c == d && accepts pattern rest) := by
  obtain ⟨hslash, hpercent, hlow⟩ := ne_of_not_isSpecial hc
  exact accepts.eq_9 c pattern d rest hpercent hlow (fun _ _ h _ => hslash h) fun h _ => hslash h

/-- A pattern that starts with a character for `c` accepts what starts with `c`, and then what the
rest of the pattern accepts. -/
theorem accepts_literal_iff {whole : List Char}
    (ih : ∀ text, accepts pattern text = true ↔ Fits pattern text)
    (hnil : accepts whole [] = false)
    (hcons : ∀ d rest, accepts whole (d :: rest) = (c == d && accepts pattern rest)) :
    accepts whole text = true ↔ ∃ rest, text = c :: rest ∧ Fits pattern rest := by
  cases text with
  | nil => simp [hnil]
  | cons d rest =>
    rw [hcons, Bool.and_eq_true, beq_iff_eq, ih]
    constructor
    · rintro ⟨rfl, hrest⟩
      exact ⟨rest, rfl, hrest⟩
    · rintro ⟨_, htext, hrest⟩
      obtain ⟨rfl, rfl⟩ := List.cons.inj htext
      exact ⟨rfl, hrest⟩

/-- The matcher keeps to the rules. -/
theorem accepts_iff_fits (pattern text : List Char) :
    accepts pattern text = true ↔ Fits pattern text := by
  -- a backslash takes two characters of the pattern at once
  induction hlength : pattern.length using Nat.strongRecOn generalizing pattern text with
  | ind n ih =>
  subst hlength
  cases pattern with
  | nil => rw [accepts, List.isEmpty_iff, fits_nil_iff]
  | cons c pattern =>
    have rest (text : List Char) : accepts pattern text = true ↔ Fits pattern text :=
      ih _ (Nat.lt_succ_self _) pattern text rfl
    cases hc : isSpecial c with
    | false =>
      rw [fits_plain_iff hc]
      exact accepts_literal_iff rest (accepts_plain_nil hc pattern) (accepts_plain_cons hc pattern)
    | true =>
      rcases isSpecial_iff.1 hc with rfl | rfl | rfl
      · cases pattern with
        | nil =>
          rw [accepts]
          exact iff_of_false Bool.false_ne_true not_fits_lone_backslash
        | cons c pattern =>
          have rest (text : List Char) : accepts pattern text = true ↔ Fits pattern text :=
            ih _ (Nat.lt_succ_of_lt (Nat.lt_succ_self _)) pattern text rfl
          rw [fits_quoted_iff]
          exact accepts_literal_iff rest (accepts.eq_5 c pattern) (accepts.eq_6 c pattern)
      · rw [accepts, someEnd_iff, fits_run_iff]
        simp only [rest]
      · rw [fits_one_iff]
        cases text with
        | nil => simp [accepts]
        | cons c tail =>
          rw [accepts, rest]
          exact ⟨fun h => ⟨c, tail, rfl, h⟩, fun ⟨_, _, htext, h⟩ => (List.cons.inj htext).2 ▸ h⟩

instance : Decidable (Fits pattern text) := decidable_of_iff _ (accepts_iff_fits pattern text)

/-! ## Patterns made from texts -/

theorem quote_cons_of_isSpecial (hc : isSpecial c = true) (s : List Char) :
    quote (c :: s) = '\\' :: c :: quote s := by
  rw [quote, if_pos hc]

theorem quote_cons_of_not_isSpecial (hc : isSpecial c = false) (s : List Char) :
    quote (c :: s) = c :: quote s := by
  rw [quote, if_neg (by simp [hc])]

/-- A quoted character stands for itself, special or not. -/
theorem fits_quote_cons_iff {s : List Char} :
    Fits (quote (c :: s) ++ pattern) text ↔
      ∃ rest, text = c :: rest ∧ Fits (quote s ++ pattern) rest := by
  cases hc : isSpecial c with
  | true =>
    rw [quote_cons_of_isSpecial hc]
    exact fits_quoted_iff
  | false =>
    rw [quote_cons_of_not_isSpecial hc]
    exact fits_plain_iff hc

/-- A quoted text stands for itself. -/
theorem fits_quote_append_iff {s : List Char} :
    Fits (quote s ++ pattern) text ↔ ∃ rest, text = s ++ rest ∧ Fits pattern rest := by
  induction s generalizing text with
  | nil => simp [quote]
  | cons c s ih =>
    rw [fits_quote_cons_iff]
    constructor
    · rintro ⟨tail, rfl, h⟩
      obtain ⟨rest, rfl, hrest⟩ := ih.1 h
      exact ⟨rest, rfl, hrest⟩
    · rintro ⟨rest, rfl, h⟩
      exact ⟨s ++ rest, rfl, ih.2 ⟨rest, rfl, h⟩⟩

theorem fits_run (text : List Char) : Fits ['%'] text := by
  rw [fits_run_iff]
  exact ⟨text, [], (List.append_nil text).symm, .done⟩

theorem toList_holding (s : String) :
    (holding s).toList = '%' :: (quote s.toList ++ ['%']) := by
  rw [holding, String.toList_ofList, List.cons_append]

/-- **A pattern made from a text accepts the texts that hold it.** -/
theorem fits_holding_iff {s t : String} :
    Fits (holding s).toList t.toList ↔ s.toList <:+: t.toList := by
  rw [toList_holding, fits_run_iff]
  constructor
  · rintro ⟨before, rest, htext, h⟩
    obtain ⟨after, rfl, -⟩ := fits_quote_append_iff.1 h
    exact ⟨before, after, by rw [htext, List.append_assoc]⟩
  · rintro ⟨before, after, htext⟩
    exact ⟨before, s.toList ++ after, by rw [← htext, List.append_assoc],
      fits_quote_append_iff.2 ⟨after, rfl, fits_run after⟩⟩

example : Fits (holding "50%_\\").toList "a 50%_\\ cut".toList ∧
    ¬ Fits (holding "50%").toList "a 500 cut".toList := by decide +kernel

/-! ## Patterns in lower case -/

/-- The signs of a pattern have no case and hide what stands behind them. -/
theorem meetsCased_of_isSpecial (hc : isSpecial c = true) (cs : List Char) :
    meetsCased (c :: cs) = false := by
  have ignorable : inRanges caseIgnorableRanges c = false := by
    rcases isSpecial_iff.1 hc with rfl | rfl | rfl <;> decide +kernel
  rw [Text.meetsCased_of_not_ignorable ignorable]
  rcases isSpecial_iff.1 hc with rfl | rfl | rfl <;> decide +kernel

theorem lowerAt_of_isSpecial (hc : isSpecial c = true) (before after : List Char) :
    lowerAt before c after = [c] := by
  have hsimple : lowerSimple c = c := by
    rcases isSpecial_iff.1 hc with rfl | rfl | rfl <;> decide +kernel
  have hletters : c ≠ 'Σ' ∧ c ≠ 'İ' := by
    rcases isSpecial_iff.1 hc with rfl | rfl | rfl <;> decide
  rw [lowerAt, if_neg hletters.1, if_neg hletters.2, hsimple]

/-- No letter becomes a sign of a pattern. -/
theorem not_isSpecial_of_mem_lowerAt (hc : isSpecial c = false) {before after : List Char}
    (h : d ∈ lowerAt before c after) : isSpecial d = false := by
  rw [lowerAt] at h
  split at h
  next =>
    split at h <;> obtain rfl := List.mem_singleton.1 h <;> rfl
  next =>
    split at h
    next =>
      rcases List.mem_cons.1 h with rfl | h
      · rfl
      · obtain rfl := List.mem_singleton.1 h
        rfl
    next =>
      obtain rfl := List.mem_singleton.1 h
      rcases Text.lowerSimple_cases c with hsame | hnone | hlater
      · rwa [hsame]
      · rw [hnone]
        rfl
      · refine Bool.eq_false_iff.2 fun hspecial => ?_
        rcases isSpecial_iff.1 hspecial with h | h | h <;>
          exact absurd hlater (by rw [h]; decide)

theorem quote_append (s t : List Char) : quote (s ++ t) = quote s ++ quote t := by
  induction s with
  | nil => rfl
  | cons c s ih =>
    cases hc : isSpecial c with
    | true => rw [List.cons_append, quote_cons_of_isSpecial hc, quote_cons_of_isSpecial hc, ih]; rfl
    | false =>
      rw [List.cons_append, quote_cons_of_not_isSpecial hc, quote_cons_of_not_isSpecial hc, ih]
      rfl

theorem quote_of_not_isSpecial {s : List Char} (h : ∀ c ∈ s, isSpecial c = false) :
    quote s = s := by
  induction s with
  | nil => rfl
  | cons c s ih =>
    rw [quote_cons_of_not_isSpecial (h c (by simp)), ih fun d hd => h d (by simp [hd])]

/-- What is met behind a quoted text is what is met behind the text. -/
theorem meetsCased_quote (s : List Char) : meetsCased (quote s ++ ['%']) = meetsCased s := by
  induction s with
  | nil => exact meetsCased_of_isSpecial rfl []
  | cons c s ih =>
    cases hc : isSpecial c with
    | true =>
      rw [quote_cons_of_isSpecial hc, List.cons_append, meetsCased_of_isSpecial rfl,
        meetsCased_of_isSpecial hc]
    | false =>
      rw [quote_cons_of_not_isSpecial hc, List.cons_append, Text.meetsCased_cons_congr ih]

/-- A quoted text is lowered as the text is, if the same is met before both. -/
theorem lowerAfter_quote {before before' : List Char} (s : List Char)
    (h : meetsCased before' = meetsCased before) :
    lowerAfter before' (quote s ++ ['%']) = quote (lowerAfter before s) ++ ['%'] := by
  induction s generalizing before before' with
  | nil =>
    have hsign : lowerAt before' '%' [] = ['%'] := lowerAt_of_isSpecial rfl _ _
    show lowerAt before' '%' [] ++ [] = ['%']
    rw [hsign, List.append_nil]
  | cons c s ih =>
    rw [lowerAfter, quote_append]
    cases hc : isSpecial c with
    | true =>
      -- what is met before the quoted character is the backslash, and that hides all else
      have next : meetsCased (c :: '\\' :: before') = meetsCased (c :: before) := by
        rw [meetsCased_of_isSpecial hc, meetsCased_of_isSpecial hc]
      rw [quote_cons_of_isSpecial hc, List.cons_append, List.cons_append, lowerAfter,
        lowerAt_of_isSpecial rfl, lowerAfter, lowerAt_of_isSpecial hc, ih next,
        lowerAt_of_isSpecial hc, quote_cons_of_isSpecial hc]
      rfl
    | false =>
      have next : meetsCased (c :: before') = meetsCased (c :: before) :=
        Text.meetsCased_cons_congr h c
      rw [quote_cons_of_not_isSpecial hc, List.cons_append, lowerAfter, ih next,
        Text.lowerAt_congr h (meetsCased_quote s),
        quote_of_not_isSpecial fun d => not_isSpecial_of_mem_lowerAt hc, List.append_assoc]

/-- **The lowered pattern of a text is the pattern of the lowered text.** -/
theorem lower_holding (s : String) : Text.lower (holding s) = holding (Text.lower s) := by
  have same : meetsCased ['%'] = meetsCased [] := meetsCased_of_isSpecial rfl []
  rw [Text.lower, toList_holding, lowerAfter, lowerAt_of_isSpecial rfl, lowerAfter_quote _ same,
    holding, Text.lower, String.toList_ofList]
  rfl

end SquarePool.Sql.Like
