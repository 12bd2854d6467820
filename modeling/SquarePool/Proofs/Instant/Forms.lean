import Mathlib.Data.List.Pairwise
import SquarePool.Instant.Reader
import SquarePool.Proofs.Text.Decimal

/-!
# The forms of an instant

Four forms are tried one after the other, and some texts have several of them. All forms share what
comes before the minute. The Internet form reads it in fixed widths, and where it does, the lenient
forms read the same. After the minute, the form to the minute differs from the others in the next
character, and what the others read there is the same again. Main statement: forms that read one
text agree on it, so that the order in which they are tried makes no difference.
-/

namespace SquarePool

namespace Text

variable {limit : Nat} {cs : List Char}

/-- Where a digit is split off, the text starts with one. -/
theorem exists_digit_of_takeDigits (h : 0 < (takeDigits limit cs).1.length) :
    ∃ c rest d, cs = c :: rest ∧ digit? c = some d := by
  cases limit with
  | zero => simp [takeDigits_zero] at h
  | succ limit =>
    cases cs with
    | nil => simp [takeDigits] at h
    | cons c rest =>
      cases hdigit : digit? c with
      | none => simp [takeDigits, hdigit] at h
      | some d => exact ⟨c, rest, d, rfl, hdigit⟩

end Text

namespace Instant

/-- The forms in which a feed may write a moment, in the order in which they are tried. -/
def forms : List (List Char → Option Instant) :=
  [ofParts? toMinute, ofInternet?, ofParts? toFraction, ofParts? toSecond]

theorem ofFeed?_eq (text : String) : ofFeed? text = forms.findSome? (· text.toList) := by
  simp only [ofFeed?, forms, List.findSome?]
  cases ofParts? toMinute text.toList with
  | some t => rfl
  | none =>
    cases ofInternet? text.toList with
    | some t => rfl
    | none =>
      cases ofParts? toFraction text.toList with
      | some t => rfl
      | none => cases ofParts? toSecond text.toList <;> rfl

variable {cs rest : List Char} {f g : Fields} {mark : Char} {t a b : Instant} {n least : Nat}

/-! ## Numbers -/

/-- Where a number of a fixed width is read, the text starts with a digit. -/
theorem exists_digit_of_readDigits {most : Nat} (hleast : 0 < least)
    (h : readDigits least most cs = some (n, rest)) :
    ∃ c more, cs = c :: more ∧ c.isDigit := by
  simp only [readDigits, Option.ite_none_right_eq_some] at h
  obtain ⟨c, more, d, hcs, hdigit⟩ :=
    Text.exists_digit_of_takeDigits (show 0 < (Text.takeDigits most cs).1.length by omega)
  exact ⟨c, more, hcs, Text.isDigit_of_digit? hdigit⟩

/-- Where many digits are found, few are enough. -/
theorem readDigits_mono {most fewer : Nat} (hfewer : fewer ≤ least)
    (h : readDigits least most cs = some (n, rest)) :
    readDigits fewer most cs = some (n, rest) := by
  simp only [readDigits, Option.ite_none_right_eq_some] at h ⊢
  exact ⟨by omega, h.2⟩

theorem trimLeft_of_readDigits {most : Nat} (hleast : 0 < least)
    (h : readDigits least most cs = some (n, rest)) : Text.trimLeft cs = cs := by
  obtain ⟨c, more, rfl, hdigit⟩ := exists_digit_of_readDigits hleast h
  exact Text.trimLeft_of_head (Text.isBlank_of_isDigit hdigit)

/-- A number of two digits is read alike by the lenient forms. -/
theorem readTwo_of_readDigits (h : readDigits 2 2 cs = some (n, rest)) :
    readTwo cs = some (n, rest) := by
  rw [readTwo, trimLeft_of_readDigits (by decide) h]
  exact readDigits_mono (by decide) h

/-- A year of four digits is read alike by the lenient forms. -/
theorem readYear_of_readDigits (h : readDigits 4 4 cs = some (n, rest)) :
    readYear (Text.trimLeft cs) = some ((n : Int), rest) := by
  rw [trimLeft_of_readDigits (by decide) h]
  obtain ⟨c, more, rfl, hdigit⟩ := exists_digit_of_readDigits (by decide) h
  have hyear : readYear (c :: more) =
      (readDigits 1 4 (c :: more)).map fun read => ((read.1 : Int), read.2) := by
    unfold readYear
    -- the text starts with a digit and so with no sign
    split
    next hminus => simp_all [Char.isDigit]
    next hplus => simp_all [Char.isDigit]
    next => rfl
  rw [hyear, readDigits_mono (by decide) h]
  rfl

/-! ## Up to the minute -/

/-- Reads the parts of a lenient form, and gives what follows them. -/
def readSome (f : Fields) : List Part → List Char → Option (Fields × List Char)
  | [], cs => some (f, cs)
  | part :: parts, cs => do
    let (g, rest) ← readPart f part cs
    readSome g parts rest

theorem readParts_append (f : Fields) (parts more : List Part) (cs : List Char) :
    readParts f (parts ++ more) cs =
      (readSome f parts cs).bind fun (g, rest) => readParts g more rest := by
  induction parts generalizing f cs with
  | nil => rfl
  | cons part parts ih =>
    simp only [List.cons_append, readParts, readSome]
    cases readPart f part cs with
    | none => rfl
    | some x => exact ih x.1 x.2

theorem readSome_cons {part : Part} {parts : List Part}
    (h : readPart f part cs = some (g, rest)) :
    readSome f (part :: parts) cs = readSome g parts rest := by
  rw [readSome, h]
  rfl

theorem readPart_literal (c : Char) : readPart f (.literal c) (c :: rest) = some (f, rest) := by
  simp [readPart, readChar]

/-- The text starts with a date and a time to the minute in fixed widths, and a mark stands between
the two. -/
inductive StartsFixed (cs : List Char) : Fields → Char → List Char → Prop
  | intro {year month day hour minute : Nat} {mark : Char}
    {months days hours minutes rest : List Char}
    (hyear : readDigits 4 4 cs = some (year, '-' :: months))
    (hmonth : readDigits 2 2 months = some (month, '-' :: days))
    (hday : readDigits 2 2 days = some (day, mark :: hours))
    (hhour : readDigits 2 2 hours = some (hour, ':' :: minutes))
    (hminute : readDigits 2 2 minutes = some (minute, rest)) :
    StartsFixed cs { year, month, day, hour, minute } mark rest

@[simp] theorem readChar_eq_some_iff {c : Char} :
    readChar c cs = some rest ↔ cs = c :: rest := by
  cases cs with
  | nil => simp [readChar]
  | cons d ds => simp [readChar]

theorem readSeparator_eq_some_iff :
    readSeparator cs = some rest ↔
      ∃ mark, (mark = 'T' ∨ mark = 't' ∨ mark = ' ') ∧ cs = mark :: rest := by
  cases cs with
  | nil => simp [readSeparator]
  | cons d ds =>
    simp only [readSeparator, Option.ite_none_right_eq_some, Option.some.injEq, List.cons.injEq]
    constructor
    · rintro ⟨hmark, rfl⟩
      exact ⟨d, hmark, rfl, rfl⟩
    · rintro ⟨mark, hmark, rfl, rfl⟩
      exact ⟨hmark, rfl⟩

/-- **The lenient forms** read a fixed start alike if its mark is theirs, and else refuse it. -/
theorem StartsFixed.readSome (h : StartsFixed cs f mark rest) :
    Instant.readSome {} minuteParts cs = if mark = 'T' then some (f, rest) else none := by
  cases h with
  | @intro year month day hour minute mark months days hours minutes rest hyear hmonth hday hhour
      hminute =>
    have hyear' : readPart {} .year cs = some ({ year }, '-' :: months) := by
      rw [readPart, readYear_of_readDigits hyear]
      rfl
    have hmonth' : readPart { year } .month months = some ({ year, month }, '-' :: days) := by
      rw [readPart, readTwo_of_readDigits hmonth]
      rfl
    have hday' : readPart { year, month } .day days =
        some ({ year, month, day }, mark :: hours) := by
      rw [readPart, readTwo_of_readDigits hday]
      rfl
    have hhour' : readPart { year, month, day } .hour hours =
        some ({ year, month, day, hour }, ':' :: minutes) := by
      rw [readPart, readTwo_of_readDigits hhour]
      rfl
    have hminute' : readPart { year, month, day, hour } .minute minutes =
        some ({ year, month, day, hour, minute }, rest) := by
      rw [readPart, readTwo_of_readDigits hminute]
      rfl
    rw [minuteParts, readSome_cons hyear', readSome_cons (readPart_literal _),
      readSome_cons hmonth', readSome_cons (readPart_literal _), readSome_cons hday']
    split
    next hmark =>
      subst hmark
      rw [readSome_cons (readPart_literal _), readSome_cons hhour',
        readSome_cons (readPart_literal _), readSome_cons hminute']
      rfl
    next hmark => simp [Instant.readSome, readPart, readChar, hmark]

theorem readPart_nano {part : Part} (hpart : part ≠ .fraction)
    (h : readPart f part cs = some (g, rest)) : g.nano = f.nano := by
  cases part with
  | fraction => exact absurd rfl hpart
  | _ =>
    simp only [readPart, Option.map_eq_some_iff, Prod.mk.injEq] at h
    obtain ⟨-, -, rfl, -⟩ := h
    rfl

/-- Parts that are no fraction leave it as it is. -/
theorem readSome_nano {parts : List Part} (hparts : Part.fraction ∉ parts)
    (h : readSome f parts cs = some (g, rest)) : g.nano = f.nano := by
  induction parts generalizing f cs with
  | nil =>
    obtain ⟨rfl, -⟩ : f = g ∧ cs = rest := by simpa [readSome] using h
    rfl
  | cons part parts ih =>
    simp only [readSome, Option.bind_eq_bind, Option.bind_eq_some_iff, Prod.exists] at h
    obtain ⟨f', cs', hfirst, hrest⟩ := h
    rw [List.mem_cons, not_or] at hparts
    rw [ih hparts.2 hrest, readPart_nano (Ne.symm hparts.1) hfirst]

/-! ## What each form reads -/

theorem ofInternet?_eq_some_iff : ofInternet? cs = some t ↔
    ∃ f mark rest second rest' nano rest'' offset, StartsFixed cs f mark (':' :: rest) ∧
      (mark = 'T' ∨ mark = 't' ∨ mark = ' ') ∧ readDigits 2 2 rest = some (second, rest') ∧
      readFraction rest' = some (nano, rest'') ∧ readOffset rest'' = some offset ∧
      Fields.instant? { f with second, nano } offset = some t := by
  constructor
  · intro h
    obtain ⟨⟨year, _⟩, hyear, h⟩ := Option.bind_eq_some_iff.1 h
    obtain ⟨months, hdash, h⟩ := Option.bind_eq_some_iff.1 h
    obtain ⟨⟨month, _⟩, hmonth, h⟩ := Option.bind_eq_some_iff.1 h
    obtain ⟨days, hdash', h⟩ := Option.bind_eq_some_iff.1 h
    obtain ⟨⟨day, _⟩, hday, h⟩ := Option.bind_eq_some_iff.1 h
    obtain ⟨hours, hseparator, h⟩ := Option.bind_eq_some_iff.1 h
    obtain ⟨⟨hour, _⟩, hhour, h⟩ := Option.bind_eq_some_iff.1 h
    obtain ⟨minutes, hcolon, h⟩ := Option.bind_eq_some_iff.1 h
    obtain ⟨⟨minute, _⟩, hminute, h⟩ := Option.bind_eq_some_iff.1 h
    obtain ⟨rest, hcolon', h⟩ := Option.bind_eq_some_iff.1 h
    obtain ⟨⟨second, rest'⟩, hsecond, h⟩ := Option.bind_eq_some_iff.1 h
    obtain ⟨⟨nano, rest''⟩, hnano, h⟩ := Option.bind_eq_some_iff.1 h
    obtain ⟨offset, hoffset, ht⟩ := Option.bind_eq_some_iff.1 h
    obtain ⟨mark, hmark, rfl⟩ := readSeparator_eq_some_iff.1 hseparator
    obtain rfl := readChar_eq_some_iff.1 hdash
    obtain rfl := readChar_eq_some_iff.1 hdash'
    obtain rfl := readChar_eq_some_iff.1 hcolon
    obtain rfl := readChar_eq_some_iff.1 hcolon'
    exact ⟨_, mark, rest, second, rest', nano, rest'', offset,
      .intro hyear hmonth hday hhour hminute, hmark, hsecond, hnano, hoffset, ht⟩
  · rintro ⟨f, mark, rest, second, rest', nano, rest'', offset, hstart, hmark, hsecond, hnano,
      hoffset, ht⟩
    cases hstart with
    | intro hyear hmonth hday hhour hminute =>
      refine Option.bind_eq_some_iff.2 ⟨_, hyear, ?_⟩
      refine Option.bind_eq_some_iff.2 ⟨_, readChar_eq_some_iff.2 rfl, ?_⟩
      refine Option.bind_eq_some_iff.2 ⟨_, hmonth, ?_⟩
      refine Option.bind_eq_some_iff.2 ⟨_, readChar_eq_some_iff.2 rfl, ?_⟩
      refine Option.bind_eq_some_iff.2 ⟨_, hday, ?_⟩
      refine Option.bind_eq_some_iff.2 ⟨_, readSeparator_eq_some_iff.2 ⟨mark, hmark, rfl⟩, ?_⟩
      refine Option.bind_eq_some_iff.2 ⟨_, hhour, ?_⟩
      refine Option.bind_eq_some_iff.2 ⟨_, readChar_eq_some_iff.2 rfl, ?_⟩
      refine Option.bind_eq_some_iff.2 ⟨_, hminute, ?_⟩
      refine Option.bind_eq_some_iff.2 ⟨_, readChar_eq_some_iff.2 rfl, ?_⟩
      refine Option.bind_eq_some_iff.2 ⟨_, hsecond, ?_⟩
      refine Option.bind_eq_some_iff.2 ⟨_, hnano, ?_⟩
      exact Option.bind_eq_some_iff.2 ⟨_, hoffset, ht⟩

theorem ofParts?_eq_some_iff {parts : List Part} : ofParts? (minuteParts ++ parts) cs = some t ↔
    ∃ f rest g, readSome {} minuteParts cs = some (f, rest) ∧ readParts f parts rest = some g ∧
      g.instant? 0 = some t := by
  simp only [ofParts?, readParts_append, Option.bind_eq_bind, Option.bind_eq_some_iff, Prod.exists]
  constructor
  · rintro ⟨g, ⟨f, rest, hstart, hparts⟩, ht⟩
    exact ⟨f, rest, g, hstart, hparts, ht⟩
  · rintro ⟨f, rest, g, hstart, hparts, ht⟩
    exact ⟨g, ⟨f, rest, hstart, hparts⟩, ht⟩

theorem readParts_nil : readParts f [] cs = some g ↔ cs = [] ∧ f = g := by
  cases cs <;> simp [readParts]

theorem readParts_cons {part : Part} {parts : List Part} :
    readParts f (part :: parts) cs = some g ↔
      ∃ f' rest, readPart f part cs = some (f', rest) ∧ readParts f' parts rest = some g := by
  simp [readParts, Option.bind_eq_some_iff]

theorem ofParts?_toMinute : ofParts? toMinute cs = some t ↔
    ∃ f, readSome {} minuteParts cs = some (f, ['Z']) ∧ f.instant? 0 = some t := by
  rw [toMinute, ofParts?_eq_some_iff]
  simp only [readParts_cons, readParts_nil, readPart, Option.map_eq_some_iff, Prod.mk.injEq,
    readChar_eq_some_iff]
  constructor
  · rintro ⟨f, rest, g, hstart, ⟨_, _, ⟨_, rfl, rfl, rfl⟩, rfl, rfl⟩, ht⟩
    exact ⟨f, hstart, ht⟩
  · rintro ⟨f, hstart, ht⟩
    exact ⟨f, _, f, hstart, ⟨_, _, ⟨_, rfl, rfl, rfl⟩, rfl, rfl⟩, ht⟩

theorem ofParts?_toFraction : ofParts? toFraction cs = some t ↔
    ∃ f rest second rest' nano, readSome {} minuteParts cs = some (f, ':' :: rest) ∧
      readTwo rest = some (second, rest') ∧ readFraction rest' = some (nano, ['Z']) ∧
      Fields.instant? { f with second, nano } 0 = some t := by
  rw [toFraction, ofParts?_eq_some_iff]
  simp only [readParts_cons, readParts_nil, readPart, Option.map_eq_some_iff, Prod.mk.injEq,
    readChar_eq_some_iff, Prod.exists]
  constructor
  · rintro ⟨f, _, g, hstart, ⟨_, _, ⟨rest, rfl, rfl, rfl⟩, _, _, ⟨second, rest', hsecond, rfl, rfl⟩,
      _, _, ⟨nano, _, hnano, rfl, rfl⟩, _, _, ⟨_, rfl, rfl, rfl⟩, rfl, rfl⟩, ht⟩
    exact ⟨f, rest, second, rest', nano, hstart, hsecond, hnano, ht⟩
  · rintro ⟨f, rest, second, rest', nano, hstart, hsecond, hnano, ht⟩
    exact ⟨f, _, _, hstart, ⟨_, _, ⟨rest, rfl, rfl, rfl⟩, _, _, ⟨second, rest', hsecond, rfl, rfl⟩,
      _, _, ⟨nano, _, hnano, rfl, rfl⟩, _, _, ⟨_, rfl, rfl, rfl⟩, rfl, rfl⟩, ht⟩

theorem ofParts?_toSecond : ofParts? toSecond cs = some t ↔
    ∃ f rest second, readSome {} minuteParts cs = some (f, ':' :: rest) ∧
      readTwo rest = some (second, ['Z']) ∧ Fields.instant? { f with second } 0 = some t := by
  rw [toSecond, ofParts?_eq_some_iff]
  simp only [readParts_cons, readParts_nil, readPart, Option.map_eq_some_iff, Prod.mk.injEq,
    readChar_eq_some_iff, Prod.exists]
  constructor
  · rintro ⟨f, _, g, hstart, ⟨_, _, ⟨rest, rfl, rfl, rfl⟩, _, _, ⟨second, rest', hsecond, rfl, rfl⟩,
      _, _, ⟨_, rfl, rfl, rfl⟩, rfl, rfl⟩, ht⟩
    exact ⟨f, rest, second, hstart, hsecond, ht⟩
  · rintro ⟨f, rest, second, hstart, hsecond, ht⟩
    exact ⟨f, _, _, hstart, ⟨_, _, ⟨rest, rfl, rfl, rfl⟩, _, _, ⟨second, _, hsecond, rfl, rfl⟩,
      _, _, ⟨_, rfl, rfl, rfl⟩, rfl, rfl⟩, ht⟩

/-! ## Agreement -/

/-- Two readers agree on every text that both of them read. -/
def Agree (x y : List Char → Option Instant) : Prop :=
  ∀ cs a b, x cs = some a → y cs = some b → a = b

/-- What is read to the second is read with a fraction as well. -/
theorem toFraction_of_toSecond (h : ofParts? toSecond cs = some t) :
    ofParts? toFraction cs = some t := by
  obtain ⟨f, rest, second, hstart, hsecond, ht⟩ := ofParts?_toSecond.1 h
  have hnano : f.nano = 0 := readSome_nano (by decide) hstart
  refine ofParts?_toFraction.2 ⟨f, rest, second, ['Z'], 0, hstart, hsecond, rfl, ?_⟩
  rw [← hnano]
  exact ht

/-- The form to the minute has another character after the minute. -/
theorem toFraction_of_toMinute (h : ofParts? toMinute cs = some a) :
    ofParts? toFraction cs = none := by
  obtain ⟨f, hstart, -⟩ := ofParts?_toMinute.1 h
  refine Option.eq_none_iff_forall_ne_some.2 fun t ht => ?_
  obtain ⟨g, rest, -, -, -, hstart', -⟩ := ofParts?_toFraction.1 ht
  simp [hstart] at hstart'

/-- The Internet form and the form to the minute have no text in common. -/
theorem ofInternet?_of_toMinute (h : ofParts? toMinute cs = some a) : ofInternet? cs = none := by
  obtain ⟨f, hstart, -⟩ := ofParts?_toMinute.1 h
  refine Option.eq_none_iff_forall_ne_some.2 fun t ht => ?_
  obtain ⟨g, mark, rest, -, -, -, -, -, hfixed, -⟩ := ofInternet?_eq_some_iff.1 ht
  rw [hfixed.readSome] at hstart
  split at hstart <;> simp at hstart

/-- The Internet form and the one with a fraction read the same numbers. -/
theorem agree_ofInternet?_toFraction : Agree ofInternet? (ofParts? toFraction) := by
  intro cs a b ha hb
  obtain ⟨f, mark, rest, second, rest', nano, rest'', offset, hfixed, -, hsecond, hnano, hoffset,
    ha⟩ := ofInternet?_eq_some_iff.1 ha
  obtain ⟨g, more, second', more', nano', hstart, hsecond', hnano', hb⟩ := ofParts?_toFraction.1 hb
  obtain ⟨-, rfl, rfl⟩ : mark = 'T' ∧ f = g ∧ rest = more := by
    simpa [hfixed.readSome] using hstart
  obtain ⟨rfl, rfl⟩ : second = second' ∧ rest' = more' := by
    simpa [readTwo_of_readDigits hsecond] using hsecond'
  obtain ⟨rfl, rfl⟩ : nano = nano' ∧ rest'' = ['Z'] := by simpa [hnano] using hnano'
  obtain rfl : offset = 0 := (Option.some.inj hoffset).symm
  exact Option.some.inj (ha.symm.trans hb)

theorem pairwise_agree : forms.Pairwise Agree := by
  refine .cons ?minute (.cons ?internet (.cons ?fraction (.cons (by simp) .nil)))
  case minute =>
    have hinternet : Agree (ofParts? toMinute) ofInternet? := fun cs a b ha hb => by
      simp [ofInternet?_of_toMinute ha] at hb
    have hfraction : Agree (ofParts? toMinute) (ofParts? toFraction) := fun cs a b ha hb => by
      simp [toFraction_of_toMinute ha] at hb
    simp only [List.mem_cons, List.not_mem_nil, or_false, forall_eq_or_imp, forall_eq]
    exact ⟨hinternet, hfraction,
      fun cs a b ha hb => hfraction cs a b ha (toFraction_of_toSecond hb)⟩
  case internet =>
    have hfraction := agree_ofInternet?_toFraction
    simp only [List.mem_cons, List.not_mem_nil, or_false, forall_eq_or_imp, forall_eq]
    exact ⟨hfraction, fun cs a b ha hb => hfraction cs a b ha (toFraction_of_toSecond hb)⟩
  case fraction =>
    simp only [List.mem_singleton, forall_eq]
    intro cs a b ha hb
    exact Option.some.inj (ha.symm.trans (toFraction_of_toSecond hb))

instance : Std.Symm Agree := ⟨fun _ _ h cs a b ha hb => (h cs b a hb ha).symm⟩

/-- **Forms that read one text agree on it.** -/
theorem agree_of_mem_forms {x y : List Char → Option Instant} (hx : x ∈ forms) (hy : y ∈ forms) :
    Agree x y :=
  have itself : ∀ z ∈ forms, Agree z z := fun _ _ _ _ _ ha hb => Option.some.inj (ha.symm.trans hb)
  pairwise_agree.forall_of_forall itself hx hy

/-- **The order of the trials** makes no difference: the moment that is read is the one that any of
the forms reads. -/
theorem findSome?_eq_some_iff {order : List (List Char → Option Instant)}
    (h : order.Perm forms) :
    order.findSome? (· cs) = some t ↔ ∃ form ∈ forms, form cs = some t := by
  constructor
  · intro hfound
    obtain ⟨form, hform, ht⟩ := List.exists_of_findSome?_eq_some hfound
    exact ⟨form, h.mem_iff.1 hform, ht⟩
  · rintro ⟨form, hform, ht⟩
    have hsome : (order.findSome? (· cs)).isSome := by
      rw [List.findSome?_isSome_iff]
      exact ⟨form, h.mem_iff.2 hform, by simp [ht]⟩
    obtain ⟨u, hu⟩ := Option.isSome_iff_exists.1 hsome
    obtain ⟨other, hother, hu'⟩ := List.exists_of_findSome?_eq_some hu
    rw [hu, agree_of_mem_forms (h.mem_iff.1 hother) hform cs u t hu' ht]

/-- A feed's text is read as soon as one of the forms reads it. -/
theorem ofFeed?_eq_some_iff {text : String} :
    ofFeed? text = some t ↔ ∃ form ∈ forms, form text.toList = some t := by
  rw [ofFeed?_eq]
  exact findSome?_eq_some_iff (.refl _)

end Instant

end SquarePool
