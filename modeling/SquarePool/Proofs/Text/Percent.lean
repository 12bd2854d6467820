import SquarePool.Text.Percent

/-!
# Percent encoding read back

Main statements: a text is decoded from what it is encoded as, and an encoded text holds no
character but the percent sign and those that stand for themselves.
-/

namespace SquarePool.Text.Percent

/-! ## Bytes -/

theorem hexValue?_hexDigit : ∀ n < 16, hexValue? (hexDigit n) = some n := by decide

theorem toNat_lt_of_isUnreserved {b : UInt8} (h : isUnreserved b = true) : b.toNat < 128 := by
  simp only [isUnreserved, Bool.or_eq_true, Bool.and_eq_true, decide_eq_true_eq, beq_iff_eq,
    UInt8.le_iff_toNat_le, ← UInt8.toNat_inj] at h
  have hbounds : b.toNat ≤ 0x7E := by
    simp only [UInt8.reduceToNat] at h
    omega
  omega

theorem toNat_ofNat_toNat (b : UInt8) : (Char.ofNat b.toNat).toNat = b.toNat := by
  have hvalid : b.toNat.isValidChar := .inl (Nat.lt_trans b.toNat_lt (by decide))
  rw [Char.ofNat, dif_pos hvalid]
  rfl

theorem ne_percent_of_isUnreserved {b : UInt8} (h : isUnreserved b = true) :
    Char.ofNat b.toNat ≠ '%' := by
  intro heq
  have hnat : b.toNat = 37 := by rw [← toNat_ofNat_toNat b, heq]; rfl
  have hb : b = 37 := UInt8.toNat_inj.1 hnat
  rw [hb] at h
  exact absurd h (by decide)

/-- An escape reads as its byte. -/
theorem decodeBytes?_escape_append (b : UInt8) (cs : List Char) :
    decodeBytes? (escape b ++ cs) = (decodeBytes? cs).map (b :: ·) := by
  have hb := b.toNat_lt
  show ((hexValue? (hexDigit (b.toNat / 16))).bind fun high =>
    (hexValue? (hexDigit (b.toNat % 16))).bind fun low =>
      (decodeBytes? cs).map (UInt8.ofNat (high * 16 + low) :: ·)) = _
  rw [hexValue?_hexDigit _ (by omega), hexValue?_hexDigit _ (by omega)]
  show (decodeBytes? cs).map (UInt8.ofNat (b.toNat / 16 * 16 + b.toNat % 16) :: ·) = _
  rw [Nat.div_add_mod', UInt8.ofNat_toNat]

/-- A character that is no percent sign reads as its byte. -/
theorem decodeBytes?_cons {c : Char} (hc : c ≠ '%') (hascii : c.toNat < 128) (cs : List Char) :
    decodeBytes? (c :: cs) = (decodeBytes? cs).map (UInt8.ofNat c.toNat :: ·) := by
  rw [decodeBytes?, if_neg (by simp [hc]; omega)]
  intro a b rest h
  exact absurd h hc

theorem decodeBytes?_encodeByte_append (b : UInt8) (cs : List Char) :
    decodeBytes? (encodeByte isUnreserved b ++ cs) = (decodeBytes? cs).map (b :: ·) := by
  rw [encodeByte]
  split
  next h =>
    have hb := toNat_lt_of_isUnreserved h
    rw [List.singleton_append,
      decodeBytes?_cons (ne_percent_of_isUnreserved h) (by rwa [toNat_ofNat_toNat]),
      toNat_ofNat_toNat, UInt8.ofNat_toNat]
  next => exact decodeBytes?_escape_append b cs

/-- Bytes are decoded from what they are encoded as. -/
theorem decodeBytes?_encodeBytes (bytes : List UInt8) :
    decodeBytes? (encodeBytes isUnreserved bytes) = some bytes := by
  induction bytes with
  | nil => rfl
  | cons b rest ih =>
    rw [encodeBytes, List.flatMap_cons, decodeBytes?_encodeByte_append]
    show (decodeBytes? (encodeBytes isUnreserved rest)).map (b :: ·) = _
    rw [ih]
    rfl

/-! ## Texts -/

theorem toList_loop (bytes : ByteArray) (i : Nat) (read : List UInt8) :
    ByteArray.toList.loop bytes i read = read.reverse ++ bytes.data.toList.drop i := by
  fun_induction ByteArray.toList.loop bytes i read with
  | case1 i read h ih =>
    have hi : i < bytes.data.toList.length := h
    have hget : bytes.get! i = bytes.data.toList[i] := by
      show bytes.data[i]! = _
      rw [getElem!_pos bytes.data i h, Array.getElem_toList]
    rw [ih, List.reverse_cons, List.append_assoc, List.singleton_append, hget,
      List.drop_eq_getElem_cons hi]
  | case2 i read h =>
    have hi : bytes.data.toList.length ≤ i := Nat.not_lt.1 h
    rw [List.drop_eq_nil_of_le hi, List.append_nil]

theorem mk_toArray_toList (bytes : ByteArray) : ⟨bytes.toList.toArray⟩ = bytes := by
  rw [ByteArray.toList, toList_loop]
  rfl

/-- **A text is decoded from what it is encoded as.** -/
theorem decode?_encode (s : String) : decode? (encode s) = some s := by
  rw [decode?, encode, String.toList_ofList, decodeBytes?_encodeBytes]
  show String.fromUTF8? ⟨s.toUTF8.toList.toArray⟩ = some s
  rw [mk_toArray_toList]
  exact dif_pos s.isValidUTF8

theorem encode_injective {s t : String} (h : encode s = encode t) : s = t := by
  have hdecode := decode?_encode s
  rw [h, decode?_encode] at hdecode
  exact (Option.some.inj hdecode).symm

theorem isUnreserved_hexDigit :
    ∀ n < 16, isUnreserved (UInt8.ofNat (hexDigit n).toNat) = true := by decide

/-- **An encoded text holds no other character** than the percent sign and those that stand for
themselves. -/
theorem not_mem_encode {c : Char} (hpercent : c ≠ '%')
    (h : isUnreserved (UInt8.ofNat c.toNat) = false) (s : String) : c ∉ (encode s).toList := by
  rw [encode, String.toList_ofList, encodeBytes, List.mem_flatMap]
  rintro ⟨b, -, hc⟩
  have hb := b.toNat_lt
  rw [encodeByte] at hc
  split at hc
  next hkeep =>
    obtain rfl := List.mem_singleton.1 hc
    rw [toNat_ofNat_toNat, UInt8.ofNat_toNat, hkeep] at h
    exact absurd h (by decide)
  next =>
    simp only [escape, List.mem_cons, List.not_mem_nil, or_false] at hc
    obtain rfl | rfl | rfl := hc
    · exact hpercent rfl
    · rw [isUnreserved_hexDigit _ (by omega)] at h
      exact absurd h (by decide)
    · rw [isUnreserved_hexDigit _ (by omega)] at h
      exact absurd h (by decide)

end SquarePool.Text.Percent
