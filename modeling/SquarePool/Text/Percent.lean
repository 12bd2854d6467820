/-!
# Percent encoding

Texts in addresses: letters, digits and four marks stand for themselves, every other byte is written
as a percent sign and two hexadecimal digits.
-/

namespace SquarePool.Text.Percent

/-- The characters that stand for themselves. -/
def isUnreserved (b : UInt8) : Bool :=
  (0x41 ≤ b && b ≤ 0x5A) || (0x61 ≤ b && b ≤ 0x7A) || (0x30 ≤ b && b ≤ 0x39)
    || b == 0x2D || b == 0x5F || b == 0x2E || b == 0x7E

/-- A hexadecimal digit, in upper case. -/
def hexDigit (n : Nat) : Char := if n < 10 then Char.ofNat (48 + n) else Char.ofNat (55 + n)

/-- The value of a hexadecimal digit. -/
def hexValue? (c : Char) : Option Nat :=
  let n := c.toNat
  if 48 ≤ n ∧ n ≤ 57 then some (n - 48)
  else if 65 ≤ n ∧ n ≤ 70 then some (n - 55)
  else if 97 ≤ n ∧ n ≤ 102 then some (n - 87)
  else none

/-- A byte as an escape. -/
def escape (b : UInt8) : List Char := ['%', hexDigit (b.toNat / 16), hexDigit (b.toNat % 16)]

/-- Writes a byte: itself if `keep` says so, or else as an escape. -/
def encodeByte (keep : UInt8 → Bool) (b : UInt8) : List Char :=
  if keep b then [Char.ofNat b.toNat] else escape b

/-- Writes bytes. -/
def encodeBytes (keep : UInt8 → Bool) (bytes : List UInt8) : List Char :=
  bytes.flatMap (encodeByte keep)

/-- The bytes of a text. -/
def bytesOf (s : String) : List UInt8 := s.toUTF8.toList

/-- Writes a text with all but unreserved characters escaped. -/
def encode (s : String) : String := String.ofList (encodeBytes isUnreserved (bytesOf s))

/-- Reads bytes. A percent sign without two digits after it, and a character beyond ASCII, is
refused. -/
def decodeBytes? : List Char → Option (List UInt8)
  | [] => some []
  | '%' :: a :: b :: rest => do
    let high ← hexValue? a
    let low ← hexValue? b
    (decodeBytes? rest).map (UInt8.ofNat (high * 16 + low) :: ·)
  | c :: rest =>
    if c = '%' ∨ 128 ≤ c.toNat then none
    else (decodeBytes? rest).map (UInt8.ofNat c.toNat :: ·)

/-- Reads a text. -/
def decode? (s : String) : Option String :=
  (decodeBytes? s.toList).bind fun bytes => String.fromUTF8? ⟨bytes.toArray⟩

end SquarePool.Text.Percent
