import CopyFormat.Text.Basic

/-!
Percent coding: bytes that are written as `%` and two hexadecimal digits.
-/

namespace CopyFormat.Url

def upperHexDigit (n : Nat) : Char := Char.ofNat (if n < 10 then 0x30 + n else 0x37 + n)

def percentByte (b : UInt8) : Text :=
  ['%', upperHexDigit (b.toNat / 16), upperHexDigit (b.toNat % 16)]

/-- A text in which the characters that satisfy `p`, and all outside ASCII, are in percent
coding. -/
def percentEncode (p : Char → Bool) (t : Text) : Text :=
  t.flatMap fun c =>
    if p c || 0x80 ≤ c.toNat then (String.utf8EncodeChar c).flatMap percentByte else [c]

def isControl (c : Char) : Bool := c.toNat < 0x20 || c.toNat == 0x7F

def isEncodedInPath (c : Char) : Bool :=
  isControl c || [' ', '"', '#', '<', '>', '?', '`', '\x7b', '\x7d'].contains c

/-- The bytes that a text in percent coding stands for. A `%` without two digits behind it stands
for itself. -/
def percentDecode : Text → List UInt8
  | '%' :: a :: b :: r =>
      match Text.hexValue? a, Text.hexValue? b with
      | some x, some y => UInt8.ofNat (x * 16 + y) :: percentDecode r
      | _, _ => 0x25 :: percentDecode (a :: b :: r)
  | c :: r => String.utf8EncodeChar c ++ percentDecode r
  | [] => []

def ofUtf8? (bytes : List UInt8) : Option Text :=
  (String.fromUTF8? (ByteArray.mk bytes.toArray)).map String.toList

end CopyFormat.Url
