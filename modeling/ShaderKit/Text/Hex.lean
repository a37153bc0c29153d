/-!
# Bytes as text

Each byte is two hexadecimal digits, the higher one first.
-/

namespace ShaderKit.Text

/-- The digit of a number below 16. -/
def hexDigit (n : Nat) : Char := "0123456789abcdef".toList.getD n '0'

/-- The number of a digit, in lower or upper case. -/
def hexDigit? (c : Char) : Option Nat :=
  if '0' ≤ c && c ≤ '9' then some (c.toNat - '0'.toNat)
  else if 'a' ≤ c && c ≤ 'f' then some (c.toNat - 'a'.toNat + 10)
  else if 'A' ≤ c && c ≤ 'F' then some (c.toNat - 'A'.toNat + 10)
  else none

/-- Two digits for each byte. -/
def hexOfBytes (bytes : List UInt8) : String :=
  String.ofList (bytes.flatMap fun b => [hexDigit (b.toNat / 16), hexDigit (b.toNat % 16)])

/-- The bytes of a text that is digits in pairs.  A last digit without a partner does not count. -/
def bytesOfHex? : List Char → Option (List UInt8)
  | [] => some []
  | [_] => some []
  | a :: b :: rest => do
    let byte := (← hexDigit? a) * 16 + (← hexDigit? b)
    return UInt8.ofNat byte :: (← bytesOfHex? rest)

end ShaderKit.Text
