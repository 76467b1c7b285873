/-!
# Base 64

`Text.base64` writes bytes in the standard alphabet of 64 characters, three bytes to four
characters, with `=` padding the last group to four.
-/

namespace AgentLink.Text

/-- The standard alphabet. -/
def base64Alphabet : Array Char :=
  "ABCDEFGHIJKLMNOPQRSTUVWXYZabcdefghijklmnopqrstuvwxyz0123456789+/".toList.toArray

/-- The character for a six-bit value. -/
def base64Digit (n : Nat) : Char :=
  base64Alphabet.getD (n % 64) 'A'

/-- Bytes in base 64, padded. -/
def base64 : List UInt8 → String
  | [] => ""
  | [a] =>
    let n := a.toNat * 65536
    String.ofList [base64Digit (n / 262144), base64Digit (n / 4096), '=', '=']
  | [a, b] =>
    let n := a.toNat * 65536 + b.toNat * 256
    String.ofList [base64Digit (n / 262144), base64Digit (n / 4096), base64Digit (n / 64), '=']
  | a :: b :: c :: rest =>
    let n := a.toNat * 65536 + b.toNat * 256 + c.toNat
    String.ofList [base64Digit (n / 262144), base64Digit (n / 4096), base64Digit (n / 64),
      base64Digit n] ++ base64 rest

end AgentLink.Text
