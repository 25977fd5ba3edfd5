/-!
# Hexadecimal digits

Numbers and bytes written in ASCII hexadecimal digits. Reading takes digits of either case, writing
puts down small ones.
-/

namespace RemoteDisplay

/-- The value of an ASCII hexadecimal digit. -/
def hexDigit? (c : Char) : Option Nat :=
  if '0' ≤ c ∧ c ≤ '9' then some (c.toNat - '0'.toNat)
  else if 'a' ≤ c ∧ c ≤ 'f' then some (c.toNat - 'a'.toNat + 10)
  else if 'A' ≤ c ∧ c ≤ 'F' then some (c.toNat - 'A'.toNat + 10)
  else none

/-- The number written by hexadecimal digits, if there are no other characters. -/
def hexNumber? (cs : List Char) : Option Nat :=
  cs.foldlM (fun n c => (hexDigit? c).map fun d => 16 * n + d) 0

/-- The number as a 32-bit word, if it fits. -/
def word? (n : Nat) : Option UInt32 := if n < 4294967296 then some (UInt32.ofNat n) else none

/-- The word with one more digit put behind it. -/
def pushHexDigit? (n : UInt32) (c : Char) : Option UInt32 := do
  let shifted ← word? (n.toNat * 16)
  let digit ← hexDigit? c
  word? (shifted.toNat + digit)

/-- The word written by hexadecimal digits. There has to be a digit, after a plus sign if there is one,
and leading zeros do not count. -/
def hexWord? : List Char → Option UInt32
  | [] | ['+'] | ['-'] => none
  | '+' :: digits => digits.foldlM pushHexDigit? 0
  | digits => digits.foldlM pushHexDigit? 0

/-- A number in as many digits as it needs. -/
def hexDigits (n : Nat) : String := String.ofList (Nat.toDigits 16 n)

/-- The two digits of a byte. -/
def hexByte (b : UInt8) : List Char := [Nat.digitChar (b.toNat / 16), Nat.digitChar (b.toNat % 16)]

/-- Two digits for each byte. -/
def hexText (bytes : List UInt8) : String := String.ofList (bytes.flatMap hexByte)

/-- The bytes written by pairs of digits. -/
def hexBytes? : List Char → Option (List UInt8)
  | [] => some []
  | [_] => none
  | a :: b :: cs => do
    let high ← hexDigit? a
    let low ← hexDigit? b
    return UInt8.ofNat (16 * high + low) :: (← hexBytes? cs)

end RemoteDisplay
