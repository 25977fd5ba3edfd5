/-!
# Packed colours

A colour is one 32-bit word: alpha, red, green, blue from the highest byte down. Channels may also
be given as fractions of full intensity in single precision, by their bit patterns.
-/

namespace RemoteDisplay.Colour

/-- Packs four 8-bit channels. -/
@[inline] def argb (a r g b : UInt8) : UInt32 :=
  (a.toUInt32 <<< 24) ||| (r.toUInt32 <<< 16) ||| (g.toUInt32 <<< 8) ||| b.toUInt32

/-- Packs an opaque colour. -/
@[inline] def rgb (r g b : UInt8) : UInt32 := argb 0xff r g b

/-- A quotient rounded to the nearest integer, a tie to the even one. -/
def roundDiv (num den : Nat) : Nat :=
  let q := num / den
  let twice := 2 * (num % den)
  if twice > den ∨ (twice = den ∧ q % 2 = 1) then q + 1 else q

/-- The number of binary digits. -/
def bitLength (n : Nat) : Nat := if n = 0 then 0 else n.log2 + 1

/-- `n` rounded to 24 significant binary digits, the precision of a single. -/
def roundSingle (n : Nat) : Nat :=
  let excess := bitLength n - 24
  roundDiv n (Nat.pow 2 excess) * Nat.pow 2 excess

/-- The leading bit of a normal single's significand, which its bit pattern leaves out. -/
def hiddenBit : Nat := 8388608

/-- The 8-bit channel for a fraction of full intensity: clamped to the unit range, multiplied by
255 in single precision and truncated. What is not a number counts as zero. -/
def channel (bits : UInt32) : UInt8 :=
  let n := bits.toNat
  let negative := n / 2147483648 = 1
  let exponent := n / hiddenBit % 256
  let fraction := n % hiddenBit
  if exponent = 255 ∧ fraction ≠ 0 then 0
  else if negative then 0
  else if exponent ≥ 127 then 255
  else
    let significand := if exponent = 0 then fraction else hiddenBit + fraction
    UInt8.ofNat (roundSingle (255 * significand) / Nat.pow 2 (150 - max exponent 1))

/-- Packs four channels given as fractions. -/
def argbFraction (a r g b : UInt32) : UInt32 := argb (channel a) (channel r) (channel g) (channel b)

/-- The bit pattern of one. -/
def unit : UInt32 := 0x3f800000

/-- Packs an opaque colour given as fractions. -/
def rgbFraction (r g b : UInt32) : UInt32 := argbFraction unit r g b

end RemoteDisplay.Colour
