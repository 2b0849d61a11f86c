import VocalScore.Number.Rounding

/-!
# Binary64 numbers as exact ratios

A finite number is `mantissa * 2 ^ exponent` with a sign; `parts` reads these off the bits.
In the other direction `nearest` rounds a ratio of whole numbers to the closest number, ties to
the even mantissa. It yields the bits without the sign, so that the order of the results is the
order of the numbers, and everything beyond the largest finite number becomes infinity.
-/

namespace VocalScore.Binary64

/-- What a binary64 number stands for. -/
inductive Parts where
  /-- Not a number. -/
  | nan
  /-- An infinity. -/
  | infinite (negative : Bool)
  /-- The value `mantissa * 2 ^ exponent` with a sign, zero included. -/
  | finite (negative : Bool) (mantissa : Nat) (exponent : Int)
  deriving DecidableEq, Repr

/-- The bit of the sign, which is the highest. -/
def signBit : Nat := 0x8000000000000000

/-- How many fractions there are for each exponent; a normal mantissa has as much added to its
fraction. -/
def fractions : Nat := 0x10000000000000

/-- Read sign, exponent and mantissa off the bits. -/
def partsOfBits (bits : Nat) : Parts :=
  let negative := decide (signBit ≤ bits)
  let field : Nat := bits / fractions % 2048
  let fraction : Nat := bits % fractions
  if field = 2047 then
    if fraction = 0 then .infinite negative else .nan
  else if field = 0 then .finite negative fraction (-1074)
  else .finite negative (fractions + fraction) ((field : Int) - 1075)

/-- What a number stands for. -/
def parts (x : Float) : Parts := partsOfBits x.toBits.toNat

/-- The ratio `num / den` divided by `2 ^ e`, as a ratio of whole numbers. -/
def scaled (num den : Nat) (e : Int) : Nat × Nat :=
  (num * Nat.pow 2 (-e).toNat, den * Nat.pow 2 e.toNat)

/-- The greatest `e` with `2 ^ e ≤ num / den`, for a ratio above zero. -/
def floorLog2 (num den : Nat) : Int :=
  let l : Int := num.log2 - den.log2
  let (n, d) := scaled num den l
  if d ≤ n then l else l - 1

/-- The bits of positive infinity. -/
def infinityBits : Nat := 2047 * fractions

/-- The bits of the number nearest to `num / den`, without sign. -/
def nearest (num den : Nat) : Nat :=
  if num = 0 then 0
  else
    let e := max (floorLog2 num den - 52) (-1074)
    let (n, d) := scaled num den e
    min ((e + 1074).toNat * fractions + roundDiv .toEven n d) infinityBits

/-- The number with the given bits and sign. -/
def ofMagnitude (negative : Bool) (bits : Nat) : Float :=
  Float.ofBits (UInt64.ofNat (if negative then bits + signBit else bits))

/-- The bits of a number without its sign. -/
def magnitude (x : Float) : Nat := x.toBits.toNat % signBit

/-- Not a number. -/
def nan : Float := Float.ofBits 0x7FF8000000000000

/-- Positive or negative infinity. -/
def infinity (negative : Bool) : Float := ofMagnitude negative infinityBits

end VocalScore.Binary64
