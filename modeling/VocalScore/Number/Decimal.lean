import VocalScore.Text.Basic
import VocalScore.Number.Binary64

/-!
# Reading numbers in decimal

A `Decimal` is `significand * 10 ^ exponent`. The grammar of a number is an optional sign, then
either digits with at most one point among or around them and an optional exponent, or one of
the words `inf`, `infinity` and `nan` in any case. A decimal is rounded once, to the nearest
binary64 number: beyond the largest it is infinity, near zero it is zero.
-/

namespace VocalScore

/-- The value `significand * 10 ^ exponent`. -/
structure Decimal where
  significand : Nat
  exponent : Int
  deriving DecidableEq, Repr

namespace Decimal

/-- The decimal as a ratio of whole numbers. -/
def ratio (d : Decimal) : Nat × Nat :=
  (d.significand * Nat.pow 10 d.exponent.toNat, Nat.pow 10 (-d.exponent).toNat)

/-- The bits of the number nearest to a decimal. Exponents far out of range are settled before
any power of ten is computed. -/
def toBits (d : Decimal) : Nat :=
  if d.significand = 0 then 0
  else if 400 < d.exponent then Binary64.infinityBits
  else if d.exponent < -(400 + d.significand.log2) then 0
  else Binary64.nearest d.ratio.1 d.ratio.2

/-- The number nearest to a decimal, with a sign. -/
def toFloat (negative : Bool) (d : Decimal) : Float := Binary64.ofMagnitude negative d.toBits

end Decimal

namespace Number

/-- The value of a row of digits. -/
def natOfDigits (ds : List Char) : Nat :=
  ds.foldl (fun n c => 10 * n + (c.toNat - 48)) 0

/-- Split off the digits at the front. -/
def spanDigits (s : List Char) : List Char × List Char :=
  (s.takeWhile Char.isDigit, s.dropWhile Char.isDigit)

/-- The digits and what follows them are the whole text. -/
theorem spanDigits_append (s : List Char) : (spanDigits s).1 ++ (spanDigits s).2 = s := by
  simp [spanDigits]

/-- Split off one sign; `true` for a minus. -/
def spanSign : List Char → Bool × List Char
  | '-' :: r => (true, r)
  | '+' :: r => (false, r)
  | s => (false, s)

/-- The exponent that ends a number: nothing, or `e` with a sign and digits. -/
def readExponent : List Char → Option Int
  | [] => some 0
  | c :: r =>
    if c = 'e' ∨ c = 'E' then
      let (negative, ds) := spanSign r
      if ds ≠ [] ∧ ds.all Char.isDigit then
        some (if negative then -(natOfDigits ds : Int) else natOfDigits ds)
      else none
    else none

/-- Digits, a point and an exponent; at least one digit stands before or after the point. -/
def readDecimal (s : List Char) : Option Decimal :=
  let (whole, r) := spanDigits s
  let (places, r) := match r with
    | '.' :: q => spanDigits q
    | _ => ([], r)
  if whole = [] ∧ places = [] then none
  -- The point goes: every digit after it lowers the exponent by one.
  else (readExponent r).map fun e => ⟨natOfDigits (whole ++ places), e - places.length⟩

/-- Read a number; nothing may stand around it. -/
def read (s : List Char) : Option Float :=
  let (negative, r) := spanSign s
  let word := String.ofList (r.map Char.toLower)
  if word = "nan" then some Binary64.nan
  else if word = "inf" ∨ word = "infinity" then some (Binary64.infinity negative)
  else (readDecimal r).map (·.toFloat negative)

/-- Read digits as a number between zero and `bound`; a plus sign may stand in front. -/
def readNat (bound : Nat) (s : List Char) : Option Nat :=
  let ds := match s with
    | '+' :: r => r
    | _ => s
  if ds ≠ [] ∧ ds.all Char.isDigit ∧ natOfDigits ds ≤ bound then some (natOfDigits ds) else none

/-- Read digits with an optional sign as a whole number from `lo` to `hi`. -/
def readInt (lo hi : Int) (s : List Char) : Option Int :=
  let (negative, ds) := spanSign s
  let n : Int := if negative then -(natOfDigits ds : Int) else natOfDigits ds
  if ds ≠ [] ∧ ds.all Char.isDigit ∧ lo ≤ n ∧ n ≤ hi then some n else none

end Number

end VocalScore
