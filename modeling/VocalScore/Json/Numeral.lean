import VocalScore.Number.Layout

/-!
# Numbers of a JSON text

A numeral is an optional minus sign, digits without a needless zero in front, and then
optionally a point with digits and an exponent. A numeral without point and exponent that fits
into 64 bits is a whole number; any other is a binary64 number.

A binary64 number is computed from the leading digits that fit into 64 bits, as a whole number,
by one multiplication with or division by a power of ten; only far below one are there more.
The result can miss the nearest number by a unit in its last place. Digits before the point
that do not fit raise the exponent, those after it are dropped. What is too large is no number.
-/

namespace VocalScore.Json

/-- The parts of a numeral. -/
structure Numeral where
  negative : Bool
  /-- The digits before the point. -/
  whole : List Char
  /-- The digits after the point; none if there is no point. -/
  places : List Char
  /-- The letter and the sign of the exponent; none if there is no exponent. -/
  mark : List Char
  /-- The digits of the exponent. -/
  exponent : List Char
  deriving DecidableEq, Repr

/-- What a numeral stands for. -/
inductive Quantity where
  /-- A whole number from `-2 ^ 63` to `2 ^ 64 - 1`. -/
  | whole (n : Int)
  /-- Any other number. -/
  | real (x : Float)
  deriving DecidableEq, Repr

namespace Numeral

/-- The spelling of a numeral. -/
def spelling (n : Numeral) : List Char :=
  (if n.negative then ['-'] else []) ++ n.whole
    ++ (if n.places = [] then [] else '.' :: n.places) ++ n.mark ++ n.exponent

/-- Split off digits of which there has to be one. -/
def spanDigits1 (s : List Char) : Option (List Char × List Char) :=
  let (ds, r) := Number.spanDigits s
  if ds = [] then none else some (ds, r)

/-- Split off the minus sign. -/
def spanMinus : List Char → Bool × List Char
  | [] => (false, [])
  | c :: r => if c = '-' then (true, r) else (false, c :: r)

/-- Split off the digits before the point; a zero stands alone. -/
def spanWhole : List Char → Option (List Char × List Char)
  | [] => none
  | c :: r => if c = '0' then some ([c], r) else spanDigits1 (c :: r)

/-- Split off the point and the digits after it, if there is a point. -/
def spanPlaces : List Char → Option (List Char × List Char)
  | [] => some ([], [])
  | c :: r => if c = '.' then spanDigits1 r else some ([], c :: r)

/-- Split off the letter and the sign of an exponent. -/
def spanMark : List Char → List Char × List Char
  | [] => ([], [])
  | c :: r =>
    if c = 'e' ∨ c = 'E' then
      match r with
      | [] => ([c], [])
      | d :: q => if d = '+' ∨ d = '-' then ([c, d], q) else ([c], d :: q)
    else ([], c :: r)

/-- Split off a numeral. -/
def span (s : List Char) : Option (Numeral × List Char) := do
  let (negative, r) := spanMinus s
  let (whole, r) ← spanWhole r
  let (places, r) ← spanPlaces r
  let (mark, r) := spanMark r
  let (exponent, r) ← if mark = [] then some ([], r) else spanDigits1 r
  some (⟨negative, whole, places, mark, exponent⟩, r)

/-- The greatest number of 64 bits. -/
def maxUInt64 : Nat := UInt64.size - 1

/-- Read digits onto a number as long as the result fits into 64 bits. -/
def accumulate : Nat → List Char → Nat × List Char
  | n, [] => (n, [])
  | n, d :: r =>
    let m := 10 * n + (d.toNat - 48)
    if m ≤ maxUInt64 then accumulate m r else (n, d :: r)

/-- A power of ten up to `10 ^ 308`. -/
def power (e : Nat) : Float := Decimal.toFloat false ⟨1, e⟩

/-- The product of a number and a power of ten. -/
def scale (x : Float) (e : Int) : Option Float :=
  if 0 ≤ e then
    if e ≤ 308 then
      let y := x * power e.toNat
      if y.isInf then none else some y
    else if x == 0.0 then some x else none
  else if _h : -308 ≤ e then some (x / power (-e).toNat)
  -- A power beyond `10 ^ 308` is not finite, so the division is split.
  else if x == 0.0 then some x
  else scale (x / power 308) (e + 308)
termination_by (-e).toNat

/-- A whole number as a binary64 number. -/
def ofWhole (n : Int) : Float := Decimal.toFloat (decide (n < 0)) ⟨n.natAbs, 0⟩

/-- The exponent that is written. -/
def writtenExponent (n : Numeral) : Int :=
  if '-' ∈ n.mark then -(Number.natOfDigits n.exponent : Int) else Number.natOfDigits n.exponent

/-- What a numeral stands for, unless it is too large. -/
def value? (n : Numeral) : Option Quantity :=
  let (w, extra) := accumulate 0 n.whole
  let sign (x : Float) : Float := if n.negative then -x else x
  if n.places = [] ∧ n.mark = [] ∧ extra = [] then
    if !n.negative then some (.whole w)
    -- Minus zero and what is below the range of whole numbers are binary64 numbers.
    else if 0 < w ∧ w ≤ Int64.minValue.toInt.natAbs then some (.whole (-w))
    else some (.real (-ofWhole w))
  else
    -- Digits after the point are taken as long as they fit, even if one before it did not.
    let (m, dropped) := accumulate w n.places
    let e : Int := extra.length - (n.places.length - dropped.length : Nat) + n.writtenExponent
    (scale (ofWhole m) e).map fun x => .real (sign x)

end Numeral

end VocalScore.Json
