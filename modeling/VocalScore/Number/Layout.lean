import VocalScore.Text.Quoted
import VocalScore.Number.Shortest

/-!
# Numbers as text

`NumberStyle` collects the decisions of a format that writes the shortest digits: where a
number is written in full and where with an exponent, whether a whole number keeps a point,
and the words for what is not finite. `fixed` and `scientific` write a given number of places
instead, rounded from the exact value with ties to the even digit.
-/

namespace VocalScore

/-- How a format writes the shortest digits of a number. -/
structure NumberStyle where
  /-- Which of two equally near decimals is written. -/
  tie : Tie
  /-- The leading digit's place, as a power of ten, from which numbers are written in full. -/
  lowest : Option Int
  /-- The leading digit's place up to which numbers are written in full. -/
  highest : Option Int
  /-- Whether a whole number written in full ends with `.0`. -/
  keepsPoint : Bool
  /-- The text of what is not a number. -/
  nan : String
  /-- The text of positive infinity. -/
  infinity : String
  /-- The text of negative infinity. -/
  negativeInfinity : String

namespace NumberStyle

/-- Full digits at every size, a point only where digits follow it. -/
def plain : NumberStyle :=
  { tie := .up, lowest := none, highest := none, keepsPoint := false,
    nan := "NaN", infinity := "inf", negativeInfinity := "-inf" }

/-- Numbers of a JSON text: full digits from `0.00001` up to sixteen places before the point,
and `null` for what is not finite. -/
def json : NumberStyle :=
  { tie := .toEven, lowest := some (-5), highest := some 15, keepsPoint := true,
    nan := "null", infinity := "null", negativeInfinity := "null" }

/-- The digits of a decimal in full. -/
def inFull (keepsPoint : Bool) (d : Decimal) : List Char :=
  let ds := Text.digits 10 d.significand
  if 0 ≤ d.exponent then
    ds ++ List.replicate d.exponent.toNat '0' ++ if keepsPoint then ['.', '0'] else []
  else
    let places := (-d.exponent).toNat
    -- At least one digit stands before the point.
    let ds := List.replicate (places + 1 - ds.length) '0' ++ ds
    ds.take (ds.length - places) ++ '.' :: ds.drop (ds.length - places)

/-- A row of digits with a point after the first, if more follow, and an exponent. -/
def withExponent (ds : List Char) (signed : Bool) (e : Int) : List Char :=
  ds.take 1 ++ (if ds.length ≤ 1 then [] else '.' :: ds.drop 1) ++ 'e' ::
    (if signed ∧ 0 ≤ e then '+' :: Text.decimal e else Text.decimal e)

/-- The text of a decimal above zero. -/
def magnitude (style : NumberStyle) (d : Decimal) : List Char :=
  let ds := Text.digits 10 d.significand
  let place : Int := d.exponent + ds.length - 1
  let full := style.lowest.all (· ≤ place) && style.highest.all (place ≤ ·)
  if full then inFull style.keepsPoint d else withExponent ds true place

/-- The text of a number. -/
def render (style : NumberStyle) (x : Float) : List Char :=
  match Binary64.parts x with
  | .nan => style.nan.toList
  | .infinite negative => if negative then style.negativeInfinity.toList else style.infinity.toList
  | .finite negative m e =>
    let text := if m = 0 then inFull style.keepsPoint ⟨0, 0⟩
      else style.magnitude (Decimal.shortest style.tie m e)
    if negative then '-' :: text else text

end NumberStyle

namespace Number

/-- The plain text of a number: its shortest digits in full. -/
def plain (x : Float) : List Char := NumberStyle.plain.render x

/-- The plain text of a number, as a string. -/
def plainString (x : Float) : String := String.ofList (plain x)

/-- Put the sign or the word of a number around the text of its size. -/
def withSign (x : Float) (magnitude : Nat → Int → List Char) : List Char :=
  match Binary64.parts x with
  | .nan => NumberStyle.plain.nan.toList
  | .infinite negative =>
    (if negative then NumberStyle.plain.negativeInfinity else NumberStyle.plain.infinity).toList
  | .finite negative m e => if negative then '-' :: magnitude m e else magnitude m e

/-- A number with a fixed count of places after the point. -/
def fixed (places : Nat) (x : Float) : List Char :=
  withSign x fun m e =>
    let (num, den) := Binary64.scaled m 1 (-e)
    let n := roundDiv .toEven (num * Nat.pow 10 places) den
    if places = 0 then Text.digits 10 n
    else NumberStyle.inFull false ⟨n, -(places : Int)⟩

/-- A number as one digit, a point, `places` digits and an exponent. -/
def scientific (places : Nat) (x : Float) : List Char :=
  withSign x fun m e =>
    if m = 0 then NumberStyle.withExponent (List.replicate (places + 1) '0') false 0
    else
      let (num, den) := Binary64.scaled m 1 (-e)
      let k := Decimal.floorLog10 num den
      let (n, d) := Decimal.scaled num den (k - places)
      let q := roundDiv .toEven n d
      -- Rounding up from nines gives one digit more.
      let (q, k) := if q = Nat.pow 10 (places + 1) then (Nat.pow 10 places, k + 1) else (q, k)
      NumberStyle.withExponent (Text.digits 10 q) false k

/-- Fill a text with spaces at the front up to a width. -/
def padLeft (width : Nat) (s : List Char) : List Char :=
  List.replicate (width - s.length) ' ' ++ s

end Number

end VocalScore
