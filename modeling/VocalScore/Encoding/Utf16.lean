import VocalScore.Encoding.Utf8

/-!
# UTF-16

Bytes are read in pairs, in either byte order, and surrogate pairs are put together. A
surrogate without its partner is malformed and becomes one U+FFFD; so does an odd byte at the
end, together with a surrogate before it.
-/

namespace VocalScore.Utf16

/-- The order of the two bytes of a unit. -/
inductive Order where
  /-- The low byte comes first. -/
  | little
  /-- The high byte comes first. -/
  | big
  deriving DecidableEq, Repr

/-- The unit that two bytes form. -/
def unit : Order → UInt8 → UInt8 → Nat
  | .little, a, b => a.toNat + b.toNat * 256
  | .big, a, b => a.toNat * 256 + b.toNat

/-- A first half of a surrogate pair. -/
def isHigh (u : Nat) : Bool := 0xD800 ≤ u && u < 0xDC00

/-- A second half of a surrogate pair. -/
def isLow (u : Nat) : Bool := 0xDC00 ≤ u && u < 0xE000

/-- Read a unit that does not follow a first half: text, and a first half to remember. -/
def start (u : Nat) : List Char × Option Nat :=
  if isHigh u then ([], some u)
  else if isLow u then ([Utf8.replacement], none)
  else ([Char.ofNat u], none)

/-- Read a unit after the first half under way, if there is one. -/
def step : Option Nat → Nat → List Char × Option Nat
  | none, u => start u
  | some h, u =>
    if isLow u then ([Char.ofNat (0x10000 + (h - 0xD800) * 1024 + (u - 0xDC00))], none)
    else
      -- The first half has no partner, and the unit after it is read on its own.
      let (cs, next) := start u
      (Utf8.replacement :: cs, next)

/-- Read bytes after the first half under way, if there is one. -/
def decodeFrom (order : Order) : Option Nat → List UInt8 → List Char
  | none, [] => []
  | some _, [] => [Utf8.replacement]
  | _, [_] => [Utf8.replacement]
  | h, a :: b :: r =>
    let (cs, next) := step h (unit order a b)
    cs ++ decodeFrom order next r

/-- The text of bytes, with U+FFFD in place of what is malformed. -/
def decode (order : Order) (bytes : List UInt8) : List Char := decodeFrom order none bytes

end VocalScore.Utf16
