import VocalScore.Text.Basic
import VocalScore.Text.Shown

/-!
# Quoted text and plain counts

Messages quote the text they complain about: `quoted` puts it between double quotes and writes
a backslash form for whatever would not show. `decimal` is the plain form of a whole number,
and `hexNumber?` reads digits of base sixteen.
-/

namespace VocalScore.Text

/-- One digit of a number in base sixteen or less, in lower case. -/
def digitChar (d : Nat) : Char :=
  if d < 10 then Char.ofNat (48 + d) else Char.ofNat (87 + d)

/-- The value of a digit of base sixteen, in either case. -/
def hexValue? (c : Char) : Option Nat :=
  if '0' ≤ c ∧ c ≤ '9' then some (c.toNat - 48)
  else if 'a' ≤ c ∧ c ≤ 'f' then some (c.toNat - 87)
  else if 'A' ≤ c ∧ c ≤ 'F' then some (c.toNat - 55)
  else none

/-- The number of a row of digits of base sixteen. -/
def hexNumber? (ds : List Char) : Option Nat :=
  (ds.mapM hexValue?).map (·.foldl (fun n d => n * 16 + d) 0)

/-- A hexadecimal digit has its value. -/
theorem hexValue?_digitChar : ∀ d < 16, hexValue? (digitChar d) = some d := by decide

/-- The digits of a number, highest first; zero has one digit. -/
def digits (base : Nat) (n : Nat) : List Char :=
  if _h : n < base ∨ base < 2 then [digitChar n]
  else digits base (n / base) ++ [digitChar (n % base)]
termination_by n
decreasing_by exact Nat.div_lt_self (by omega) (by omega)

/-- A whole number in decimal, with a minus sign when it is negative. -/
def decimal (n : Int) : List Char :=
  if n < 0 then '-' :: digits 10 n.natAbs else digits 10 n.natAbs

/-- A whole number in decimal, as a string. -/
def decimalString (n : Int) : String := String.ofList (decimal n)

/-- One character of a quoted text. -/
def quotedChar (c : Char) : List Char :=
  if c = '"' then ['\\', '"']
  else if c = '\\' then ['\\', '\\']
  else if c = '\n' then ['\\', 'n']
  else if c = '\r' then ['\\', 'r']
  else if c = '\t' then ['\\', 't']
  else if c = '\x00' then ['\\', '0']
  else if isShown c then [c]
  else ['\\', 'u', '\x7b'] ++ digits 16 c.toNat ++ ['\x7d']

/-- A text between double quotes, with escapes for what would not show. -/
def quoted (s : String) : String :=
  String.ofList (['"'] ++ s.toList.flatMap quotedChar ++ ['"'])

end VocalScore.Text
