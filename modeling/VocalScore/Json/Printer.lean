import VocalScore.Json.Basic

/-!
# Writing JSON

Each item of an array and each member of an object has a line of its own, two spaces deeper
than the brackets around it; empty brackets stay together.
-/

namespace VocalScore.Json

/-- The start of a line at a depth. -/
def newLine (depth : Nat) : List Char := '\n' :: List.replicate (2 * depth) ' '

/-- A spelled string between its quotes. -/
def inQuotes (s : List Char) : List Char := '"' :: s ++ ['"']

mutual

/-- The text of a value whose closing bracket stands at a depth. -/
def renderAt (depth : Nat) : Json → List Char
  | .null => ['n', 'u', 'l', 'l']
  | .bool true => ['t', 'r', 'u', 'e']
  | .bool false => ['f', 'a', 'l', 's', 'e']
  | .number s => s
  | .string s => inQuotes s
  | .array [] => ['[', ']']
  | .array (j :: js) =>
    '[' :: newLine (depth + 1) ++ (renderAt (depth + 1) j ++ renderItems depth js)
  | .object [] => ['\x7b', '\x7d']
  | .object ((k, j) :: ms) =>
    '\x7b' :: newLine (depth + 1)
      ++ (inQuotes k ++ (':' :: ' ' :: renderAt (depth + 1) j ++ renderMembers depth ms))

/-- The items of an array after the first, and its closing bracket. -/
def renderItems (depth : Nat) : List Json → List Char
  | [] => newLine depth ++ [']']
  | j :: js => ',' :: newLine (depth + 1) ++ (renderAt (depth + 1) j ++ renderItems depth js)

/-- The members of an object after the first, and its closing bracket. -/
def renderMembers (depth : Nat) : List (List Char × Json) → List Char
  | [] => newLine depth ++ ['\x7d']
  | (k, j) :: ms =>
    ',' :: newLine (depth + 1)
      ++ (inQuotes k ++ (':' :: ' ' :: renderAt (depth + 1) j ++ renderMembers depth ms))

end

/-- The text of a value. -/
def render (j : Json) : List Char := renderAt 0 j

/-- The text of a value, as a string. -/
def renderString (j : Json) : String := String.ofList j.render

end VocalScore.Json
