import VocalScore.Yaml.Glyph

/-!
# Scalars over several lines

A scalar without quotes, or between quotes, is read as pieces: characters that count as they
are, white space, and line breaks. `fold` joins its lines: white space around a break is
dropped, one newline becomes a space, and of several breaks a newline at the front is dropped.
A break that is escaped joins its lines without a space.
-/

namespace VocalScore.Yaml

/-- A piece of a scalar. -/
inductive Piece where
  /-- A character that counts as it is. -/
  | char (c : Char)
  /-- White space, which counts unless a break is next to it. -/
  | blank (c : Char)
  /-- The end of a line. -/
  | lineEnd (c : Char)
  /-- The end of a line that does not count. -/
  | joint
  deriving DecidableEq, Repr

namespace Piece

/-- The piece of a character that is not escaped. -/
def ofChar (c : Char) : Piece :=
  if isBreak c then lineEnd c else if isBlank c then blank c else char c

/-- Whether a piece belongs to the gap between two pieces of text. -/
def isGap : Piece → Bool
  | char _ => false
  | _ => true

end Piece

/-- What stands between two pieces of text. -/
inductive Gap where
  /-- White space within a line. -/
  | blanks (cs : List Char)
  /-- A row of breaks; the first is missing if it does not count. -/
  | breaks (first : Option Char) (others : List Char)

/-- The text of a gap. -/
def Gap.text : Gap → List Char
  | .blanks cs => cs
  | .breaks none others => others
  | .breaks (some c) others =>
    if c = '\n' then if others = [] then [' '] else others else c :: others

/-- Join pieces after a gap. -/
def foldFrom : Gap → List Piece → List Char
  | gap, [] => gap.text
  | gap, .char c :: r => gap.text ++ c :: foldFrom (.blanks []) r
  | .blanks cs, .blank c :: r => foldFrom (.blanks (cs ++ [c])) r
  | .blanks _, .lineEnd c :: r => foldFrom (.breaks (some c) []) r
  | .blanks cs, .joint :: r => cs ++ foldFrom (.breaks none []) r
  | .breaks first cs, .blank _ :: r => foldFrom (.breaks first cs) r
  | .breaks first cs, .lineEnd c :: r => foldFrom (.breaks first (cs ++ [c])) r
  | .breaks first cs, .joint :: r => (Gap.breaks first cs).text ++ foldFrom (.breaks none []) r

/-- The text of a row of pieces. -/
def fold (ps : List Piece) : List Char := foldFrom (.blanks []) ps

/-- The text of a row of pieces without the gap at its end. -/
def foldTrimmed (ps : List Piece) : List Char :=
  fold (ps.reverse.dropWhile Piece.isGap).reverse

/-- Characters that count as they are make up the text. -/
theorem fold_map_char (s : List Char) : fold (s.map .char) = s := by
  have h : ∀ s : List Char, foldFrom (.blanks []) (s.map .char) = s := by
    intro s
    induction s with
    | nil => rfl
    | cons c r ih => simp [foldFrom, Gap.text, ih]
  exact h s

end VocalScore.Yaml
