import VocalScore.Text.Basic
import VocalScore.Encoding.Codec

/-!
# The declared encoding of a file

A score may name its encoding on a line with `Charset=` near the top. `declared?` looks for
that line in a window of leading bytes; `detect` turns the declaration into an encoding: an
empty label means UTF-8, and without a declaration the caller's fallback holds.
-/

namespace VocalScore.Encoding

/-- The text that marks a declaration. -/
def declarationKey : List Char := "Charset=".toList

/-- How many leading bytes are searched for a declaration unless a caller says otherwise. -/
def defaultWindow : Nat := 256

/-- The encoding of scores that declare none unless a caller says otherwise. -/
def legacy : Encoding := .shiftJis

/-- The label on the first line with a declaration among the first `window` bytes: what
follows the first `=` of that line, trimmed. -/
def declared? (bytes : List UInt8) (window : Nat) : Option (List Char) :=
  ((Text.lines (Utf8.decode (bytes.take window))).find? (Text.occurs declarationKey)).bind
    fun line => (Text.splitOnce '=' line).map fun (_, label) => Text.trim label

/-- The encoding with a label, which may have white space around it. -/
def ofText? (label : List Char) : Option Encoding := ofLabel? (Text.trim label)

/-- The encoding of a file, or the label that names none. -/
def detect (bytes : List UInt8) (window : Nat) (fallback : Encoding) : Except String Encoding :=
  match declared? bytes window with
  | none => .ok fallback
  -- A declaration without a label.
  | some [] => .ok .utf8
  | some label =>
    match ofText? label with
    | some e => .ok e
    | none => .error (String.ofList label)

end VocalScore.Encoding
