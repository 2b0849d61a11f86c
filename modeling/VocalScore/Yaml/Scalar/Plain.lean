import VocalScore.Yaml.Fold

/-!
# Scalars without quotes

A scalar without quotes ends before a colon with white space after it, before a comment, before
a mark between documents and before a line that is not indented enough; within flow collections
also before a bracket or a comma.
-/

namespace VocalScore.Yaml

/-- Whether a scalar without quotes can begin here. -/
def startsPlain (flow : Bool) : List Glyph → Bool
  | [] => false
  | g :: r =>
    !(isBlank g.char || isBreak g.char || isIndicator g.char)
      || (g.char = '-' && !(r.head?.any (isBlank ·.char)))
      || (!flow && (g.char = '?' || g.char = ':') && !breaksOff r)

/-- Characters that may not follow a colon within a scalar in a flow collection. -/
def isAmbiguous (c : Char) : Bool := c = '?' || isFlowMark c

/-- Split off the pieces of a scalar without quotes, and tell whether it ends after a line break.
`least` is the least column of its further lines; `inGap` and `broken` say whether white space
and a line break come before the text at hand. -/
def spanPlain (flow : Bool) (least : Nat) (inGap broken : Bool) :
    List Glyph → Option (List Piece × Bool × List Glyph)
  | [] => some ([], broken, [])
  | g :: r =>
    if isBlank g.char then
      if broken && g.char = '\t' && g.column < least then none
      else (spanPlain flow least true broken r).map fun (ps, q) => (.blank g.char :: ps, q)
    else if isBreak g.char then
      (spanPlain flow least true true r).map fun (ps, q) => (.lineEnd g.char :: ps, q)
    else if inGap && (isMark (g :: r) || g.char = '#' || (!flow && g.column < least)) then
      some ([], broken, g :: r)
    else if flow && g.char = ':' && r.head?.any (isAmbiguous ·.char) then none
    else if (g.char = ':' && breaksOff r) || (flow && isFlowMark g.char) then
      some ([], broken, g :: r)
    else (spanPlain flow least false false r).map fun (ps, q) => (.char g.char :: ps, q)

/-- The text of a scalar without quotes, whether it ends after a line break, and the rest. -/
def readPlain (flow : Bool) (least : Nat) (s : List Glyph) :
    Option (List Char × Bool × List Glyph) :=
  (spanPlain flow least false false s).map fun (ps, broken, r) => (foldTrimmed ps, broken, r)

/-- What is split off and what is left make up the text. -/
theorem length_of_spanPlain {flow : Bool} {least : Nat} {inGap broken b : Bool}
    {s r : List Glyph} {ps : List Piece}
    (h : spanPlain flow least inGap broken s = some (ps, b, r)) :
    ps.length + r.length = s.length := by
  induction s generalizing inGap broken ps with
  | nil => simp only [spanPlain, Option.some.injEq, Prod.mk.injEq] at h; simp [← h.1, ← h.2.2]
  | cons g t ih =>
    have step : ∀ {p : Piece} {i k : Bool},
        (spanPlain flow least i k t).map (fun (ps, q) => (p :: ps, q)) = some (ps, b, r) →
        ps.length + r.length = (g :: t).length := by
      intro p i k hk
      obtain ⟨⟨qs, b', q⟩, hq, he⟩ := Option.map_eq_some_iff.1 hk
      simp only [Prod.mk.injEq] at he
      obtain ⟨rfl, rfl, rfl⟩ := he
      have := ih hq
      simp only [List.length_cons]
      omega
    have stop : ∀ {k : Bool}, some (([], k, g :: t) : List Piece × Bool × List Glyph)
        = some (ps, b, r) → ps.length + r.length = (g :: t).length := by
      intro k hk
      simp only [Option.some.injEq, Prod.mk.injEq] at hk
      simp [← hk.1, ← hk.2.2]
    simp only [spanPlain] at h
    split at h
    · split at h
      · cases h
      · exact step h
    · split at h
      · exact step h
      · split at h
        · exact stop h
        · split at h
          · cases h
          · split at h
            · exact stop h
            · exact step h

end VocalScore.Yaml
