import VocalScore.Proofs.Traversal
import VocalScore.Score.Section

/-!
# The sections that lines make

`Section.readLine` is the step of a machine whose state is `Section.Progress`. The lines before
the first header belong to a leading section, which is always there.

## Key results

- `Progress.Leads.readLine` / `Progress.Leads.readLines`: one line, and any number of lines, keep
  the leading section in front
- `read_eq_cons`: the first section of a text is the leading one
-/

namespace VocalScore.Section

open Traversal

/-- A line does not change the name of its section. -/
theorem name_of_addLine {raw : List String} {s s' : Section} {line trimmed : List Char}
    (h : addLine raw s line trimmed = .ok s') : s'.name = s.name := by
  rw [addLine] at h
  split at h
  · -- A line is put to the body, makes an entry, is passed over or is an error.
    split at h <;> cases h <;> rfl
  · split at h
    · cases h
      rfl
    · split at h <;> cases h
      rfl

/-- The first section read so far has the name of the leading section. -/
def Progress.Leads (p : Progress) : Prop := ∃ s rest, p.sections = s :: rest ∧ s.name = headName

/-- One line keeps the leading section in front. -/
theorem Progress.Leads.readLine {raw : List String} {p q : Progress} {k : Nat} {line : List Char}
    (hp : p.Leads) (h : readLine raw p k line = .ok q) : q.Leads := by
  obtain ⟨s, rest, hs, hname⟩ := hp
  obtain ⟨kind, -, hkind⟩ := bind_eq_ok_iff.1 (mapError_eq_ok_iff.1 h)
  cases kind with
  | header name =>
    -- The section under way is complete, and a new one comes last.
    cases hkind
    exact ⟨s, rest ++ [empty name k], congrArg (· ++ [empty name k]) hs, hname⟩
  | other trimmed =>
    obtain ⟨c, hc, hq⟩ := bind_eq_ok_iff.1 hkind
    cases hq
    -- The section under way is the leading one exactly if none is complete.
    rw [Progress.sections] at hs
    cases hdone : p.done with
    | nil =>
      rw [hdone, List.nil_append, List.cons.injEq] at hs
      refine ⟨c, [], rfl, ?_⟩
      rw [name_of_addLine hc, hs.1, hname]
    | cons t done =>
      rw [hdone, List.cons_append, List.cons.injEq] at hs
      exact ⟨t, done ++ [c], rfl, by rw [hs.1, hname]⟩

/-- All lines keep the leading section in front. -/
theorem Progress.Leads.readLines {raw : List String} {p q : Progress} {k : Nat}
    {ls : List (List Char)} (hp : p.Leads) (h : readLines raw p k ls = .ok q) : q.Leads := by
  -- The machine goes on from any state, so the induction is for every state.
  induction ls generalizing p k with
  | nil =>
    cases h
    exact hp
  | cons line ls ih =>
    obtain ⟨p1, hline, hrest⟩ := bind_eq_ok_iff.1 h
    exact ih (hp.readLine hline) hrest

/-- The first section is the one before the first header. -/
theorem read_eq_cons {raw : List String} {text : String} {l : List Section}
    (h : read raw text = .ok l) : ∃ s rest, l = s :: rest ∧ s.name = headName := by
  obtain ⟨p, hp, rfl⟩ := map_eq_ok_iff.1 h
  exact Progress.Leads.readLines ⟨empty headName 0, [], rfl, rfl⟩ hp

end VocalScore.Section
