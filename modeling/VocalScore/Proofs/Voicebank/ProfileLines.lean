import VocalScore.Proofs.Text.Scanning
import VocalScore.Voicebank.Profile

/-!
# The lines of a profile

A line of a profile sets one field, or is free text, or is dropped. So a field is what the last line
with its key says, and what it was before if there is none; the free text is that of the lines in
order.

## Key results

- `get_readLine` / `extra_readLine`: what one line does to a profile
- `get_foldl_readLine` / `extra_foldl_readLine`: what lines do
- `ext_get`: fields and free text make the profile
- `foldl_readLine_eq_iff`: what lines leave of the difference between two profiles
-/

namespace VocalScore.Profile

/-- The fields of a profile that have a key. -/
inductive Slot where
  | name
  | author
  | website
  | image
  | sample
  deriving DecidableEq, Repr

namespace Slot

/-- The key of a field. -/
def key : Slot → String
  | name => "name"
  | author => "author"
  | website => "web"
  | image => "image"
  | sample => "sample"

/-- What becomes of a value in a field; two of the fields are paths. -/
def store : Slot → List Char → String
  | image, value => String.ofList (withSlashes value)
  | sample, value => String.ofList (withSlashes value)
  | _, value => String.ofList value

end Slot

/-- What a field holds, if anything. -/
def get (p : Profile) : Slot → Option String
  | .name => some p.name
  | .author => some p.author
  | .website => some p.website
  | .image => p.image
  | .sample => p.sample

/-- What a line sets a field to, if it has the key of the field. -/
def setting? (s : Slot) (line : List Char) : Option String :=
  match Text.splitOnce '=' line with
  | none => none
  | some (key, value) =>
    if key ≠ [] ∧ String.ofList (Text.trim key) = s.key then some (s.store (Text.trim value))
    else none

/-- Whether a line is free text: it has no separator, or begins with it. -/
def isFree (line : List Char) : Bool :=
  match Text.splitOnce '=' line with
  | none => true
  | some (key, _) => key = []

/-- The text that lines add to a profile. -/
def freeText (ls : List (List Char)) : List Char := (ls.filter isFree).flatMap (· ++ ['\n'])

/-- Fields and free text make the profile. -/
theorem ext_get {p q : Profile} (hget : ∀ s, p.get s = q.get s) (hextra : p.extra = q.extra) :
    p = q := by
  have hname := Option.some.inj (hget .name)
  have hauthor := Option.some.inj (hget .author)
  have hwebsite := Option.some.inj (hget .website)
  have himage : p.image = q.image := hget .image
  have hsample : p.sample = q.sample := hget .sample
  cases p
  cases q
  simp only [mk.injEq]
  exact ⟨hname, hauthor, hwebsite, himage, hsample, hextra⟩

/-! ### One line -/

/-- Setting a key sets its field and no other. -/
theorem get_set (p : Profile) (key : String) (value : List Char) (s : Slot) :
    (p.set key value).get s = if key = s.key then some (s.store value) else p.get s := by
  -- The keys differ, so of the tests in `set` at most the one for this field holds.
  unfold set
  split_ifs <;> cases s <;> simp_all [get, Slot.key, Slot.store]

/-- Setting a key does not change the free text. -/
theorem extra_set (p : Profile) (key : String) (value : List Char) :
    (p.set key value).extra = p.extra := by
  unfold set
  split_ifs <;> rfl

/-- A line gives its field a value and leaves the others as they are. -/
theorem get_readLine (p : Profile) (line : List Char) (s : Slot) :
    (readLine p line).get s = (setting? s line).or (p.get s) := by
  -- Free text is no field, so only a line with a key can change one.
  have htext : (p.addText line).get s = p.get s := by cases s <;> rfl
  rw [readLine, setting?]
  cases Text.splitOnce '=' line with
  | none => exact htext
  | some parts =>
    obtain ⟨key, value⟩ := parts
    by_cases hkey : key = []
    · simp only [hkey, if_true, ne_eq, not_true_eq_false, false_and, if_false, Option.none_or,
        htext]
    · simp only [hkey, if_false, ne_eq, not_false_eq_true, true_and, get_set]
      split <;> rfl

/-- A line of free text goes to the end. -/
theorem extra_readLine (p : Profile) (line : List Char) :
    (readLine p line).extra = p.extra ++ String.ofList (freeText [line]) := by
  have htext : (p.addText line).extra = p.extra ++ String.ofList (line ++ ['\n']) := rfl
  -- One line is free text as a whole, or nothing of it is.
  have hfree : freeText [line] = if isFree line then line ++ ['\n'] else [] := by
    rw [freeText, List.filter_cons]
    split <;> simp
  rw [hfree, readLine, isFree]
  cases Text.splitOnce '=' line with
  | none => simp only [if_true, htext]
  | some parts =>
    obtain ⟨key, value⟩ := parts
    by_cases hkey : key = []
    · simp only [hkey, if_true, decide_true, htext]
    · simp [hkey, extra_set]

/-! ### Lines -/

/-- A field is what the last line with its key says. -/
theorem get_foldl_readLine (p : Profile) (ls : List (List Char)) (s : Slot) :
    (ls.foldl readLine p).get s = (ls.reverse.findSome? (setting? s)).or (p.get s) := by
  induction ls generalizing p with
  | nil => rfl
  | cons line ls ih =>
    rw [List.foldl_cons, ih, get_readLine, List.reverse_cons, List.findSome?_append,
      Option.or_assoc]
    congr 1
    rw [List.findSome?_singleton]

/-- The free text of lines is put together in order. -/
theorem extra_foldl_readLine (p : Profile) (ls : List (List Char)) :
    (ls.foldl readLine p).extra = p.extra ++ String.ofList (freeText ls) := by
  induction ls generalizing p with
  | nil => simp [freeText]
  | cons line ls ih =>
    have hcons : freeText (line :: ls) = freeText [line] ++ freeText ls := by
      rw [freeText, freeText, freeText, ← List.flatMap_append, ← List.filter_append,
        List.singleton_append]
    rw [List.foldl_cons, ih, extra_readLine, hcons, String.ofList_append, String.append_assoc]

/-- Lines keep the difference between two profiles, but for the fields that they set. -/
theorem foldl_readLine_eq_iff (p q : Profile) (ls : List (List Char)) :
    ls.foldl readLine p = ls.foldl readLine q ↔
      p.extra = q.extra ∧
        ∀ s, p.get s = q.get s ∨ ∃ line ∈ ls, (setting? s line).isSome = true := by
  constructor
  · intro heq
    refine ⟨?_, fun s => ?_⟩
    · have hextra := congrArg (·.extra.toList) heq
      simp only [extra_foldl_readLine, String.toList_append] at hextra
      exact String.toList_inj.1 (List.append_cancel_right hextra)
    · have hget := congrArg (get · s) heq
      simp only [get_foldl_readLine] at hget
      -- Without a line for the field both profiles keep what they had.
      cases hlast : ls.reverse.findSome? (setting? s) with
      | none =>
        rw [hlast, Option.none_or, Option.none_or] at hget
        exact Or.inl hget
      | some value =>
        obtain ⟨line, hmem, hline⟩ := List.exists_of_findSome?_eq_some hlast
        exact Or.inr ⟨line, List.mem_reverse.1 hmem, by rw [hline]; rfl⟩
  · rintro ⟨hextra, hset⟩
    refine ext_get (fun s => ?_) ?_
    · rw [get_foldl_readLine, get_foldl_readLine]
      rcases hset s with hget | ⟨line, hmem, hline⟩
      · rw [hget]
      · have hlast : (ls.reverse.findSome? (setting? s)).isSome = true :=
          List.findSome?_isSome_iff.2 ⟨line, List.mem_reverse.2 hmem, hline⟩
        rw [Option.or_of_isSome hlast, Option.or_of_isSome hlast]
    · rw [extra_foldl_readLine, extra_foldl_readLine, hextra]

end VocalScore.Profile
