import Mathlib.Data.List.Forall2
import Mathlib.Order.Bounds.Defs

/-!
# Reading a list item by item

Every reader of this library goes through a list, of lines or of sections, and stops at the
first item that it cannot read. `mapM` in `Except` is that traversal without the state that the
reader carries along.

## Key results

- `mapM_eq_ok_iff`: a traversal succeeds if every item does
- `mapM_eq_error_iff`: it fails with the error of the first item that does not
- `foldlM_eq_mapM`: a fold that skips some items and puts the others into a state is a
  traversal, then a fold that cannot fail
- `numbered_eq_mapM`: so is a reader that also counts its items
- `mapM_eq_ite`: a traversal in `Option` succeeds if every item passes the test for having a value
- `isLeast_place_iff`: the first item that fails a test is the one at the least place
-/

namespace VocalScore.Traversal

variable {ε α β σ : Type}

/-- A sequence of two steps succeeds exactly if both do. -/
theorem bind_eq_ok_iff {x : Except ε α} {f : α → Except ε β} {b : β} :
    x.bind f = .ok b ↔ ∃ a, x = .ok a ∧ f a = .ok b := by
  cases x <;> simp [Except.bind]

/-- A sequence of two steps fails with the error of the first one that does. -/
theorem bind_eq_error_iff {x : Except ε α} {f : α → Except ε β} {e : ε} :
    x.bind f = .error e ↔ x = .error e ∨ ∃ a, x = .ok a ∧ f a = .error e := by
  cases x <;> simp [Except.bind]

/-- A step whose result is mapped succeeds exactly if the step does. -/
theorem map_eq_ok_iff {x : Except ε α} {f : α → β} {b : β} :
    x.map f = .ok b ↔ ∃ a, x = .ok a ∧ f a = b := by
  cases x <;> simp [Except.map]

theorem exists_map_eq_ok_iff {x : Except ε α} {f : α → β} :
    (∃ b, x.map f = .ok b) ↔ ∃ a, x = .ok a := by
  cases x <;> simp [Except.map]

theorem map_eq_error_iff {x : Except ε α} {f : α → β} {e : ε} :
    x.map f = .error e ↔ x = .error e := by
  cases x <;> simp [Except.map]

/-- To map the error does not change the result. -/
theorem mapError_eq_ok_iff {ε' : Type} {x : Except ε α} {f : ε → ε'} {a : α} :
    x.mapError f = .ok a ↔ x = .ok a := by
  cases x <;> simp [Except.mapError]

/-- A step whose error is mapped fails exactly if the step does. -/
theorem mapError_eq_error_iff {ε' : Type} {x : Except ε α} {f : ε → ε'} {e : ε'} :
    x.mapError f = .error e ↔ ∃ c, x = .error c ∧ f c = e := by
  cases x <;> simp [Except.mapError]

/-! ### What a reader can fail with -/

/-- A result is not an error other than those that `P` allows. -/
def FailsWith (P : ε → Prop) (x : Except ε α) : Prop := ∀ e, x = .error e → P e

namespace FailsWith

variable {P : ε → Prop}

theorem ok (a : α) : FailsWith P (.ok a) := by
  intro e h
  cases h

theorem error {e : ε} (he : P e) : FailsWith P (.error e : Except ε α) := by
  intro e' h
  cases h
  exact he

/-- A sequence of two steps fails as they do. -/
theorem bind {x : Except ε α} {f : α → Except ε β} (hx : FailsWith P x)
    (hf : ∀ a, FailsWith P (f a)) : FailsWith P (x.bind f) := by
  intro e h
  rcases bind_eq_error_iff.1 h with h | ⟨a, -, h⟩
  · exact hx e h
  · exact hf a e h

theorem map {x : Except ε α} (f : α → β) (hx : FailsWith P x) : FailsWith P (x.map f) :=
  fun e h => hx e (map_eq_error_iff.1 h)

/-- A result with one possible error has it exactly if it has no value. -/
theorem eq_error_iff {x : Except ε α} {Q : α → Prop} {c e : ε} (hc : FailsWith (· = c) x)
    (hok : ∀ a, x = .ok a ↔ Q a) : x = .error e ↔ (∀ a, ¬Q a) ∧ e = c := by
  constructor
  · rintro rfl
    refine ⟨fun a ha => ?_, hc e rfl⟩
    cases (hok a).2 ha
  · -- What is not a result is an error, and there is only one.
    rintro ⟨hnot, rfl⟩
    cases x with
    | ok a => exact absurd ((hok a).1 rfl) (hnot a)
    | error d => rw [hc d rfl]

end FailsWith

/-! ### Traversals -/

theorem mapM_cons (f : α → Except ε β) (a : α) (l : List α) :
    (a :: l).mapM f = (f a).bind fun b => (l.mapM f).map (b :: ·) := by
  rw [List.mapM_cons]
  rfl

/-- A traversal succeeds if every item does, and gathers the results in order. -/
theorem mapM_eq_ok_iff {f : α → Except ε β} {l : List α} {r : List β} :
    l.mapM f = .ok r ↔ List.Forall₂ (fun a b => f a = .ok b) l r := by
  induction l generalizing r with
  | nil =>
    rw [List.mapM_nil, List.forall₂_nil_left_iff]
    exact ⟨fun h => (Except.ok.inj h).symm, fun h => congrArg _ h.symm⟩
  | cons a l ih =>
    -- The first item gives the first result, and the rest the others.
    rw [mapM_cons, bind_eq_ok_iff, List.forall₂_cons_left_iff]
    simp only [map_eq_ok_iff, ih]
    constructor
    · rintro ⟨b, hb, r', hr, rfl⟩
      exact ⟨b, r', hb, hr, rfl⟩
    · rintro ⟨b, r', hb, hr, rfl⟩
      exact ⟨b, hb, r', hr, rfl⟩

/-- A traversal fails with the error of the first item that fails. -/
theorem mapM_eq_error_iff {f : α → Except ε β} {l : List α} {e : ε} :
    l.mapM f = .error e ↔
      ∃ before a after, l = before ++ a :: after ∧ (∀ x ∈ before, ∃ b, f x = .ok b) ∧
        f a = .error e := by
  induction l with
  | nil =>
    rw [List.mapM_nil]
    constructor
    · intro h
      cases h
    · rintro ⟨before, a, after, h, -⟩
      exact absurd h.symm (List.append_ne_nil_of_right_ne_nil _ (List.cons_ne_nil a after))
  | cons a l ih =>
    rw [mapM_cons, bind_eq_error_iff]
    simp only [map_eq_error_iff, ih]
    constructor
    · rintro (h | ⟨b, hb, before, x, after, rfl, hbefore, hx⟩)
      · -- The first item fails.
        exact ⟨[], a, l, rfl, fun _ hx => absurd hx List.not_mem_nil, h⟩
      · refine ⟨a :: before, x, after, rfl, ?_, hx⟩
        intro y hy
        rcases List.mem_cons.1 hy with rfl | hy
        · exact ⟨b, hb⟩
        · exact hbefore y hy
    · -- Where the failing item stands tells which of the two steps fails.
      rintro ⟨before, x, after, hl, hbefore, hx⟩
      cases before with
      | nil =>
        obtain ⟨rfl, rfl⟩ := List.cons.inj hl
        exact Or.inl hx
      | cons y before =>
        obtain ⟨rfl, rfl⟩ := List.cons.inj hl
        obtain ⟨b, hb⟩ := hbefore a List.mem_cons_self
        exact Or.inr ⟨b, hb, before, x, after, rfl,
          fun z hz => hbefore z (List.mem_cons_of_mem a hz), hx⟩

/-- A traversal of the items that pass a test fails with the error of the first of these that
fails. -/
theorem mapM_filter_eq_error_iff {p : α → Bool} {f : α → Except ε β} {l : List α} {e : ε} :
    (l.filter p).mapM f = .error e ↔
      ∃ before a after, l = before ++ a :: after ∧ (∀ x ∈ before, p x = true → ∃ b, f x = .ok b) ∧
        p a = true ∧ f a = .error e := by
  simp only [mapM_eq_error_iff, List.filter_eq_append_iff, List.filter_eq_cons_iff]
  constructor
  · rintro ⟨before', a, after', ⟨l₁, l₂, rfl, rfl, l₃, l₄, rfl, hskip, hp, rfl⟩, hbefore, ha⟩
    -- Items that fail the test may stand between the last item that was read and this one.
    refine ⟨l₁ ++ l₃, a, l₄, (List.append_assoc ..).symm, ?_, hp, ha⟩
    intro x hx hpx
    rcases List.mem_append.1 hx with hx | hx
    · exact hbefore x (List.mem_filter.2 ⟨hx, hpx⟩)
    · exact absurd hpx (hskip x hx)
  · rintro ⟨before, a, after, rfl, hbefore, hp, ha⟩
    refine ⟨before.filter p, a, after.filter p,
      ⟨before, a :: after, rfl, rfl, [], after, rfl, ?_, hp, rfl⟩, ?_, ha⟩
    · exact fun x hx => absurd hx List.not_mem_nil
    · exact fun x hx => hbefore x (List.mem_filter.1 hx).1 (List.mem_filter.1 hx).2

/-- Errors may be changed after a traversal or item by item. -/
theorem mapM_mapError {ε' : Type} (f : α → Except ε β) (g : ε → ε') (l : List α) :
    l.mapM (fun a => (f a).mapError g) = (l.mapM f).mapError g := by
  induction l with
  | nil => rfl
  | cons a l ih =>
    rw [mapM_cons, mapM_cons, ih]
    cases f a with
    | error e => rfl
    | ok b => cases l.mapM f <;> rfl

/-- A traversal fails as its steps do. -/
theorem FailsWith.mapM {P : ε → Prop} {f : α → Except ε β} {l : List α}
    (hf : ∀ a ∈ l, FailsWith P (f a)) : FailsWith P (l.mapM f) := by
  intro e h
  obtain ⟨before, a, after, rfl, -, ha⟩ := mapM_eq_error_iff.1 h
  exact hf a (List.mem_append_right before List.mem_cons_self) e ha

/-! ### Values that may be missing -/

/-- If an item has a value exactly if it passes a test, a traversal has one if all items do. -/
theorem mapM_eq_ite {f : α → Option β} {p : α → Bool} {k : α → β} {l : List α}
    (h : ∀ x ∈ l, f x = if p x then some (k x) else none) :
    l.mapM f = if l.all p then some (l.map k) else none := by
  induction l with
  | nil => rfl
  | cons x l ih =>
    have hrest := ih fun y hy => h y (List.mem_cons_of_mem x hy)
    rw [List.mapM_cons, h x List.mem_cons_self, hrest]
    cases hp : p x <;> cases hall : l.all p <;> simp [hp, hall]

/-- A traversal of items that all give a value gives these values. -/
theorem mapM_eq_some {f : α → Option β} {k : α → β} {l : List α}
    (h : ∀ x ∈ l, f x = some (k x)) : l.mapM f = some (l.map k) := by
  have hall := mapM_eq_ite (p := fun _ => true) h
  rwa [List.all_eq_true.2 fun _ _ => rfl, if_pos rfl] at hall

theorem ite_bind (b : Bool) (a : α) (k : α → Option β) :
    (if b then some a else none).bind k = if b then k a else none := by cases b <;> rfl

theorem ite_ite_none (b c : Bool) (x : Option α) :
    (if b then if c then x else none else none) = if b && c then x else none := by cases b <;> rfl

/-! ### Lists related item by item -/

/-- An item on the right of related lists has one on the left. -/
theorem exists_mem_of_forall₂ {R : α → β → Prop} {l : List α} {r : List β}
    (h : List.Forall₂ R l r) {b : β} (hb : b ∈ r) : ∃ a ∈ l, R a b := by
  induction h with
  | nil => exact absurd hb List.not_mem_nil
  | cons hab _ ih =>
    rcases List.mem_cons.1 hb with rfl | hb
    · exact ⟨_, List.mem_cons_self, hab⟩
    · obtain ⟨a, ha, hR⟩ := ih hb
      exact ⟨a, List.mem_cons_of_mem _ ha, hR⟩

/-- Related lists end at one place, and their items at any other are related. -/
theorem getElem?_of_forall₂ {R : α → β → Prop} {l : List α} {r : List β} (h : List.Forall₂ R l r)
    (k : Nat) :
    l[k]? = none ∧ r[k]? = none ∨ ∃ a b, l[k]? = some a ∧ r[k]? = some b ∧ R a b := by
  induction h generalizing k with
  | nil => exact Or.inl ⟨rfl, rfl⟩
  | cons hab _ ih =>
    cases k with
    | zero => exact Or.inr ⟨_, _, rfl, rfl, hab⟩
    | succ k => exact ih k

/-- The last items of related lists are related, if there are any. -/
theorem getLast?_of_forall₂ {R : α → β → Prop} {l : List α} {r : List β} (h : List.Forall₂ R l r) :
    l = [] ∧ r = [] ∨
      ∃ before a b, l = before ++ [a] ∧ r.getLast? = some b ∧ R a b := by
  induction h with
  | nil => exact Or.inl ⟨rfl, rfl⟩
  | @cons a b l r hab _ ih =>
    right
    rcases ih with ⟨rfl, rfl⟩ | ⟨before, x, y, rfl, hy, hxy⟩
    · exact ⟨[], a, b, rfl, rfl, hab⟩
    · exact ⟨a :: before, x, y, rfl, by rw [List.getLast?_cons, hy]; rfl, hxy⟩

/-- The last item that passes a test, and those after it, none of which does. -/
theorem filter_eq_concat_iff {p : α → Bool} {l before : List α} {a : α} :
    l.filter p = before ++ [a] ↔
      ∃ init after, l = init ++ a :: after ∧ init.filter p = before ∧ p a = true ∧
        ∀ x ∈ after, ¬p x = true := by
  simp only [List.filter_eq_append_iff, List.filter_eq_cons_iff, List.filter_eq_nil_iff]
  constructor
  · rintro ⟨l₁, l₂, rfl, rfl, l₃, l₄, rfl, hskip, ha, hafter⟩
    -- Items that fail the test may stand before the last one that passes it.
    refine ⟨l₁ ++ l₃, l₄, (List.append_assoc ..).symm, ?_, ha, hafter⟩
    rw [List.filter_append, List.filter_eq_nil_iff.2 hskip, List.append_nil]
  · rintro ⟨init, after, rfl, rfl, ha, hafter⟩
    exact ⟨init, a :: after, rfl, rfl, [], after, rfl, by simp, ha, hafter⟩

/-- A list has related items exactly if each of its items has one. -/
theorem exists_forall₂_iff {R : α → β → Prop} {l : List α} :
    (∃ r, List.Forall₂ R l r) ↔ ∀ a ∈ l, ∃ b, R a b := by
  induction l with
  | nil => exact ⟨fun _ _ h => absurd h List.not_mem_nil, fun _ => ⟨[], .nil⟩⟩
  | cons a l ih =>
    rw [List.forall_mem_cons, ← ih]
    constructor
    · rintro ⟨_, _ | ⟨hab, hl⟩⟩
      exact ⟨⟨_, hab⟩, _, hl⟩
    · rintro ⟨⟨b, hab⟩, r, hl⟩
      exact ⟨b :: r, .cons hab hl⟩

/-- A traversal has a result exactly if every item has one. -/
theorem exists_mapM_eq_ok_iff {f : α → Except ε β} {l : List α} :
    (∃ r, l.mapM f = .ok r) ↔ ∀ a ∈ l, ∃ b, f a = .ok b := by
  simp only [mapM_eq_ok_iff, exists_forall₂_iff]

/-- Where one list is cut before an item, the other is cut before its partner. -/
theorem exists_append_of_forall₂ {R : α → β → Prop} {before after : List α} {a : α} {r : List β}
    (h : List.Forall₂ R (before ++ a :: after) r) :
    ∃ before' b after', r = before' ++ b :: after' ∧ R a b ∧ List.Forall₂ R after after' := by
  induction before generalizing r with
  | nil =>
    rcases h with _ | ⟨hab, h⟩
    exact ⟨[], _, _, rfl, hab, h⟩
  | cons c before ih =>
    rcases h with _ | ⟨-, h⟩
    obtain ⟨before', b, after', rfl, hab, hafter⟩ := ih h
    exact ⟨_ :: before', b, after', rfl, hab, hafter⟩

/-- Lists whose items are related by functions are related by these functions. -/
theorem map_eq_of_forall₂ {γ : Type} {f : β → γ} {g : α → γ} {l : List α} {r : List β}
    (h : List.Forall₂ (fun a b => f b = g a) l r) : r.map f = l.map g := by
  induction h with
  | nil => rfl
  | cons hab _ ih => rw [List.map_cons, List.map_cons, hab, ih]

/-- Numbering the items on the left does not matter to a relation that ignores the numbers. -/
theorem forall₂_zipIdx {R : α × Nat → β → Prop} {l : List α} {r : List β} (n : Nat)
    (h : List.Forall₂ (fun a b => ∀ k, R (a, k) b) l r) : List.Forall₂ R (l.zipIdx n) r := by
  induction h generalizing n with
  | nil => exact .nil
  | cons hab _ ih => exact .cons (hab n) (ih (n + 1))

/-- What holds of numbered items holds of them under some number. -/
theorem forall₂_of_zipIdx {R : α × Nat → β → Prop} {l : List α} {r : List β} {n : Nat}
    (h : List.Forall₂ R (l.zipIdx n) r) : List.Forall₂ (fun a b => ∃ k, R (a, k) b) l r := by
  induction l generalizing n r with
  | nil => cases h; exact .nil
  | cons a l ih =>
    rcases h with _ | ⟨hab, h⟩
    exact .cons ⟨n, hab⟩ (ih h)

/-! ### The first item that fails -/

/-- The place of an item that fails is the least one exactly if no item before it does. -/
theorem isLeast_place_iff {p : α → Prop} {l : List α} {i : Nat} {a : α} :
    IsLeast {k | ∃ x, l[k]? = some x ∧ ¬p x} i ∧ l[i]? = some a ↔
      ∃ before after, l = before ++ a :: after ∧ before.length = i ∧ (∀ x ∈ before, p x) ∧
        ¬p a := by
  constructor
  · rintro ⟨⟨⟨b, hb, hfails⟩, hleast⟩, ha⟩
    obtain rfl : b = a := Option.some.inj (hb.symm.trans ha)
    obtain ⟨hi, hget⟩ := List.getElem?_eq_some_iff.1 ha
    have hlength : (l.take i).length = i := List.length_take_of_le (Nat.le_of_lt hi)
    have hcut : l = l.take i ++ b :: l.drop (i + 1) := by
      rw [← hget, ← List.drop_eq_getElem_cons hi, List.take_append_drop]
    refine ⟨l.take i, l.drop (i + 1), hcut, hlength, fun x hx => ?_, hfails⟩
    -- An item before the cut has a smaller place, which is none of an item that fails.
    obtain ⟨k, hk⟩ := List.mem_iff_getElem?.1 hx
    have hlt : k < i := by
      have hbound := (List.getElem?_eq_some_iff.1 hk).1
      omega
    rw [List.getElem?_take_of_lt hlt] at hk
    by_contra hfail
    have hle : i ≤ k := hleast ⟨x, hk, hfail⟩
    omega
  · rintro ⟨before, after, rfl, rfl, hbefore, hfails⟩
    have ha : (before ++ a :: after)[before.length]? = some a := by simp
    refine ⟨⟨⟨a, ha, hfails⟩, ?_⟩, ha⟩
    rintro k ⟨x, hk, hx⟩
    by_contra hlt
    rw [List.getElem?_append_left (by omega)] at hk
    exact hx (hbefore x (List.mem_of_getElem? hk))

/-! ### Folds with items left out -/

/-- A step that leaves some items out and puts the result of reading any other into the state
makes a fold that reads the others first. -/
theorem foldlM_eq_mapM {skips : α → Bool} {parse : α → Except ε β} {put : σ → β → σ}
    {step : σ → α → Except ε σ}
    (hstep : ∀ s a, step s a = if skips a then .ok s else (parse a).map (put s))
    (s : σ) (l : List α) :
    l.foldlM step s = ((l.filter (!skips ·)).mapM parse).map (·.foldl put s) := by
  -- The state goes through the fold, so the induction is for every state.
  induction l generalizing s with
  | nil => rfl
  | cons a l ih =>
    rw [List.foldlM_cons, hstep]
    cases ha : skips a with
    | true =>
      rw [List.filter_cons_of_neg (by simp [ha]), ← ih s]
      rfl
    | false =>
      rw [List.filter_cons_of_pos (by simp [ha]), mapM_cons]
      cases parse a with
      | error e => rfl
      | ok b =>
        show l.foldlM step (put s b) = _
        rw [ih]
        cases (l.filter (!skips ·)).mapM parse <;> rfl

/-! ### Numbered items -/

/-- The items that are not passed over, numbered from `n` before any is left out. -/
def kept (skips : α → Bool) (n : Nat) (l : List α) : List (α × Nat) :=
  (l.zipIdx n).filter fun p => !skips p.1

/-- An item that is skipped takes a number. -/
theorem kept_cons_of_skips {skips : α → Bool} {a : α} (h : skips a = true) (n : Nat) (l : List α) :
    kept skips n (a :: l) = kept skips (n + 1) l := by
  rw [kept, List.zipIdx_cons, List.filter_cons_of_neg (by simp [h]), kept]

theorem kept_cons {skips : α → Bool} {a : α} (h : skips a = false) (n : Nat) (l : List α) :
    kept skips n (a :: l) = (a, n) :: kept skips (n + 1) l := by
  rw [kept, List.zipIdx_cons, List.filter_cons_of_pos (by simp [h]), kept]

/-- Later numbers keep the same items. -/
theorem kept_add (skips : α → Bool) (n k : Nat) (l : List α) :
    kept skips (n + k) l = (kept skips n l).map fun p => (p.1, p.2 + k) := by
  induction l generalizing n with
  | nil => rfl
  | cons a l ih =>
    cases h : skips a with
    | true => rw [kept_cons_of_skips h, kept_cons_of_skips h, ← ih, Nat.add_right_comm]
    | false => rw [kept_cons h, kept_cons h, List.map_cons, ← ih, Nat.add_right_comm]

/-- If numbers only matter for errors, later numbers only change the error. -/
theorem mapM_kept_add {skips : α → Bool} {parse : Nat → α → Except ε β} {shift : ε → ε} {k : Nat}
    (h : ∀ n a, parse (n + k) a = (parse n a).mapError shift) (n : Nat) (l : List α) :
    ((kept skips (n + k) l).mapM fun p => parse p.2 p.1) =
      ((kept skips n l).mapM fun p => parse p.2 p.1).mapError shift := by
  rw [kept_add, List.mapM_map, ← mapM_mapError]
  simp only [Function.comp_def, h]

/-- All items are kept exactly if none is passed over. -/
theorem kept_eq_zipIdx_iff {skips : α → Bool} {n : Nat} {l : List α} :
    kept skips n l = l.zipIdx n ↔ ∀ a ∈ l, skips a = false := by
  rw [kept, List.filter_eq_self]
  constructor
  · intro h a ha
    obtain ⟨i, hi⟩ := List.mem_iff_getElem?.1 ha
    have hkept := h (a, n + i) (List.mk_add_mem_zipIdx_iff_getElem?.2 hi)
    rwa [Bool.not_eq_true'] at hkept
  · intro h p hp
    rw [h p.1 (List.fst_mem_of_mem_zipIdx hp)]
    rfl

/-- Items that are all kept are read one by one, if their numbers do not matter. -/
theorem mapM_kept_of_forall₂ {skips : α → Bool} {parse : Nat → α → Except ε β} {l : List α}
    {r : List β} (n : Nat) (hskips : ∀ a ∈ l, skips a = false)
    (h : List.Forall₂ (fun a b => ∀ k, parse k a = .ok b) l r) :
    ((kept skips n l).mapM fun p => parse p.2 p.1) = .ok r := by
  rw [kept_eq_zipIdx_iff.2 hskips, mapM_eq_ok_iff]
  exact forall₂_zipIdx n h

/-- A reader that counts its items, leaves some out and puts the others into a state reads the
others first. -/
theorem numbered_eq_mapM {skips : α → Bool} {parse : Nat → α → Except ε β} {put : σ → β → σ}
    {go : σ → Nat → List α → Except ε σ} (hnil : ∀ s n, go s n [] = .ok s)
    (hcons : ∀ s n a l, go s n (a :: l) =
      (if skips a then .ok s else (parse n a).map (put s)).bind fun s => go s (n + 1) l)
    (s : σ) (n : Nat) (l : List α) :
    go s n l = ((kept skips n l).mapM fun p => parse p.2 p.1).map (·.foldl put s) := by
  -- Numbering first turns the count into a part of each item, and the reader into a plain fold.
  rw [kept, ← foldlM_eq_mapM (fun _ _ => rfl)]
  induction l generalizing s n with
  | nil => exact hnil s n
  | cons a l ih =>
    rw [hcons, List.zipIdx_cons, List.foldlM_cons]
    cases skips a with
    | true => exact ih s (n + 1)
    | false =>
      cases parse n a with
      | error e => rfl
      | ok b => exact ih (put s b) (n + 1)

end VocalScore.Traversal
