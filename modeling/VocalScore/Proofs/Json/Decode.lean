import VocalScore.Proofs.Json.RoundTrip
import VocalScore.Proofs.Traversal

/-!
# What written values are read as

Text, truth values and whole numbers come back as they were. A number comes back if it is finite
and its text is read without an error in the last place (`Exact`); what is not finite is written
as null, which is no number, and which in the place of an optional number is none.

## Key results

- `slots?_record`: each field of a record is found under its name
- `real?_real` / `nullable_real`: what comes back of a number that is required or optional
- `list?_list`: a list comes back if each of its items does
-/

namespace VocalScore

open Traversal

variable {α β : Type}

/-! ### Fields of a record -/

namespace Slot

/-- If no name comes twice, a member is found by its name. -/
theorem find?_of_mem {l : List (String × α)} (hl : (l.map Prod.fst).Nodup) {m : String × α}
    (hm : m ∈ l) : find? l m.1 = some (.given m.2) := by
  have hfilter : l.filter (·.1 == m.1) = [m] := by
    induction l with
    | nil => cases hm
    | cons p l ih =>
      rw [List.map_cons, List.nodup_cons] at hl
      rcases List.mem_cons.1 hm with rfl | hm
      · -- No later member has the name of the first one.
        have hnone : l.filter (·.1 == m.1) = [] := by
          rw [List.filter_eq_nil_iff]
          intro q hq heq
          exact hl.1 (beq_iff_eq.1 heq ▸ List.mem_map_of_mem hq)
        rw [List.filter_cons_of_pos (by simp), hnone]
      · have hne : (p.1 == m.1) = false := by
          rw [beq_eq_false_iff_ne]
          intro heq
          exact hl.1 (heq ▸ List.mem_map_of_mem hm)
        rw [List.filter_cons_of_neg (by simp [hne]), ih hl.2 hm]
  rw [find?, hfilter]

/-- Members with distinct names give a value for each of the names. -/
theorem ofMembers?_map_fst {l : List (String × α)} (hl : (l.map Prod.fst).Nodup) :
    ofMembers? (l.map Prod.fst) l = some (l.map fun m => .given m.2) := by
  rw [ofMembers?, List.mapM_map]
  exact mapM_eq_some fun m hm => find?_of_mem hl hm

end Slot

namespace Json

/-- A written text is read back. -/
theorem text?_text (s : String) : (text s).text? = some s := by
  rw [text, text?, unescape?_escape, Option.map_some, String.ofList_toList]

theorem name?_text (s : String) : (text s).name? = some s := text?_text s

/-- A natural number within its bound is read back. -/
theorem nat?_whole {bound n : Nat} (h : n ≤ bound) (hmax : n ≤ Numeral.maxUInt64) :
    (whole n).nat? bound = some n := by
  have hmin : Int64.minValue.toInt = -9223372036854775808 := rfl
  rw [nat?, whole?_whole (by omega) (by omega) (by omega) (by omega)]
  rfl

theorem nat?_uint8 (n : UInt8) : (whole n.toNat).nat? 255 = some n.toNat := by
  have hlt := n.toNat_lt
  have hmax : Numeral.maxUInt64 = 18446744073709551615 := rfl
  exact nat?_whole (by omega) (by omega)

theorem nat?_uint32 (n : UInt32) : (whole n.toNat).nat? (UInt32.size - 1) = some n.toNat := by
  have hlt := n.toNat_lt
  have hsize : UInt32.size = 4294967296 := rfl
  have hmax : Numeral.maxUInt64 = 18446744073709551615 := rfl
  exact nat?_whole (by omega) (by omega)

theorem whole?_int32 (n : Int32) :
    (whole n.toInt).whole? Int32.minValue.toInt Int32.maxValue.toInt = some n.toInt := by
  have hlo := n.minValue_le_toInt
  have hhi := n.toInt_le
  have hmin : Int32.minValue.toInt = -2147483648 := rfl
  have hmax : Int32.maxValue.toInt = 2147483647 := rfl
  have hmin64 : Int64.minValue.toInt = -9223372036854775808 := rfl
  have hmax64 : Numeral.maxUInt64 = 18446744073709551615 := rfl
  exact whole?_whole (by omega) (by omega) (by omega) (by omega)

/-- The escaped names of an object are read back. -/
theorem members?_map (ms : List (String × Json)) :
    members? (ms.map fun m => (escape m.1.toList, m.2)) = some ms := by
  have h := mapM_eq_some (l := ms) (k := id)
    (f := fun m => ((string (escape m.1.toList)).text?).map (·, m.2)) fun m _ => by
      rw [← text, text?_text]
      rfl
  rw [List.map_id] at h
  rwa [members?, List.mapM_map]

/-- The fields of a written record are found by their names, in their order. -/
theorem slots?_record {names : List String} {js : List Json} (hnames : names.Nodup)
    (hlength : names.length = js.length) :
    (record (names.zip js)).slots? names = some (js.map .given) := by
  have hfst : (names.zip js).map Prod.fst = names := List.map_fst_zip (by omega)
  have hsnd : (names.zip js).map Prod.snd = js := List.map_snd_zip (by omega)
  have h := Slot.ofMembers?_map_fst (l := names.zip js) (by rwa [hfst])
  rw [hfst, ← Function.comp_def, ← List.map_map, hsnd] at h
  rw [record, slots?, members?_map, Option.bind_some, h]

/-! ### Numbers and lists -/

/-- The finite ones of these numbers are read from their text as they are. -/
def Exact (xs : List Float) : Prop :=
  ∀ x ∈ xs, x.isFinite = true → (real x).real? = some x

instance (xs : List Float) : Decidable (Exact xs) :=
  inferInstanceAs (Decidable (∀ x ∈ xs, x.isFinite = true → (real x).real? = some x))

theorem Exact.of_subset {xs ys : List Float} (h : Exact ys) (hs : ∀ x ∈ xs, x ∈ ys) : Exact xs :=
  fun x hx => h x (hs x hx)

/-- A number comes back if it is finite. -/
theorem real?_real {xs : List Float} (h : Exact xs) {x : Float} (hx : x ∈ xs) :
    (real x).real? = if x.isFinite then some x else none := by
  split
  next hfinite => exact h x hx hfinite
  next hfinite =>
    rw [real, if_neg hfinite]
    rfl

/-- An optional number comes back if it is finite; else it is none. -/
theorem nullable_real {o : Option Float} (h : Exact o.toList) :
    (Slot.given (optional real o)).nullable real? = some (o.filter Float.isFinite) := by
  cases o with
  | none => rfl
  | some x =>
    have hx := h x (by simp)
    show optional? real? (real x) = _
    by_cases hfinite : x.isFinite = true
    · have hback := hx hfinite
      rw [real, if_pos hfinite] at hback ⊢
      rw [optional?, hback, Option.filter_some, if_pos hfinite]
      · rfl
      · intro hnull
        cases hnull
    · -- What is not finite is written as `null`, which stands for no value.
      rw [real, if_neg hfinite, Option.filter_some, if_neg hfinite]
      rfl

/-- An optional record comes back, unless there is one that does not. -/
theorem nullable_optional {f : Json → Option α} {g : α → Json} {p : α → Bool} {o : Option α}
    (hnull : ∀ x, g x ≠ null) (h : ∀ x ∈ o, f (g x) = if p x then some x else none) :
    (Slot.given (optional g o)).nullable f = if o.all p then some o else none := by
  cases o with
  | none => rfl
  | some x =>
    show optional? f (g x) = _
    rw [optional?, h x rfl, Option.all_some]
    · cases p x <;> rfl
    · exact hnull x

/-- A list comes back if each of its items does. -/
theorem list?_list {f : Json → Option β} {g : α → Json} {p : α → Bool} {k : α → β} {l : List α}
    (h : ∀ x ∈ l, f (g x) = if p x then some (k x) else none) :
    list? f (list g l) = if l.all p then some (l.map k) else none := by
  rw [list, list?, List.mapM_map]
  exact mapM_eq_ite h

/-- A list is read back if its items are. -/
theorem list?_eq_some {f : Json → Option β} {g : α → Json} {k : α → β} {l : List α}
    (h : ∀ x ∈ l, f (g x) = some (k x)) : list? f (list g l) = some (l.map k) := by
  rw [list, list?, List.mapM_map]
  exact mapM_eq_some h

/-- The numbers of a list come back if all of them are finite. -/
theorem list?_real {l : List Float} (h : Exact l) :
    list? real? (list real l) = if l.all Float.isFinite then some l else none := by
  have hlist := list?_list (k := id) fun x hx => real?_real h hx
  rwa [List.map_id] at hlist

end Json

end VocalScore
