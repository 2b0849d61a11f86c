import VocalScore.Voicebank.SampleTable

/-!
# The index of a sample table

A table that was put together by any operations is the list of its entries, searched from the
front. `SampleAssembly` is a way of putting a table together; `table` carries it out, and
`listing` is what it does to plain lists.

## Key results

- `indexes_toList`: the index of a table has the names of its entries as keys, and gives each
  its first place
- `SampleAssembly.toList_table`: a table holds the entries that the plain lists hold
- `get?_append`: a name is looked up in the first table, then in the second
- `SampleAssembly.refines_listing`: all of these for every way of putting a table together
-/

namespace VocalScore

namespace SampleTable

/-- The place `i` of a list holds the first entry with the name `a`. -/
def IsFirst (l : List SampleEntry) (a : String) (i : Nat) : Prop :=
  ∃ h : i < l.length, l[i].aliasName = a ∧ ∀ j (hj : j < i), l[j].aliasName ≠ a

/-- The index of a table has the names in a list as its keys, each with its first place. -/
structure Indexes (t : SampleTable) (l : List SampleEntry) : Prop where
  keys : ∀ a, a ∈ t.index ↔ ∃ e ∈ l, e.aliasName = a
  places : ∀ a i, t.index[a]? = some i ↔ IsFirst l a i

/-- The index has the place of the first entry with a name. -/
theorem index_eq_some_iff (t : SampleTable) (a : String) (i : Nat) :
    t.index[a]? = some i ↔ IsFirst t.toList a i := by
  -- That the index is right is a field of the table, here in terms of its list.
  rw [t.index_eq, Array.findIdx?_eq_some_iff_getElem]
  simp only [IsFirst, toList, Array.length_toList, Array.getElem_toList, beq_iff_eq, ne_eq]

/-- The index has the names of the entries. -/
theorem mem_index_iff (t : SampleTable) (a : String) :
    a ∈ t.index ↔ ∃ e ∈ t.toList, e.aliasName = a := by
  rw [Std.ExtHashMap.mem_iff_isSome_getElem?, t.index_eq, Array.findIdx?_isSome,
    Array.any_eq_true']
  simp only [toList, Array.mem_toList_iff, beq_iff_eq]

/-- The index of a table is that of its entries. -/
theorem indexes_toList (t : SampleTable) : t.Indexes t.toList :=
  ⟨t.mem_index_iff, t.index_eq_some_iff⟩

theorem lt_size_of_index {t : SampleTable} {a : String} {i : Nat} (h : t.index[a]? = some i) :
    i < t.size := by
  obtain ⟨hi, -⟩ := (t.index_eq_some_iff a i).1 h
  rwa [toList, Array.length_toList] at hi

/-- A name is not found exactly if no entry has it. -/
theorem get?_eq_none_iff (t : SampleTable) (a : String) :
    t.get? a = none ↔ ∀ e ∈ t.toList, e.aliasName ≠ a := by
  rw [get?_eq_find?, List.find?_eq_none]
  simp

/-- In tables put together a name is found in the first one that has it. -/
theorem get?_append (t u : SampleTable) (a : String) :
    (t.append u).get? a = (t.get? a).or (u.get? a) := by
  simp only [get?_eq_find?, toList_append, List.find?_append]

theorem append_assoc (t u v : SampleTable) :
    (t.append u).append v = t.append (u.append v) :=
  ext (by simp only [toList_append, List.append_assoc])

theorem empty_append (t : SampleTable) : empty.append t = t :=
  ext (by rw [toList_append, toList_empty, List.nil_append])

theorem append_empty (t : SampleTable) : t.append empty = t :=
  ext (by rw [toList_append, toList_empty, List.append_nil])

/-- A table made from the entries of a table is that table, index included. -/
theorem ofList_toList (t : SampleTable) : ofList t.toList = t :=
  ext (toList_ofList t.toList)

end SampleTable

/-- A way of putting a table together. -/
inductive SampleAssembly where
  /-- Start with nothing. -/
  | empty
  /-- Add an entry. -/
  | push (a : SampleAssembly) (e : SampleEntry)
  /-- Add the entries of another table. -/
  | append (a b : SampleAssembly)
  /-- Collect entries that were given or read as a list. -/
  | ofList (l : List SampleEntry)
  /-- Write a table down as its list of entries and read that back. -/
  | restored (a : SampleAssembly)

namespace SampleAssembly

/-- The table that is put together. -/
def table : SampleAssembly → SampleTable
  | empty => .empty
  | push a e => a.table.push e
  | append a b => a.table.append b.table
  | ofList l => .ofList l
  | restored a => .ofList a.table.toList

/-- The same with plain lists. -/
def listing : SampleAssembly → List SampleEntry
  | empty => []
  | push a e => a.listing ++ [e]
  | append a b => a.listing ++ b.listing
  | ofList l => l
  | restored a => a.listing

/-- The entries of a table are kept in their order, repeated names included. -/
theorem toList_table (a : SampleAssembly) : a.table.toList = a.listing := by
  -- By the last operation; the tables that it is applied to are put together themselves.
  induction a with
  | empty => rfl
  | push a e ih => rw [table, SampleTable.toList_push, ih, listing]
  | append a b iha ihb => rw [table, SampleTable.toList_append, iha, ihb, listing]
  | ofList l => rw [table, SampleTable.toList_ofList, listing]
  | restored a ih => rw [table, SampleTable.toList_ofList, ih, listing]

/-- The index of a table is right however the table was put together. -/
theorem indexes_listing (a : SampleAssembly) : a.table.Indexes a.listing :=
  a.toList_table ▸ a.table.indexes_toList

/-- Two tables are equal, with their indexes, exactly when the lists are. -/
theorem table_eq_iff (a b : SampleAssembly) : a.table = b.table ↔ a.listing = b.listing := by
  rw [← a.toList_table, ← b.toList_table]
  exact ⟨fun h => h ▸ rfl, SampleTable.ext⟩

/-- However a table is put together, it is its list of entries searched from the front: the
index has the names as keys, each with its first place, which is a place of the table; looking
up is searching; adding a table appends its entries, is associative, and has the table without
entries as its unit; a table comes back from its entries; and the list of entries determines the
index. -/
theorem refines_listing (a : SampleAssembly) :
    a.table.toList = a.listing ∧
    a.table.Indexes a.listing ∧
    (∀ (n : String) (i : Nat), a.table.index[n]? = some i → i < a.table.size) ∧
    (∀ n, a.table.get? n = a.listing.find? (·.aliasName == n)) ∧
    (∀ n, a.table.get? n = none ↔ ∀ e ∈ a.listing, e.aliasName ≠ n) ∧
    (∀ b : SampleAssembly, (a.table.append b.table).toList = a.listing ++ b.listing) ∧
    (∀ (b : SampleAssembly) n,
      (a.table.append b.table).get? n = (a.table.get? n).or (b.table.get? n)) ∧
    (∀ b c : SampleAssembly,
      (a.table.append b.table).append c.table = a.table.append (b.table.append c.table)) ∧
    SampleTable.empty.append a.table = a.table ∧
    a.table.append .empty = a.table ∧
    SampleTable.ofList a.table.toList = a.table ∧
    (∀ b : SampleAssembly, a.table = b.table ↔ a.listing = b.listing) := by
  -- All but the last law hold of any table, whose entries are then those of the lists.
  have hlist := a.toList_table
  refine ⟨hlist, a.indexes_listing, fun _ _ => SampleTable.lt_size_of_index, fun n => ?_,
    fun n => ?_, fun b => ?_, fun b => a.table.get?_append b.table,
    fun b c => a.table.append_assoc b.table c.table, a.table.empty_append, a.table.append_empty,
    a.table.ofList_toList, a.table_eq_iff⟩
  · rw [SampleTable.get?_eq_find?, hlist]
  · rw [SampleTable.get?_eq_none_iff, hlist]
  · rw [SampleTable.toList_append, hlist, b.toList_table]

end SampleAssembly

end VocalScore
