/-!
# Tables

A table is a finite map from text keys.  It is kept as a list of pairs with distinct keys; the
order of the list has no meaning, and a table is read through `get?` and `size` only.

Main statements, one equation per operation: `get?_insert`, `get?_erase`, `get?_filter`,
`size_insert`, `size_erase`.
-/

namespace Throttle

/-- A finite map from text keys to `α`. -/
structure Table (α : Type) where
  entries : List (String × α)
  nodup_keys : (entries.map Prod.fst).Nodup

namespace Table

variable {α : Type}

def empty : Table α := ⟨[], List.nodup_nil⟩

def get? (t : Table α) (key : String) : Option α := t.entries.lookup key

def size (t : Table α) : Nat := t.entries.length

/-- The entries that satisfy `keep`. -/
def filter (keep : String → α → Bool) (t : Table α) : Table α where
  entries := t.entries.filter fun e => keep e.1 e.2
  nodup_keys := t.nodup_keys.sublist (List.filter_sublist.map _)

def erase (t : Table α) (key : String) : Table α := t.filter fun k _ => k != key

/-- The table with `value` under `key`, in place of what was there. -/
def insert (t : Table α) (key : String) (value : α) : Table α where
  entries := (key, value) :: (t.erase key).entries
  nodup_keys := by
    rw [List.map_cons, List.nodup_cons]
    refine ⟨?_, (t.erase key).nodup_keys⟩
    simp [erase, filter]

/-- How many entries satisfy `p`. -/
def count (p : String → α → Bool) (t : Table α) : Nat := (t.filter p).size

theorem lookup_eq_none_of_not_mem {key : String} {entries : List (String × α)}
    (h : key ∉ entries.map Prod.fst) : entries.lookup key = none := by
  rw [List.lookup_eq_none_iff]
  intro e mem
  have differ : key ≠ e.1 := fun same => h (same ▸ List.mem_map_of_mem mem)
  simpa using differ

theorem get?_filter_entries (p : String → α → Bool) (key : String) :
    ∀ entries : List (String × α), (entries.map Prod.fst).Nodup →
      (entries.filter fun e => p e.1 e.2).lookup key = (entries.lookup key).filter (p key)
  | [], _ => rfl
  | (k, v) :: rest, nodup => by
    rw [List.map_cons, List.nodup_cons] at nodup
    have ih := get?_filter_entries p key rest nodup.2
    by_cases same : key = k
    · subst same
      cases keep : p key v with
      | true => simp [keep, Option.filter]
      | false => simp [keep, ih, lookup_eq_none_of_not_mem nodup.1, Option.filter]
    · have differ : (key == k) = false := by simpa using same
      cases keep : p k v <;> simp [keep, ih, List.lookup_cons, differ]

theorem get?_filter (p : String → α → Bool) (t : Table α) (key : String) :
    (t.filter p).get? key = (t.get? key).filter (p key) :=
  get?_filter_entries p key t.entries t.nodup_keys

theorem get?_erase (t : Table α) (key other : String) :
    (t.erase key).get? other = if other = key then none else t.get? other := by
  rw [erase, get?_filter]
  by_cases same : other = key
  · simp [same]
  · have : (other != key) = true := by simpa using same
    cases t.get? other <;> simp [this, same]

theorem get?_insert (t : Table α) (key other : String) (value : α) :
    (t.insert key value).get? other = if other = key then some value else t.get? other := by
  by_cases same : other = key
  · simp [get?, insert, same]
  · have differ : (other == key) = false := by simpa using same
    have erased := get?_erase t key other
    simp only [get?, insert, List.lookup_cons, differ, same, if_false] at *
    exact erased

theorem size_filter_le (p : String → α → Bool) (t : Table α) : (t.filter p).size ≤ t.size :=
  List.length_filter_le _ _

theorem size_erase_entries (key : String) :
    ∀ entries : List (String × α), (entries.map Prod.fst).Nodup →
      (entries.filter fun e => e.1 != key).length + (if (entries.lookup key).isSome then 1 else 0)
        = entries.length
  | [], _ => rfl
  | (k, v) :: rest, nodup => by
    rw [List.map_cons, List.nodup_cons] at nodup
    have ih := size_erase_entries key rest nodup.2
    by_cases same : key = k
    · subst same
      have gone := lookup_eq_none_of_not_mem nodup.1
      rw [gone] at ih
      simpa [List.filter_cons] using ih
    · have differ : (key == k) = false := by simpa using same
      have keep : (k != key) = true := by simpa using fun h : k = key => same h.symm
      simp only [List.lookup_cons, differ, List.filter_cons, keep, if_true, List.length_cons]
      omega

/-- Erasing removes the key once, if it is there. -/
theorem size_erase (t : Table α) (key : String) :
    (t.erase key).size + (if (t.get? key).isSome then 1 else 0) = t.size :=
  size_erase_entries key t.entries t.nodup_keys

/-- Inserting adds a key only where it is new. -/
theorem size_insert (t : Table α) (key : String) (value : α) :
    (t.insert key value).size = if (t.get? key).isSome then t.size else t.size + 1 := by
  have erased := size_erase t key
  show (t.erase key).size + 1 = _
  split at erased <;> simp_all

end Table

end Throttle
