/-
# Tables keyed by text

A table pairs each of its keys with one entry. The pairs are kept in ascending
order of the keys, so two tables with the same entries are the same table, and
to go through a table is to go through its keys in order.
-/

namespace MailMerge

universe u v

/-- **A table keyed by text.** Tables are built by `insert` from `empty`, which
keeps the keys in strictly ascending order. -/
structure Dict (α : Type u) where
  pairs : List (String × α)

namespace Dict

variable {α : Type u} {β : Type v}

/-- The table without entries. -/
def empty : Dict α := ⟨[]⟩

instance : EmptyCollection (Dict α) := ⟨empty⟩

instance : Inhabited (Dict α) := ⟨empty⟩

/-- The entry of `key` among `pairs`. -/
def findIn (key : String) : List (String × α) → Option α
  | [] => none
  | (k, a) :: rest => if k = key then some a else findIn key rest

/-- **Look-up:** the entry of a key. -/
def find? (table : Dict α) (key : String) : Option α := findIn key table.pairs

/-- The key has an entry. -/
def has (table : Dict α) (key : String) : Bool := (table.find? key).isSome

/-- Puts an entry in its place among `pairs`. -/
def insertIn (key : String) (a : α) : List (String × α) → List (String × α)
  | [] => [(key, a)]
  | (k, b) :: rest =>
    if k = key then (key, a) :: rest
    else if key < k then (key, a) :: (k, b) :: rest
    else (k, b) :: insertIn key a rest

/-- **Insertion:** the table in which `key` has the entry `a`. -/
def insert (table : Dict α) (key : String) (a : α) : Dict α := ⟨insertIn key a table.pairs⟩

/-- The table of a list of pairs; of two pairs with one key the later counts. -/
def ofList (pairs : List (String × α)) : Dict α :=
  pairs.foldl (fun table pair => table.insert pair.1 pair.2) empty

/-- **Overlaying:** the entries of `top`, and those of `base` it has no key for. -/
def overlay (base top : Dict α) : Dict α :=
  top.pairs.foldl (fun table pair => table.insert pair.1 pair.2) base

/-- The keys, in ascending order. -/
def keys (table : Dict α) : List String := table.pairs.map (·.1)

/-- The entries, in the order of their keys. -/
def entries (table : Dict α) : List α := table.pairs.map (·.2)

/-- The number of entries. -/
def size (table : Dict α) : Nat := table.pairs.length

/-- The table has no entry. -/
def isEmpty (table : Dict α) : Bool := table.pairs.isEmpty

/-- Changes every entry and no key. -/
def mapEntries (f : α → β) (table : Dict α) : Dict β :=
  ⟨table.pairs.map fun pair => (pair.1, f pair.2)⟩

/-- Changes the entry of one key, if there is one. -/
def modify (table : Dict α) (key : String) (f : α → α) : Dict α :=
  ⟨table.pairs.map fun pair => if pair.1 = key then (pair.1, f pair.2) else pair⟩

/-- **Ascending keys,** what every table built by insertion has. -/
def Sorted (table : Dict α) : Prop := table.pairs.Pairwise fun p q => p.1 < q.1

theorem sorted_empty : (∅ : Dict α).Sorted := List.Pairwise.nil

theorem mem_insertIn {key : String} {a : α} {pairs : List (String × α)} {pair : String × α}
    (h : pair ∈ insertIn key a pairs) : pair = (key, a) ∨ pair ∈ pairs := by
  induction pairs with
  | nil => simpa [insertIn] using h
  | cons first rest ih =>
    obtain ⟨k, b⟩ := first
    simp only [insertIn] at h
    split at h
    · rcases List.mem_cons.1 h with h | h
      · exact .inl h
      · exact .inr (List.mem_cons_of_mem _ h)
    · split at h
      · exact List.mem_cons.1 h
      · rcases List.mem_cons.1 h with h | h
        · exact .inr (h ▸ List.mem_cons_self)
        · exact (ih h).imp_right (List.mem_cons_of_mem _)

/-- **Insertion keeps the keys in ascending order.** -/
theorem sorted_insert {table : Dict α} (sorted : table.Sorted) (key : String) (a : α) :
    (table.insert key a).Sorted := by
  obtain ⟨pairs⟩ := table
  simp only [Sorted, insert] at *
  induction pairs with
  | nil => simp [insertIn]
  | cons first rest ih =>
    obtain ⟨k, b⟩ := first
    obtain ⟨below, sorted⟩ := List.pairwise_cons.1 sorted
    simp only [insertIn]
    split
    · subst_vars
      exact List.pairwise_cons.2 ⟨below, sorted⟩
    · rename_i different
      split
      · rename_i less
        refine List.pairwise_cons.2 ⟨fun pair h => ?_, List.pairwise_cons.2 ⟨below, sorted⟩⟩
        rcases List.mem_cons.1 h with rfl | h
        · exact less
        · exact String.lt_trans less (below pair h)
      · rename_i notLess
        refine List.pairwise_cons.2 ⟨fun pair h => ?_, ih sorted⟩
        rcases mem_insertIn h with rfl | h
        · exact String.not_le.1 fun le => different (String.le_antisymm (String.not_lt.1 notLess) le)
        · exact below pair h

/-- Laying entries over a table keeps the keys in ascending order. -/
theorem sorted_overlay {base : Dict α} (sorted : base.Sorted) (top : Dict α) :
    (base.overlay top).Sorted := by
  obtain ⟨pairs⟩ := top
  simp only [overlay]
  induction pairs generalizing base with
  | nil => exact sorted
  | cons pair rest ih => exact ih (sorted_insert sorted pair.1 pair.2)

/-- A table of a list of pairs has its keys in ascending order. -/
theorem sorted_ofList (pairs : List (String × α)) : (ofList pairs).Sorted :=
  sorted_overlay sorted_empty ⟨pairs⟩

@[simp] theorem find?_empty (key : String) : (∅ : Dict α).find? key = none := rfl

theorem findIn_insertIn (key other : String) (a : α) (pairs : List (String × α)) :
    findIn other (insertIn key a pairs) = if key = other then some a else findIn other pairs := by
  induction pairs with
  | nil => simp [insertIn, findIn]
  | cons pair rest ih =>
    obtain ⟨k, b⟩ := pair
    simp only [insertIn]
    split
    · subst_vars
      simp only [findIn]
      split <;> simp_all
    · split
      · simp [findIn]
      · simp only [findIn, ih]
        by_cases hk : k = other <;> by_cases hkey : key = other <;> simp_all

/-- **What insertion does to look-up.** -/
@[simp] theorem find?_insert (table : Dict α) (key other : String) (a : α) :
    (table.insert key a).find? other = if key = other then some a else table.find? other :=
  findIn_insertIn key other a table.pairs

end Dict
end MailMerge
