/-
# The pairs of a table

A table whose keys are distinct is known by its pairs, whatever their order: a
look-up finds an entry exactly if it is paired with the key, inserting a new key
adds one pair, and laying a table over another without a key in common adds all
its pairs. A table whose keys are in ascending order is built again by inserting
its pairs one after the other.
-/

import MailMerge.Dict

namespace MailMerge
namespace Dict

universe u v

variable {α : Type u} {β : Type v}

/-- **Distinct keys.** -/
def DistinctKeys (table : Dict α) : Prop := table.keys.Nodup

theorem Sorted.distinctKeys {table : Dict α} (sorted : table.Sorted) : table.DistinctKeys := by
  unfold DistinctKeys keys
  rw [List.Nodup, List.pairwise_map]
  exact sorted.imp fun less => String.ne_of_lt less

theorem findIn_eq_none_iff {key : String} {pairs : List (String × α)} :
    findIn key pairs = none ↔ key ∉ pairs.map (·.1) := by
  induction pairs with
  | nil => simp [findIn]
  | cons pair rest ih =>
    obtain ⟨k, a⟩ := pair
    simp only [findIn, List.map_cons, List.mem_cons, not_or]
    split
    · simp_all
    · rw [ih]
      exact ⟨fun h => ⟨fun same => by simp_all, h⟩, And.right⟩

theorem mem_of_findIn {key : String} {a : α} {pairs : List (String × α)}
    (h : findIn key pairs = some a) : (key, a) ∈ pairs := by
  induction pairs with
  | nil => simp [findIn] at h
  | cons pair rest ih =>
    obtain ⟨k, b⟩ := pair
    simp only [findIn] at h
    split at h
    · rename_i same
      obtain rfl := Option.some.inj h
      exact same ▸ List.mem_cons_self
    · exact List.mem_cons_of_mem _ (ih h)

theorem findIn_of_mem {key : String} {a : α} {pairs : List (String × α)}
    (distinct : (pairs.map (·.1)).Nodup) (h : (key, a) ∈ pairs) : findIn key pairs = some a := by
  induction pairs with
  | nil => simp at h
  | cons pair rest ih =>
    obtain ⟨k, b⟩ := pair
    obtain ⟨new, distinct⟩ := List.nodup_cons.1 distinct
    simp only [findIn]
    rcases List.mem_cons.1 h with h | h
    · obtain ⟨rfl, rfl⟩ := Prod.mk.inj h
      exact if_pos rfl
    · have other : k ≠ key := by
        rintro rfl
        exact new (List.mem_map.2 ⟨_, h, rfl⟩)
      rw [if_neg other]
      exact ih distinct h

/-- What a look-up finds is paired with the key. -/
theorem mem_pairs_of_find? {table : Dict α} {key : String} {a : α}
    (h : table.find? key = some a) : (key, a) ∈ table.pairs := mem_of_findIn h

/-- **With distinct keys a look-up finds what is paired with the key.** -/
theorem find?_eq_some_iff {table : Dict α} (distinct : table.DistinctKeys) {key : String} {a : α} :
    table.find? key = some a ↔ (key, a) ∈ table.pairs :=
  ⟨mem_of_findIn, findIn_of_mem distinct⟩

theorem mem_keys_iff {table : Dict α} {key : String} : key ∈ table.keys ↔ ∃ a, (key, a) ∈ table.pairs := by
  simp [keys]

/-- **A key that was not there adds one pair.** -/
theorem perm_insert {table : Dict α} {key : String} (new : key ∉ table.keys) (a : α) :
    (table.insert key a).pairs.Perm ((key, a) :: table.pairs) := by
  obtain ⟨pairs⟩ := table
  simp only [insert, keys] at *
  induction pairs with
  | nil => exact .refl _
  | cons pair rest ih =>
    obtain ⟨k, b⟩ := pair
    simp only [List.map_cons, List.mem_cons, not_or] at new
    simp only [insertIn, if_neg (Ne.symm new.1)]
    split
    · exact .refl _
    · exact ((ih new.2).cons (k, b)).trans (.swap ..)

/-- **A table without a key in common adds its pairs.** -/
theorem perm_overlay {base top : Dict α} (distinct : top.DistinctKeys)
    (disjoint : ∀ key ∈ top.keys, key ∉ base.keys) :
    (base.overlay top).pairs.Perm (base.pairs ++ top.pairs) := by
  obtain ⟨pairs⟩ := top
  simp only [overlay, keys, DistinctKeys] at *
  induction pairs generalizing base with
  | nil => simp
  | cons pair rest ih =>
    obtain ⟨new, distinct⟩ := List.nodup_cons.1 distinct
    have inserted := perm_insert (disjoint pair.1 List.mem_cons_self) pair.2
    have others : ∀ key ∈ rest.map (·.1), key ∉ (base.insert pair.1 pair.2).pairs.map (·.1) := by
      intro key hkey hinserted
      rcases List.mem_cons.1 ((inserted.map (·.1)).mem_iff.1 hinserted) with rfl | hbase
      · exact new hkey
      · exact disjoint key (List.mem_cons_of_mem _ hkey) hbase
    refine (ih distinct others).trans ((inserted.append_right rest).trans ?_)
    exact List.perm_middle.symm

/-- **What overlaying does to look-up.** -/
theorem find?_overlay (base : Dict α) {top : Dict α} (distinct : top.DistinctKeys) (key : String) :
    (base.overlay top).find? key = (top.find? key).or (base.find? key) := by
  obtain ⟨pairs⟩ := top
  simp only [overlay, keys, DistinctKeys] at *
  induction pairs generalizing base with
  | nil => rfl
  | cons pair rest ih =>
    obtain ⟨new, distinct⟩ := List.nodup_cons.1 distinct
    rw [List.foldl_cons, ih _ distinct, find?_insert]
    simp only [find?, findIn]
    by_cases same : pair.1 = key
    · subst same
      rw [if_pos rfl, if_pos rfl, findIn_eq_none_iff.2 new]
      rfl
    · rw [if_neg same, if_neg same]

theorem find?_mapEntries (f : α → β) (table : Dict α) (key : String) :
    (table.mapEntries f).find? key = (table.find? key).map f := by
  obtain ⟨pairs⟩ := table
  simp only [find?, mapEntries]
  induction pairs with
  | nil => rfl
  | cons pair rest ih =>
    simp only [List.map_cons, findIn]
    split
    · rfl
    · exact ih

@[simp] theorem keys_mapEntries (f : α → β) (table : Dict α) :
    (table.mapEntries f).keys = table.keys := by
  simp [keys, mapEntries]

@[simp] theorem keys_modify (table : Dict α) (key : String) (f : α → α) :
    (table.modify key f).keys = table.keys := by
  simp only [keys, modify, List.map_map]
  refine List.map_congr_left fun pair _ => ?_
  simp only [Function.comp]
  split <;> rfl

theorem sorted_mapEntries_iff (f : α → β) {table : Dict α} :
    (table.mapEntries f).Sorted ↔ table.Sorted := List.pairwise_map

/-- A key above all others goes to the end. -/
theorem insertIn_above {key : String} (a : α) {pairs : List (String × α)}
    (above : ∀ pair ∈ pairs, pair.1 < key) : insertIn key a pairs = pairs ++ [(key, a)] := by
  induction pairs with
  | nil => rfl
  | cons pair rest ih =>
    obtain ⟨less, above⟩ := List.forall_mem_cons.1 above
    rw [insertIn, if_neg (String.ne_of_lt less), if_neg (String.lt_asymm less), ih above]
    rfl

/-- Pairs in ascending order, laid over those before them, follow them. -/
theorem overlay_above {front rest : List (String × α)}
    (sorted : (⟨front ++ rest⟩ : Dict α).Sorted) :
    overlay ⟨front⟩ ⟨rest⟩ = ⟨front ++ rest⟩ := by
  induction rest generalizing front with
  | nil => rw [List.append_nil]; rfl
  | cons pair rest ih =>
    have above : ∀ other ∈ front, other.1 < pair.1 := fun other mem =>
      (List.pairwise_append.1 sorted).2.2 other mem pair List.mem_cons_self
    have next : insert ⟨front⟩ pair.1 pair.2 = ⟨front ++ [pair]⟩ :=
      congrArg Dict.mk (insertIn_above pair.2 above)
    rw [List.append_cons] at sorted ⊢
    rw [← ih sorted, ← next]
    rfl

/-- **A table is built again from its pairs** if its keys are in ascending order. -/
theorem ofList_pairs {table : Dict α} (sorted : table.Sorted) : ofList table.pairs = table :=
  overlay_above (show (⟨[] ++ table.pairs⟩ : Dict α).Sorted from sorted)

end Dict
end MailMerge
