/-
# Text that is taken for a key

Keys are looked for in the text alone. Where a text starts with the characters of a key,
in whatever way it came to have them, the entry of that key is put there, unless a longer
key takes some of them away before. What the entry starts with then stays, as long as no
key starts with it.
-/

import MailMerge.Proofs.Outline.Strings

namespace MailMerge
namespace Outline

open Text (replaceFrom)

/-! ### The order of keys -/

theorem pairwise_insertByLength {α : Type} (item : String × α) {items : List (String × α)}
    (h : items.Pairwise fun first second => Text.size second.1 ≤ Text.size first.1) :
    (insertByLength item items).Pairwise fun first second => Text.size second.1 ≤ Text.size first.1 := by
  induction items with
  | nil => exact List.pairwise_singleton _ _
  | cons other rest ih =>
    obtain ⟨least, sorted⟩ := List.pairwise_cons.1 h
    rw [insertByLength]
    split
    · rename_i longer
      refine List.pairwise_cons.2 ⟨fun found mem => ?_, ih sorted⟩
      rcases List.mem_cons.1 ((perm_insertByLength item rest).mem_iff.1 mem) with rfl | mem
      · exact Nat.le_of_lt longer
      · exact least found mem
    · rename_i short
      have below : Text.size other.1 ≤ Text.size item.1 := Nat.le_of_not_lt short
      refine List.pairwise_cons.2 ⟨fun found mem => ?_, h⟩
      rcases List.mem_cons.1 mem with rfl | mem
      · exact below
      · exact Nat.le_trans (least found mem) below

/-- **The longest keys stand first.** -/
theorem pairwise_longestFirst {α : Type} (items : List (String × α)) :
    (longestFirst items).Pairwise fun first second => Text.size second.1 ≤ Text.size first.1 := by
  unfold longestFirst
  generalize items.filter _ = kept
  induction kept with
  | nil => exact List.Pairwise.nil
  | cons item rest ih =>
    rw [List.foldr_cons]
    exact pairwise_insertByLength item ih

/-! ### Replacing keys at the start of a text -/

section Start

variable {needle value : List Char}

/-- **A key at the start** gives way to its entry. -/
theorem replaceFrom_start (nonempty : needle ≠ []) (rest : List Char) :
    replaceFrom needle value 0 (needle ++ rest) = value ++ replaceFrom needle value 0 rest := by
  obtain ⟨first, more, rfl⟩ := List.exists_cons_of_ne_nil nonempty
  have found : (first :: more).isPrefixOf (first :: (more ++ rest)) = true :=
    List.isPrefixOf_iff_prefix.2 (List.prefix_append (first :: more) rest)
  rw [List.cons_append, replaceFrom, found, if_pos rfl, List.length_cons, Nat.add_sub_cancel,
    replaceFrom_skip]

/-- **A start is kept** if no other key starts there and none can start inside. -/
theorem replaceFrom_kept {mark c : Char} {tail kept : List Char} (rest : List Char)
    (none : ¬ mark :: tail <+: c :: kept ++ rest) (apart : mark ∉ kept) :
    replaceFrom (mark :: tail) value 0 (c :: kept ++ rest) =
      c :: kept ++ replaceFrom (mark :: tail) value 0 rest := by
  have inside : replaceFrom (mark :: tail) value 0 (kept ++ rest) =
      kept ++ replaceFrom (mark :: tail) value 0 rest := by
    clear none
    induction kept with
    | nil => rfl
    | cons other more ih =>
      have different : mark ≠ other := fun same => apart (same ▸ List.mem_cons_self)
      have absent : (mark :: tail).isPrefixOf (other :: (more ++ rest)) = false := by
        rw [List.isPrefixOf, beq_eq_false_iff_ne.2 different, Bool.false_and]
      rw [List.cons_append, replaceFrom, absent, if_neg Bool.false_ne_true, ih fun mem => apart (List.mem_cons_of_mem _ mem), List.cons_append]
  rw [List.cons_append] at none ⊢
  rw [replaceFrom, if_neg (mt List.isPrefixOf_iff_prefix.1 none), inside, List.cons_append]

end Start

/-- Replacing keys one after the other. -/
def replaceEach : List (String × String) → List Char → List Char
  | [], text => text
  | cell :: rest, text => replaceEach rest (replaceFrom cell.1.toList cell.2.toList 0 text)

section Each

variable {cells : List (String × String)} {mark : Char}

/-- **A first character is kept** if no key starts with it. -/
theorem head?_replaceEach {c : Char} (different : c ≠ mark)
    (marked : ∀ cell ∈ cells, cell.1.toList.head? = some mark) {text : List Char}
    (first : text.head? = some c) : (replaceEach cells text).head? = some c := by
  induction cells generalizing text with
  | nil => exact first
  | cons cell others ih =>
    obtain ⟨own, marked⟩ := List.forall_mem_cons.1 marked
    obtain ⟨tail, key⟩ := List.head?_eq_some_iff.1 own
    obtain ⟨rest, rfl⟩ := List.head?_eq_some_iff.1 first
    rw [replaceEach]
    refine ih marked ?_
    have absent : ¬ mark :: tail <+: c :: [] ++ rest := fun found =>
      different (List.cons_prefix_cons.1 found).1.symm
    have step := @replaceFrom_kept cell.2.toList _ _ _ _ rest absent List.not_mem_nil
    rw [List.cons_append, List.nil_append] at step
    rw [key, step]
    rfl

/-- **A text that starts like a key** gets the entry of that key, if longer keys leave the
start as it is. -/
theorem head?_replaceEach_key {key value : String} {c : Char} (shown : value.toList.head? = some c)
    (different : c ≠ mark) (marked : ∀ cell ∈ cells, cell.1.toList.head? = some mark)
    (mem : (key, value) ∈ cells) (single : ∀ cell ∈ cells, cell.1 = key → cell.2 = value)
    (sorted : cells.Pairwise fun first second => Text.size second.1 ≤ Text.size first.1)
    (kept : ∀ cell ∈ cells, cell.1 ≠ key → Text.size key ≤ Text.size cell.1 → ∀ rest, ∃ more,
      replaceFrom cell.1.toList cell.2.toList 0 (key.toList ++ rest) = key.toList ++ more)
    (rest : List Char) : (replaceEach cells (key.toList ++ rest)).head? = some c := by
  induction cells generalizing rest with
  | nil => exact (List.not_mem_nil mem).elim
  | cons cell others ih =>
    obtain ⟨longest, sorted⟩ := List.pairwise_cons.1 sorted
    obtain ⟨own_mark, marked⟩ := List.forall_mem_cons.1 marked
    obtain ⟨own_single, single⟩ := List.forall_mem_cons.1 single
    obtain ⟨own_kept, kept⟩ := List.forall_mem_cons.1 kept
    by_cases same : cell.1 = key
    · have nonempty : key.toList ≠ [] := by
        rintro empty
        rw [same, empty] at own_mark
        cases own_mark
      obtain ⟨tail, text⟩ := List.head?_eq_some_iff.1 shown
      rw [replaceEach]
      refine head?_replaceEach different marked ?_
      rw [same, own_single same, replaceFrom_start nonempty, text]
      rfl
    · have mem : (key, value) ∈ others :=
        (List.mem_cons.1 mem).resolve_left fun found => same (congrArg Prod.fst found).symm
      obtain ⟨more, step⟩ := own_kept same (longest _ mem) rest
      have others_first := ih marked mem single sorted kept more
      rwa [replaceEach, step]

end Each

/-! ### Passes over a text without sections -/

theorem replaceKey_fst (key value text : String) :
    (replaceKey key value text).1 = String.ofList (replaceFrom key.toList value.toList 0 text.toList) := by
  unfold replaceKey
  split
  · rfl
  · rename_i absent
    rw [Text.replaceFrom_of_not_occursIn (Bool.eq_false_iff.2 absent), String.ofList_toList]

/-- **A pass without sections** replaces the keys one after the other. -/
theorem output_pass (cells : List (String × String)) (output : String) (bodies : Dict String) :
    (pass cells [] none output bodies).output = String.ofList (replaceEach cells output.toList) := by
  have general : ∀ work : Work, (work.replaceCells cells).output =
      String.ofList (replaceEach cells work.output.toList) := by
    induction cells with
    | nil => exact fun work => String.ofList_toList.symm
    | cons cell rest ih =>
      intro work
      have replaced : (work.replace cell.1 cell.2 none).output =
          String.ofList (replaceFrom cell.1.toList cell.2.toList 0 work.output.toList) :=
        replaceKey_fst cell.1 cell.2 work.output
      have others := ih (work.replace cell.1 cell.2 none)
      rw [replaced, String.toList_ofList] at others
      exact others
  exact general ⟨output, bodies, false⟩

/-- **What a pass brings about stays,** if replacing keeps it. -/
theorem settle_keeps {cells : List (String × String)} (keeps : List Char → Prop)
    (kept : ∀ text, keeps text → keeps (replaceEach cells text)) {passes : Nat} {output final : String}
    {bodies : Dict String} (settled : settle cells [] none (passes + 1) output bodies = some final)
    (first : keeps (replaceEach cells output.toList)) : keeps final.toList := by
  induction passes generalizing output bodies with
  | zero =>
    rw [settle] at settled
    split at settled
    · cases settled
    · obtain rfl := Option.some.inj settled
      rwa [output_pass, String.toList_ofList]
  | succ passes ih =>
    rw [settle] at settled
    split at settled
    · refine ih settled ?_
      rw [output_pass, String.toList_ofList]
      exact kept _ first
    · obtain rfl := Option.some.inj settled
      rwa [output_pass, String.toList_ofList]

end Outline
end MailMerge
