/-
# Texts in which keys can be told apart

A key is a number between two marks, however the number is written. Where the opening mark
stands in a text only at the start of a key, the text can be read from left to right as single
characters and keys (`Marked`). No key starts inside another then, and no key is the start of
another. So searching and replacing go by the keys that are read, texts like this can be put
together, and putting one in the place of a key gives another.
-/

import MailMerge.Proofs.Outline.Misreading

namespace MailMerge
namespace Outline

open Text (occursIn replaceFrom)

/-- The mark at which keys start. -/
def openMark : Char := '\uE000'

/-- The mark at which keys end. -/
def closeMark : Char := '\uE001'

example : KeyFormat.standard = ⟨String.singleton openMark, String.singleton closeMark⟩ := by decide

/-- **A key:** digits between the marks. -/
def isKey (key : String) : Bool :=
  match key.toList with
  | [] => false
  | c :: rest => c == openMark && rest.dropWhile Char.isDigit == [closeMark]

/-- **The opening mark stands only at the start of keys:** digits and the closing mark follow it. -/
def onlyInKeys : List Char → Bool
  | [] => true
  | c :: rest =>
    (c != openMark || (rest.dropWhile Char.isDigit).head? == some closeMark) && onlyInKeys rest

/-! ### Keys -/

theorem isKey_iff {key : String} :
    isKey key = true ↔ ∃ digits : List Char, (∀ c ∈ digits, c.isDigit = true) ∧
      key.toList = openMark :: (digits ++ [closeMark]) := by
  unfold isKey
  constructor
  · intro shape
    split at shape
    · cases shape
    · rename_i c rest chars
      rw [Bool.and_eq_true, beq_iff_eq, beq_iff_eq] at shape
      obtain ⟨rfl, ends⟩ := shape
      refine ⟨rest.takeWhile Char.isDigit, fun _ mem => List.mem_takeWhile_imp mem, ?_⟩
      rw [chars, ← ends, List.takeWhile_append_dropWhile]
  · rintro ⟨digits, all, chars⟩
    rw [chars]
    simp only [beq_self_eq_true, Bool.true_and, List.dropWhile_append_of_pos all, beq_iff_eq]
    decide

/-- **The keys of an outline** in the usual format are keys. -/
theorem isKey_standard (number : Nat) : isKey (KeyFormat.standard.key number) = true :=
  isKey_iff.2 ⟨Nat.toDigits 10 number, fun _ => isDigit_of_mem_toDigits,
    KeyFormat.standard.toList_key number⟩

/-- **No key is the start of another.** -/
theorem isKey_append_inj {first second : String} (hfirst : isKey first = true)
    (hsecond : isKey second = true) {rest others : List Char}
    (same : first.toList ++ rest = second.toList ++ others) : first = second ∧ rest = others := by
  obtain ⟨digits, all, chars⟩ := isKey_iff.1 hfirst
  obtain ⟨digits', all', chars'⟩ := isKey_iff.1 hsecond
  -- up to the closing mark, which is the first character that is no digit
  have number : ∀ digits : List Char, (∀ c ∈ digits, c.isDigit = true) → ∀ rest : List Char,
      ((digits ++ [closeMark]) ++ rest).takeWhile Char.isDigit = digits := by
    intro digits all rest
    rw [List.append_assoc, List.takeWhile_append_of_pos all, List.singleton_append,
      List.takeWhile_cons_of_neg (by decide), List.append_nil]
  have tails := same
  rw [chars, chars', List.cons_append, List.cons_append, List.cons.injEq] at tails
  have equal : digits = digits' := by
    rw [← number digits all rest, tails.2, number digits' all' others]
  have keys : first = second := String.toList_inj.1 (by rw [chars, chars', equal])
  subst keys
  exact ⟨rfl, List.append_cancel_left same⟩

theorem isKey_append_ne_nil {key : String} (own : isKey key = true) {rest : List Char} :
    key.toList ++ rest ≠ [] := by
  obtain ⟨_, -, chars⟩ := isKey_iff.1 own
  rw [chars]
  exact List.cons_ne_nil _ _

theorem isKey_append_ne_cons {key : String} (own : isKey key = true) {c : Char} (other : c ≠ openMark)
    {rest others : List Char} : key.toList ++ rest ≠ c :: others := by
  obtain ⟨_, -, chars⟩ := isKey_iff.1 own
  rw [chars]
  exact fun same => other (List.cons.inj same).1.symm

theorem ne_empty_of_isKey {key : String} (own : isKey key = true) : key ≠ "" := by
  rintro rfl
  cases own

/-! ### Reading a text -/

/-- **A marked text** is read as single characters, none of which is the opening mark, and keys. -/
inductive Marked : List Char → Prop
  | nil : Marked []
  | plain {c : Char} (other : c ≠ openMark) {rest : List Char} (others : Marked rest) :
      Marked (c :: rest)
  | key {key : String} (own : isKey key = true) {rest : List Char} (others : Marked rest) :
      Marked (key.toList ++ rest)

theorem onlyInKeys_right {front rest : List Char} (h : onlyInKeys (front ++ rest) = true) :
    onlyInKeys rest = true := by
  induction front with
  | nil => exact h
  | cons c more ih =>
    rw [List.cons_append, onlyInKeys, Bool.and_eq_true] at h
    exact ih h.2

/-- **If the opening mark stands only at the start of keys,** the text can be read. -/
theorem marked_of_onlyInKeys {chars : List Char} (h : onlyInKeys chars = true) : Marked chars := by
  induction length : chars.length using Nat.strongRecOn generalizing chars with
  | ind size ih =>
    cases chars with
    | nil => exact .nil
    | cons c rest =>
      have inside := h
      rw [onlyInKeys, Bool.and_eq_true, Bool.or_eq_true] at inside
      by_cases plain : c = openMark
      · have closes := inside.1.resolve_left (by simp [plain])
        obtain ⟨after, ends⟩ := List.head?_eq_some_iff.1 (eq_of_beq closes)
        have whole : rest = (rest.takeWhile Char.isDigit ++ [closeMark]) ++ after := by
          rw [List.append_assoc, List.singleton_append, ← ends, List.takeWhile_append_dropWhile]
        have key : isKey (String.ofList (openMark :: (rest.takeWhile Char.isDigit ++ [closeMark]))) = true :=
          isKey_iff.2 ⟨_, fun _ mem => List.mem_takeWhile_imp mem, String.toList_ofList⟩
        have later := inside.2
        rw [whole] at later
        have shorter : after.length < size := by
          have := congrArg List.length whole
          simp only [List.length_append, List.length_cons] at this length
          omega
        have read := Marked.key key (ih _ shorter (onlyInKeys_right later) rfl)
        rw [String.toList_ofList, List.cons_append, ← whole, ← plain] at read
        exact read
      · exact .plain plain (ih _ (by rw [← length]; exact Nat.lt_succ_self _) inside.2 rfl)

theorem Marked.append {first second : List Char} (h : Marked first) (h' : Marked second) :
    Marked (first ++ second) := by
  induction h with
  | nil => exact h'
  | plain other _ ih => exact .plain other ih
  | key own _ ih =>
    rw [List.append_assoc]
    exact .key own ih

/-! ### Searching and replacing -/

section Scan

variable {key : String} (own : isKey key = true)

include own

/-- A key is searched for after text without the opening mark. -/
theorem occursIn_apart {front : List Char} (apart : openMark ∉ front) (rest : List Char) :
    occursIn key.toList (front ++ rest) = occursIn key.toList rest := by
  obtain ⟨digits, -, chars⟩ := isKey_iff.1 own
  induction front with
  | nil => rfl
  | cons c more ih =>
    rw [List.mem_cons, not_or] at apart
    have absent : key.toList.isPrefixOf (c :: (more ++ rest)) = false := by
      rw [chars, List.isPrefixOf, beq_eq_false_iff_ne.2 apart.1, Bool.false_and]
    rw [List.cons_append, occursIn, absent, Bool.false_or, ih apart.2]

/-- **A key is found where it is read,** not inside another. -/
theorem occursIn_key {other : String} (hother : isKey other = true) (rest : List Char) :
    occursIn key.toList (other.toList ++ rest) = true ↔ key = other ∨ occursIn key.toList rest = true := by
  have start : key.toList.isPrefixOf (other.toList ++ rest) = true ↔ key = other := by
    rw [List.isPrefixOf_iff_prefix]
    refine ⟨fun ⟨more, same⟩ => (isKey_append_inj own hother same).1, ?_⟩
    rintro rfl
    exact List.prefix_append _ _
  obtain ⟨digits, all, chars⟩ := isKey_iff.1 hother
  rw [chars, List.cons_append] at start ⊢
  rw [occursIn, Bool.or_eq_true, start, occursIn_apart own]
  intro mem
  rcases List.mem_append.1 mem with digit | close
  · exact absurd (all _ digit) (by decide)
  · exact absurd (List.mem_singleton.1 close) (by decide)

/-- A character that starts no key is kept. -/
theorem replaceFrom_plain (value : List Char) {c : Char} (other : c ≠ openMark) (rest : List Char) :
    replaceFrom key.toList value 0 (c :: rest) = c :: replaceFrom key.toList value 0 rest := by
  obtain ⟨digits, -, chars⟩ := isKey_iff.1 own
  have none : ¬ key.toList <+: c :: rest := by
    rw [chars]
    exact fun found => other (List.cons_prefix_cons.1 found).1.symm
  rw [replaceFrom, if_neg (mt List.isPrefixOf_iff_prefix.1 none)]

/-- **The key gives way** to what is put in its place. -/
theorem replaceFrom_own (value rest : List Char) :
    replaceFrom key.toList value 0 (key.toList ++ rest) = value ++ replaceFrom key.toList value 0 rest := by
  obtain ⟨digits, -, chars⟩ := isKey_iff.1 own
  exact replaceFrom_start (by rw [chars]; exact List.cons_ne_nil _ _) rest

/-- **Other keys are kept.** -/
theorem replaceFrom_other (value : List Char) {other : String} (hother : isKey other = true)
    (different : other ≠ key) (rest : List Char) :
    replaceFrom key.toList value 0 (other.toList ++ rest) =
      other.toList ++ replaceFrom key.toList value 0 rest := by
  have none : ¬ key.toList <+: other.toList ++ rest := fun ⟨_, same⟩ =>
    different (isKey_append_inj own hother same).1.symm
  obtain ⟨digits, -, chars⟩ := isKey_iff.1 own
  obtain ⟨digits', all, chars'⟩ := isKey_iff.1 hother
  rw [chars, chars'] at none ⊢
  refine replaceFrom_kept rest none fun mem => ?_
  rcases List.mem_append.1 mem with digit | close
  · exact absurd (all _ digit) (by decide)
  · exact absurd (List.mem_singleton.1 close) (by decide)

/-- **A key stands in one of the texts** that are put together. -/
theorem Marked.occursIn_append {first : List Char} (h : Marked first) (second : List Char) :
    occursIn key.toList (first ++ second) = true ↔
      occursIn key.toList first = true ∨ occursIn key.toList second = true := by
  induction h with
  | nil =>
    obtain ⟨digits, -, chars⟩ := isKey_iff.1 own
    have empty : occursIn key.toList [] = false := by
      rw [chars]
      rfl
    rw [List.nil_append, empty]
    simp
  | @plain c other rest _ ih =>
    have apart : openMark ∉ [c] := fun mem => other (List.mem_singleton.1 mem).symm
    rw [← List.singleton_append, List.append_assoc, occursIn_apart own apart, ih,
      occursIn_apart own apart]
  | key hother _ ih =>
    rw [List.append_assoc, occursIn_key own hother, ih, occursIn_key own hother, or_assoc]

variable {value : List Char} (hvalue : Marked value) {chars : List Char} (h : Marked chars)

include hvalue h

/-- **Putting a marked text in the place of a key** gives a marked text. -/
theorem Marked.replace : Marked (replaceFrom key.toList value 0 chars) := by
  induction h with
  | nil => exact .nil
  | plain other _ ih =>
    rw [replaceFrom_plain own value other]
    exact .plain other ih
  | @key other hother rest _ ih =>
    by_cases same : other = key
    · rw [same, replaceFrom_own own]
      exact hvalue.append ih
    · rw [replaceFrom_other own value hother same]
      exact .key hother ih

/-- **The keys after replacing:** those that were there before, without the one that is replaced,
and, if it was there, those of the text that is put in its place. -/
theorem Marked.occursIn_replace {other : String} (hother : isKey other = true) :
    occursIn other.toList (replaceFrom key.toList value 0 chars) = true ↔
      (other ≠ key ∧ occursIn other.toList chars = true) ∨
        (occursIn key.toList chars = true ∧ occursIn other.toList value = true) := by
  induction h with
  | nil =>
    obtain ⟨_, -, first⟩ := isKey_iff.1 own
    obtain ⟨_, -, second⟩ := isKey_iff.1 hother
    simp [replaceFrom, first, second, occursIn]
  | @plain c apart rest _ ih =>
    have apart' : openMark ∉ [c] := fun mem => apart (List.mem_singleton.1 mem).symm
    rw [replaceFrom_plain own value apart, ← List.singleton_append, occursIn_apart hother apart', ih,
      ← List.singleton_append, occursIn_apart hother apart', occursIn_apart own apart']
  | @key found hfound rest _ ih =>
    rw [occursIn_key hother hfound, occursIn_key own hfound]
    by_cases same : found = key
    · rw [same, replaceFrom_own own, hvalue.occursIn_append hother, ih]
      by_cases inside : occursIn other.toList value = true <;> by_cases equal : other = key <;>
        simp [inside, equal]
    · rw [replaceFrom_other own value hfound same, occursIn_key hother hfound, ih]
      by_cases equal : other = found
      · simp [equal, same]
      · simp [equal, Ne.symm same]

end Scan

/-! ### Texts -/

section Text

variable {key value text : String} (own : isKey key = true) (hvalue : Marked value.toList)
  (h : Marked text.toList)

include own hvalue h

/-- Replacing a key in a marked text gives a marked text. -/
theorem marked_replaceKey : Marked (replaceKey key value text).1.toList := by
  rw [replaceKey_fst, String.toList_ofList]
  exact Marked.replace own hvalue h

/-- The keys of a text after replacing one. -/
theorem contains_replaceKey {other : String} (hother : isKey other = true) :
    Text.contains (replaceKey key value text).1 other = true ↔
      (other ≠ key ∧ Text.contains text other = true) ∨
        (Text.contains text key = true ∧ Text.contains value other = true) := by
  rw [replaceKey_fst, Text.contains, String.toList_ofList]
  exact Marked.occursIn_replace own hvalue h hother

end Text

end Outline
end MailMerge
