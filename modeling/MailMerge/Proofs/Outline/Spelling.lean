/-
# Texts of plain text and keys

A text with placeholders is spelled from plain text and keys. When is a key found in
such a text only where one was put? If the opening mark is one character that is no
digit, the closing mark has a character that is no digit, and wherever the opening
mark stands in plain text or in the closing mark, the character after it starts no
number. Then searching, replacing and cutting off go by the pieces of a spelling.
-/

import Mathlib.Data.List.Infix
import MailMerge.Proofs.Outline.Keyring
import MailMerge.Text.Search

namespace MailMerge
namespace Outline

open Text (occursIn before? replaceFrom)

/-- A digit that the number of a key can start with. -/
def startsNumber (c : Char) : Bool := c.isDigit && c != '0'

/-- **A harmless text:** wherever the mark stands in it, the next character is in it
too and starts no number. -/
def harmless (mark : Char) : List Char → Bool
  | [] => true
  | c :: rest => (c != mark || rest.head?.any fun next => !startsNumber next) && harmless mark rest

/-- **Marks that tell keys apart:** the opening one is a character that is no digit,
the closing one has a character that is no digit and is harmless. -/
structure KeyFormat.SeparableBy (format : KeyFormat) (mark : Char) : Prop where
  opening : format.opening = String.singleton mark
  mark_no_digit : mark.isDigit = false
  closing_no_number : format.closing.toList.any (fun c => !c.isDigit) = true
  closing_harmless : harmless mark format.closing.toList = true

/-- **Marks that tell keys apart,** for some character that opens keys. -/
def KeyFormat.Separable (format : KeyFormat) : Prop := ∃ mark, format.SeparableBy mark

/-! ### Harmless texts -/

section Harmless

variable {mark : Char}

/-- Text without the mark is harmless. -/
theorem harmless_of_not_mem {text : List Char} (h : mark ∉ text) : harmless mark text = true := by
  induction text with
  | nil => rfl
  | cons c rest ih =>
    rw [List.mem_cons, not_or] at h
    have other : c ≠ mark := Ne.symm h.1
    simp [harmless, other, ih h.2]

theorem harmless_append {first second : List Char} (hfirst : harmless mark first = true)
    (hsecond : harmless mark second = true) : harmless mark (first ++ second) = true := by
  induction first with
  | nil => exact hsecond
  | cons c rest ih =>
    rw [harmless, Bool.and_eq_true] at hfirst
    rw [List.cons_append, harmless, Bool.and_eq_true]
    refine ⟨?_, ih hfirst.2⟩
    rw [Bool.or_eq_true] at hfirst ⊢
    refine hfirst.1.imp_right fun next => ?_
    cases rest with
    | nil => simp at next
    | cons d more => exact next

end Harmless

/-- A text holds the opening mark if it has that character. -/
theorem KeyFormat.SeparableBy.contains_iff {format : KeyFormat} {mark : Char}
    (h : format.SeparableBy mark) {text : String} :
    Text.contains text format.opening = true ↔ mark ∈ text.toList := by
  rw [Text.contains_iff, h.opening, String.toList_singleton, List.singleton_infix_iff]

/-- Text that does not hold the opening mark is harmless. -/
theorem KeyFormat.SeparableBy.harmless_of_not_contains {format : KeyFormat} {mark : Char}
    (h : format.SeparableBy mark) {text : String} (clean : Text.contains text format.opening = false) :
    harmless mark text.toList = true :=
  harmless_of_not_mem fun mem => Bool.false_ne_true (clean.symm.trans (h.contains_iff.2 mem))

/-! ### Keys -/

/-- **A number starts with a digit other than zero.** -/
theorem startsNumber_toDigits {number : Nat} (pos : 1 ≤ number) :
    ∃ first rest, Nat.toDigits 10 number = first :: rest ∧ startsNumber first = true := by
  induction number using Nat.strongRecOn with
  | ind number ih =>
    rw [Nat.toDigits_eq_if (by omega)]
    split
    · rename_i small
      refine ⟨_, [], rfl, ?_⟩
      have digits : ∀ digit, digit < 10 → 1 ≤ digit → startsNumber (Nat.digitChar digit) = true := by
        decide
      exact digits number small pos
    · obtain ⟨first, rest, same, starts⟩ := ih (number / 10) (by omega) (by omega)
      exact ⟨first, rest ++ [Nat.digitChar (number % 10)], by rw [same, List.cons_append], starts⟩

theorem isDigit_of_mem_toDigits {number : Nat} {c : Char} (h : c ∈ Nat.toDigits 10 number) :
    c.isDigit = true := Nat.isDigit_of_mem_toDigits (by omega) (by omega) h

namespace KeyFormat.SeparableBy

variable {format : KeyFormat} {mark : Char} (h : format.SeparableBy mark)

include h

/-- The characters of a key: the mark, the number and the closing mark. -/
theorem toList_key (number : Nat) :
    (format.key number).toList = mark :: (Nat.toDigits 10 number ++ format.closing.toList) := by
  rw [KeyFormat.toList_key, h.opening, String.toList_singleton, List.singleton_append]

/-- What follows the mark in a key is harmless. -/
theorem harmless_number (number : Nat) :
    harmless mark (Nat.toDigits 10 number ++ format.closing.toList) = true := by
  refine harmless_append (harmless_of_not_mem fun mem => ?_) h.closing_harmless
  have := isDigit_of_mem_toDigits mem
  rw [h.mark_no_digit] at this
  exact Bool.false_ne_true this

/-- Up to the first character that is no digit, what follows the mark in a key is its
number and the digits that the closing mark starts with. -/
theorem takeWhile_number (number : Nat) (rest : List Char) :
    (Nat.toDigits 10 number ++ format.closing.toList ++ rest).takeWhile Char.isDigit =
      Nat.toDigits 10 number ++ format.closing.toList.takeWhile Char.isDigit := by
  rw [List.append_assoc, List.takeWhile_append_of_pos fun _ mem => isDigit_of_mem_toDigits mem]
  congr 1
  have ends := h.closing_no_number
  generalize format.closing.toList = closing at ends
  induction closing with
  | nil => cases ends
  | cons c more ih =>
    cases digit : c.isDigit with
    | false => simp [digit]
    | true =>
      rw [List.any_cons, digit, Bool.not_true, Bool.false_or] at ends
      rw [List.cons_append, List.takeWhile_cons_of_pos digit, List.takeWhile_cons_of_pos digit, ih ends]

/-- **A key stands in front of what starts with a key only if it is that key.** -/
theorem isPrefixOf_key (first second : Nat) (rest : List Char) :
    (format.key first).toList.isPrefixOf ((format.key second).toList ++ rest) = true ↔
      first = second := by
  constructor
  · intro found
    rw [List.isPrefixOf_iff_prefix, h.toList_key, h.toList_key, List.cons_append,
      List.cons_prefix_cons] at found
    obtain ⟨tail, same⟩ := found.2
    have digits := congrArg (List.takeWhile Char.isDigit) same
    rw [h.takeWhile_number, h.takeWhile_number] at digits
    exact toDigits_injective (List.append_cancel_right digits)
  · rintro rfl
    exact List.isPrefixOf_iff_prefix.2 (List.prefix_append ..)

/-- **No key stands in front of harmless text.** -/
theorem not_isPrefixOf_harmless {number : Nat} (pos : 1 ≤ number) {c : Char} {text : List Char}
    (clean : harmless mark (c :: text) = true) (rest : List Char) :
    (format.key number).toList.isPrefixOf (c :: (text ++ rest)) = false := by
  obtain ⟨first, digits, number_eq, starts⟩ := startsNumber_toDigits pos
  rw [h.toList_key, number_eq, List.cons_append]
  rw [harmless, Bool.and_eq_true, Bool.or_eq_true] at clean
  rcases clean.1 with other | next
  · have other : mark ≠ c := fun same => by simp [same] at other
    simp [List.isPrefixOf, other]
  · cases text with
    | nil => simp at next
    | cons d more =>
      have apart : first ≠ d := by
        rintro rfl
        simp [starts] at next
      simp [List.isPrefixOf, apart]

end KeyFormat.SeparableBy

/-! ### Spellings -/

/-- **A piece of a spelling:** plain text or the key with a number. -/
inductive Atom where
  | plain (text : List Char)
  | key (number : Nat)
deriving DecidableEq

/-- The characters of an atom. -/
def Atom.chars (format : KeyFormat) : Atom → List Char
  | .plain text => text
  | .key number => (format.key number).toList

/-- **A sound atom:** harmless text, or a key with a number from one on. -/
def Atom.Sound (mark : Char) : Atom → Prop
  | .plain text => harmless mark text = true
  | .key number => 1 ≤ number

/-- **The text of a spelling.** -/
def spell (format : KeyFormat) : List Atom → List Char
  | [] => []
  | atom :: rest => atom.chars format ++ spell format rest

/-- Puts other atoms in the place of a key. -/
def substitute (number : Nat) (value : List Atom) (atoms : List Atom) : List Atom :=
  atoms.flatMap fun atom => if atom = .key number then value else [atom]

@[simp] theorem spell_append (format : KeyFormat) (first second : List Atom) :
    spell format (first ++ second) = spell format first ++ spell format second := by
  induction first with
  | nil => rfl
  | cons atom rest ih => rw [List.cons_append, spell, ih, spell, List.append_assoc]

theorem substitute_cons (number : Nat) (value : List Atom) (atom : Atom) (rest : List Atom) :
    substitute number value (atom :: rest) =
      (if atom = .key number then value else [atom]) ++ substitute number value rest :=
  List.flatMap_cons

/-- Skipped characters are left out. -/
theorem replaceFrom_skip (needle value : List Char) (skipped rest : List Char) :
    replaceFrom needle value skipped.length (skipped ++ rest) = replaceFrom needle value 0 rest := by
  induction skipped with
  | nil => rfl
  | cons c more ih => exact ih

section Scan

variable {format : KeyFormat} {mark : Char} (h : format.SeparableBy mark)
  {number : Nat} (pos : 1 ≤ number)

include h pos

/-- Replacing a key goes over harmless text. -/
theorem replaceFrom_harmless (value : List Char) {text : List Char} (clean : harmless mark text = true)
    (rest : List Char) :
    replaceFrom (format.key number).toList value 0 (text ++ rest) =
      text ++ replaceFrom (format.key number).toList value 0 rest := by
  induction text with
  | nil => rfl
  | cons c more ih =>
    have none := h.not_isPrefixOf_harmless pos clean rest
    rw [harmless, Bool.and_eq_true] at clean
    rw [List.cons_append, replaceFrom, none, if_neg Bool.false_ne_true, ih clean.2, List.cons_append]

/-- Searching a key goes over harmless text. -/
theorem occursIn_harmless {text : List Char} (clean : harmless mark text = true) (rest : List Char) :
    occursIn (format.key number).toList (text ++ rest) =
      occursIn (format.key number).toList rest := by
  induction text with
  | nil => rfl
  | cons c more ih =>
    have none := h.not_isPrefixOf_harmless pos clean rest
    rw [harmless, Bool.and_eq_true] at clean
    rw [List.cons_append, occursIn, none, Bool.false_or, ih clean.2]

/-- What stands before a key goes on after harmless text. -/
theorem before?_harmless {text : List Char} (clean : harmless mark text = true) (rest : List Char) :
    before? (format.key number).toList (text ++ rest) =
      (before? (format.key number).toList rest).map (text ++ ·) := by
  induction text with
  | nil => simp
  | cons c more ih =>
    have none := h.not_isPrefixOf_harmless pos clean rest
    rw [harmless, Bool.and_eq_true] at clean
    rw [List.cons_append, before?, none, if_neg Bool.false_ne_true, ih clean.2, Option.map_map]
    rfl

omit pos in
/-- Another key is the mark and harmless text. -/
theorem other_key (other : Nat) (rest : List Char) :
    (format.key other).toList ++ rest =
      mark :: (Nat.toDigits 10 other ++ format.closing.toList ++ rest) := by
  rw [h.toList_key, List.cons_append]

/-- **Replacing a key replaces the key's places in a spelling.** -/
theorem replaceFrom_spell (value : List Atom) {atoms : List Atom}
    (sound : ∀ atom ∈ atoms, atom.Sound mark) :
    replaceFrom (format.key number).toList (spell format value) 0 (spell format atoms) =
      spell format (substitute number value atoms) := by
  induction atoms with
  | nil => rfl
  | cons atom rest ih =>
    obtain ⟨own, others⟩ := List.forall_mem_cons.1 sound
    rw [substitute_cons, spell_append, spell, ← ih others]
    cases atom with
    | plain text =>
      rw [if_neg (by simp), Atom.chars, replaceFrom_harmless h pos _ own]
      simp [spell, Atom.chars]
    | key other =>
      have first := h.isPrefixOf_key number other (spell format rest)
      rw [Atom.chars]
      by_cases same : other = number
      · subst same
        have found := first.2 rfl
        rw [other_key h] at found ⊢
        rw [if_pos rfl, replaceFrom, if_pos found]
        congr 1
        have length : (format.key other).toList.length - 1 =
            (Nat.toDigits 10 other ++ format.closing.toList).length := by
          rw [h.toList_key]
          rfl
        rw [length, replaceFrom_skip]
      · have found : (format.key number).toList.isPrefixOf
            ((format.key other).toList ++ spell format rest) = false :=
          Bool.eq_false_iff.2 fun found => same (first.1 found).symm
        have different : Atom.key other ≠ Atom.key number := fun eq => same (Atom.key.inj eq)
        rw [other_key h] at found ⊢
        rw [if_neg different, replaceFrom, found, if_neg Bool.false_ne_true,
          replaceFrom_harmless h pos _ (h.harmless_number other)]
        simp [spell, Atom.chars, h.toList_key]

/-- **A key occurs in the text of a spelling if it is an atom of it.** -/
theorem occursIn_spell {atoms : List Atom} (sound : ∀ atom ∈ atoms, atom.Sound mark) :
    occursIn (format.key number).toList (spell format atoms) = true ↔ .key number ∈ atoms := by
  induction atoms with
  | nil =>
    rw [spell, h.toList_key]
    simp [occursIn]
  | cons atom rest ih =>
    obtain ⟨own, others⟩ := List.forall_mem_cons.1 sound
    rw [List.mem_cons, ← ih others, spell]
    cases atom with
    | plain text => rw [Atom.chars, occursIn_harmless h pos own]; simp
    | key other =>
      have first := h.isPrefixOf_key number other (spell format rest)
      rw [Atom.chars]
      rw [other_key h] at first ⊢
      rw [occursIn, Bool.or_eq_true, first, Atom.key.injEq,
        occursIn_harmless h pos (h.harmless_number other)]

/-- **What stands before a key** is spelled by the atoms before it. -/
theorem before?_spell {atoms : List Atom} (sound : ∀ atom ∈ atoms, atom.Sound mark) :
    before? (format.key number).toList (spell format atoms) =
      if .key number ∈ atoms then
        some (spell format (atoms.takeWhile fun atom => atom != .key number))
      else none := by
  induction atoms with
  | nil =>
    rw [spell, h.toList_key]
    simp [before?]
  | cons atom rest ih =>
    obtain ⟨own, others⟩ := List.forall_mem_cons.1 sound
    rw [spell]
    cases atom with
    | plain text =>
      rw [Atom.chars, before?_harmless h pos own, ih others]
      by_cases mem : Atom.key number ∈ rest <;> simp [mem, spell, Atom.chars]
    | key other =>
      have first := h.isPrefixOf_key number other (spell format rest)
      rw [Atom.chars]
      by_cases same : other = number
      · subst same
        have found := first.2 rfl
        rw [other_key h] at found ⊢
        rw [before?, if_pos found]
        simp [spell]
      · have found : (format.key number).toList.isPrefixOf
            ((format.key other).toList ++ spell format rest) = false :=
          Bool.eq_false_iff.2 fun found => same (first.1 found).symm
        rw [other_key h] at found ⊢
        rw [before?, found, if_neg Bool.false_ne_true,
          before?_harmless h pos (h.harmless_number other), ih others]
        have different : Atom.key number ≠ Atom.key other := fun eq => same (Atom.key.inj eq).symm
        by_cases mem : Atom.key number ∈ rest <;>
          simp [mem, different, different.symm, spell, Atom.chars, h.toList_key]

end Scan

end Outline
end MailMerge
