/-
# Searching and replacing

A text occurs in another at the places where it is a leading part of what
follows. Replacing goes from left to right over the occurrences that do not
overlap, and does not look again at what it wrote.
-/

namespace MailMerge
namespace Text

/-- `needle` occurs in `hay`. -/
def occursIn (needle : List Char) : List Char → Bool
  | [] => needle.isEmpty
  | c :: cs => needle.isPrefixOf (c :: cs) || occursIn needle cs

/-- **Occurrence:** `needle` stands somewhere in `s`; the empty text stands everywhere. -/
def contains (s needle : String) : Bool := occursIn needle.toList s.toList

/-- What stands before the first occurrence of `needle`, if there is one. -/
def before? (needle : List Char) : List Char → Option (List Char)
  | [] => if needle.isEmpty then some [] else none
  | c :: cs =>
    if needle.isPrefixOf (c :: cs) then some [] else (before? needle cs).map (c :: ·)

/-- What stands before the first occurrence of `needle` in `s`, if there is one. -/
def beforeFirst? (s needle : String) : Option String :=
  (before? needle.toList s.toList).map String.ofList

/-- Replaces occurrences of `needle` by `value`. The next `skip` characters
belong to an occurrence that has been replaced already. -/
def replaceFrom (needle value : List Char) : Nat → List Char → List Char
  | _, [] => []
  | skip + 1, _ :: cs => replaceFrom needle value skip cs
  | 0, c :: cs =>
    if needle.isPrefixOf (c :: cs) then value ++ replaceFrom needle value (needle.length - 1) cs
    else c :: replaceFrom needle value 0 cs

/-- **Replacement:** every occurrence of the non-empty text `needle` in `s`,
from left to right, gives way to `value`. -/
def replaceAll (s needle value : String) : String :=
  String.ofList (replaceFrom needle.toList value.toList 0 s.toList)

theorem occursIn_iff {needle hay : List Char} :
    occursIn needle hay = true ↔ needle <:+: hay := by
  induction hay with
  | nil => simp [occursIn, List.infix_nil]
  | cons c cs ih => simp [occursIn, ih, List.infix_cons_iff]

theorem contains_iff {s needle : String} : contains s needle = true ↔ needle.toList <:+: s.toList :=
  occursIn_iff

/-- A text stands in itself. -/
theorem contains_self (s : String) : contains s s = true := contains_iff.2 (List.infix_refl _)

/-- What stands in a text stands in it with more text behind it, or before it. -/
theorem contains_append_left {s needle : String} (h : contains s needle = true) (behind : String) :
    contains (s ++ behind) needle = true := by
  rw [contains_iff, String.toList_append]
  exact (contains_iff.1 h).trans (List.prefix_append ..).isInfix

theorem contains_append_right {s needle : String} (before : String) (h : contains s needle = true) :
    contains (before ++ s) needle = true := by
  rw [contains_iff, String.toList_append]
  exact (contains_iff.1 h).trans (List.suffix_append ..).isInfix

theorem before?_isSome {needle hay : List Char} :
    (before? needle hay).isSome = occursIn needle hay := by
  induction hay with
  | nil => simp only [before?, occursIn]; split <;> simp_all
  | cons c cs ih => simp only [before?, occursIn]; split <;> simp_all

/-- A text without an occurrence is left as it is. -/
theorem replaceFrom_of_not_occursIn {needle value hay : List Char}
    (h : occursIn needle hay = false) : replaceFrom needle value 0 hay = hay := by
  induction hay with
  | nil => rfl
  | cons c cs ih =>
    simp only [occursIn, Bool.or_eq_false_iff] at h
    simp [replaceFrom, h.1, ih h.2]

end Text
end MailMerge
