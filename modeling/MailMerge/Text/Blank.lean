/-
# Blank characters and trimming

A character is blank when it is white space anywhere in the character set, not
only in its first 128 places. Trimming takes blanks off the ends of a text and
leaves those inside it.
-/

import MailMerge.Text.Ranges

namespace MailMerge
namespace Text

/-- The blank characters, as ranges of code points. -/
def blankRanges : Ranges :=
  [(0x9, 0xD), (0x20, 0x20), (0x85, 0x85), (0xA0, 0xA0), (0x1680, 0x1680), (0x2000, 0x200A),
   (0x2028, 0x2029), (0x202F, 0x202F), (0x205F, 0x205F), (0x3000, 0x3000)]

/-- **Blank characters:** the white space of the whole character set. -/
def isBlank (c : Char) : Bool := blankRanges.has c

/-- Drops the blanks at the start. -/
def trimStart (cs : List Char) : List Char := cs.dropWhile isBlank

/-- Drops the blanks at the end. -/
def trimEnd : List Char → List Char
  | [] => []
  | c :: cs =>
    match trimEnd cs with
    | [] => if isBlank c then [] else [c]
    | d :: ds => c :: d :: ds

/-- Drops the blanks at both ends. -/
def trimChars (cs : List Char) : List Char := trimEnd (trimStart cs)

/-- **Trimming:** the text without the blanks at its two ends. -/
def trim (s : String) : String := String.ofList (trimChars s.toList)

@[simp] theorem trimStart_nil : trimStart [] = [] := rfl

@[simp] theorem trimEnd_nil : trimEnd [] = [] := rfl

theorem trimStart_cons (c : Char) (cs : List Char) :
    trimStart (c :: cs) = if isBlank c then trimStart cs else c :: cs := by
  simp only [trimStart, List.dropWhile_cons]

theorem trimEnd_cons (c : Char) (cs : List Char) :
    trimEnd (c :: cs) = if trimEnd cs = [] ∧ isBlank c then [] else c :: trimEnd cs := by
  rw [trimEnd]
  cases h : trimEnd cs <;> simp

/-- What trimming the end takes away is blank. -/
theorem trimEnd_append_blanks (cs : List Char) :
    ∃ blanks, cs = trimEnd cs ++ blanks ∧ ∀ c ∈ blanks, isBlank c := by
  induction cs with
  | nil => exact ⟨[], rfl, by simp⟩
  | cons c cs ih =>
    obtain ⟨blanks, h, hb⟩ := ih
    by_cases hc : trimEnd cs = [] ∧ isBlank c
    · refine ⟨c :: blanks, ?_, ?_⟩
      · rw [trimEnd_cons, if_pos hc]
        rw [hc.1] at h
        simpa using h
      · intro d hd
        rcases List.mem_cons.1 hd with rfl | hd
        · exact hc.2
        · exact hb d hd
    · exact ⟨blanks, by rw [trimEnd_cons, if_neg hc, List.cons_append, ← h], hb⟩

end Text
end MailMerge
