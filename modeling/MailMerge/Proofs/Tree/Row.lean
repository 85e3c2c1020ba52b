/-
# Rows of outputs

The tree of a source that is nothing but outputs of names, one after the other, is
that row of outputs, numbered from zero. The names are letters, of which three are
enough for what rows are used for.
-/

import MailMerge.Proofs.Tree.Numbering

namespace MailMerge
namespace Tree

/-- The letters that name the outputs of a row. -/
def rowLetters : List Char := ['a', 'b', 'c']

/-- The characters of an output that names a letter. -/
def outputChars (letter : Char) : List Char := ['\x7b', '\x7b', letter, '\x7d', '\x7d']

/-- **The source of a row:** an output for every letter. -/
def rowSource (letters : List Char) : String := String.ofList (letters.flatMap outputChars)

/-- The output of a letter, with its number and the place where it stands. -/
def rowOutput (letter : Char) (id place : Nat) : Output :=
  ⟨id, String.singleton letter, .lookup (String.singleton letter) [], [], ⟨place, place + 5⟩⟩

/-- **A row of outputs,** numbered and placed from the first one on. -/
def rowFrom : Nat → Nat → List Char → List Output
  | _, _, [] => []
  | id, place, letter :: rest => rowOutput letter id place :: rowFrom (id + 1) (place + 5) rest

/-- **An output of a letter** takes five bytes, is read as the letter's name, and has
nothing around it. -/
theorem read_letter {letter : Char} (own : letter ∈ rowLetters) (offset : Nat) :
    Text.byteSize (outputChars letter) = 5 ∧
      Markup.readOutput (String.ofList [letter]) offset =
        .ok (.lookup (String.singleton letter) [], []) ∧
      String.ofList (Text.trimChars [letter]) = String.singleton letter := by
  simp only [rowLetters, List.mem_cons, List.not_mem_nil, or_false] at own
  rcases own with rfl | rfl | rfl <;> exact ⟨rfl, rfl, rfl⟩

/-- One more output of a row is added to the tree. -/
theorem step_letter {letter : Char} (own : letter ∈ rowLetters) (vocabulary : Vocabulary)
    (nodes : List Node) (id place : Nat) :
    Assembly.step vocabulary ⟨nodes, [], id, none⟩
        ⟨.output, String.ofList (outputChars letter), place, place + 5⟩ =
      .ok ⟨.output (rowOutput letter id place) :: nodes, [], id + 1, none⟩ := by
  obtain ⟨-, read, markup⟩ := read_letter own (place + 2)
  have inner : outputInner? (outputChars letter) = some [letter] := rfl
  simp only [Assembly.step, Assembly.output, String.toList_ofList, inner, read, markup]
  rfl

section Row

variable {letters : List Char} (h : letters ⊆ rowLetters)

include h

/-- A row is cut into its outputs. -/
theorem cut_row :
    Source.cut 0 (letters.flatMap outputChars) = letters.map fun c => (.output, outputChars c) := by
  induction letters with
  | nil => rfl
  | cons letter rest ih =>
    obtain ⟨own, others⟩ := List.cons_subset.1 h
    rw [List.flatMap_cons, List.map_cons, ← ih others]
    simp only [rowLetters, List.mem_cons, List.not_mem_nil, or_false] at own
    rcases own with rfl | rfl | rfl <;> rfl

/-- **Assembling a row** adds its outputs one by one. -/
theorem steps_row (vocabulary : Vocabulary) (nodes : List Node) (id place : Nat) :
    Assembly.steps vocabulary ⟨nodes, [], id, none⟩
        (Source.locate place (letters.map fun c => (.output, outputChars c))) =
      .ok ⟨((rowFrom id place letters).map .output).reverse ++ nodes, [], id + letters.length, none⟩ := by
  induction letters generalizing nodes id place with
  | nil => rfl
  | cons letter rest ih =>
    obtain ⟨own, others⟩ := List.cons_subset.1 h
    rw [List.map_cons, Source.locate, Assembly.steps, (read_letter own 0).1, step_letter own]
    dsimp only
    rw [ih others, rowFrom, List.map_cons, List.reverse_cons, List.append_assoc, List.length_cons,
      Nat.add_assoc, Nat.add_comm 1]
    rfl

/-- **The tree of a row's source** is the row. -/
theorem Document.ofSource_row (vocabulary : Vocabulary) :
    Document.ofSource vocabulary (rowSource letters) = .ok ⟨(rowFrom 0 0 letters).map .output⟩ := by
  rw [Document.ofSource, Source.segments, rowSource, String.toList_ofList, cut_row h, Assembly.start,
    steps_row h]
  simp [Assembly.finish, closeAll, Except.map]

end Row

end Tree
end MailMerge
