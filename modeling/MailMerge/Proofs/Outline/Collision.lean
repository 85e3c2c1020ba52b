/-
# Which key formats are faithful

Settings are checked for an opening mark that is empty or holds a digit, and no more.
That leaves marks with which text is taken for a key, and then replacing keys is not
expanding:

| marks | a row of outputs that goes wrong |
| --- | --- |
| the opening one has two characters or more | its first character, the rest of it with the number and closing mark of a key, and the output of that key |
| the opening one is a character, the closing one has digits at most | an output, digits that go on with its number to that of a longer key, and outputs up to that number |

All other formats whose closing mark does not hold the opening one tell keys apart.
-/

import MailMerge.Proofs.Outline.Entries
import MailMerge.Proofs.Outline.Misreading
import MailMerge.Proofs.Outline.Row

namespace MailMerge
namespace Outline

open MailMerge.Tree (rowOutput rowLetters)
open Render (Env)
open Text (replaceFrom)

/-! ### A row whose text starts like a key -/

section Misread

variable {letters : List Char} {static : Char → Option String} {base : Env} {recipients : Recipients}
  {ring : Keyring} {outline : Outline} {table : Table}
  (sketches : Sketches ring outline (rowPieces static 0 0 letters))
  (made : TableOf outline base recipients 1 table)

include sketches made

/-- The text of a row is what its passes settle to. -/
theorem settle_of_strings_row {text : String} (strings : outline.strings table 1 = .ok [text]) :
    settle (entriesOf (longestFirst table.pairs) 0) [] none 2 outline.text ⟨[]⟩ = some text := by
  obtain ⟨none, halts⟩ := sectionsIn_row static ring 0 0 letters
  have sections : outline.sectionTexts = ⟨[]⟩ := by
    have empty := sketches.sections
    rw [none] at empty
    rw [Outline.sectionTexts, Dict.mapEntries, empty.eq_nil]
    rfl
  have halt : outline.halt = .none := by
    rw [sketches.halt, halts]
    rfl
  rw [Outline.strings, fill, checkColumns_ok made.lengths, sections, halt] at strings
  change fillEach outline.text (longestFirst table.pairs) ⟨[]⟩ .none [0] = .ok [text] at strings
  rw [fillEach] at strings
  split at strings
  · cases strings
  · rename_i settled
    exact settled.trans (congrArg some (List.cons.inj (Except.ok.inj strings)).1)

/-- **A row whose text starts like the key of one of its slots** is taken to start with it. -/
theorem head?_row {mark c : Char} (opening : outline.format.opening.toList.head? = some mark)
    (different : c ≠ mark) (slot : Slot)
    (mem : slot ∈ placeholderSlots (rowPieces static 0 0 letters))
    (shown : (table.slotEntry ring 0 slot).toList.head? = some c)
    (kept : ∀ other ∈ placeholderSlots (rowPieces static 0 0 letters), ring.keyOf other ≠ ring.keyOf slot →
      Text.size (ring.keyOf slot) ≤ Text.size (ring.keyOf other) → ∀ value rest, ∃ more,
        replaceFrom (ring.keyOf other).toList value 0 ((ring.keyOf slot).toList ++ rest) =
          (ring.keyOf slot).toList ++ more)
    {rest : List Char} (starts : outline.text.toList = (ring.keyOf slot).toList ++ rest) {text : String}
    (strings : outline.strings table 1 = .ok [text]) : text.toList.head? = some c := by
  have marked : ∀ other ∈ placeholderSlots (rowPieces static 0 0 letters),
      (ring.keyOf other).toList.head? = some mark := by
    intro other hother
    have has := sketches.keyed.has _ (mem_placeholderSlots.1 hother).1
    obtain ⟨tail, chars⟩ := List.head?_eq_some_iff.1 opening
    rw [sketches.regular.keyOf_eq has, ← sketches.format, KeyFormat.toList_key, chars]
    rfl
  have opens : outline.format.opening ≠ "" := by
    intro empty
    rw [empty] at opening
    cases opening
  have order := sketches.perm_entries made.keys (sketches.format ▸ opens) 0
  have cells : ∀ {cell}, cell ∈ entriesOf (longestFirst table.pairs) 0 ↔
      ∃ other ∈ placeholderSlots (rowPieces static 0 0 letters),
        (ring.keyOf other, table.slotEntry ring 0 other) = cell :=
    fun {cell} => order.mem_iff.trans List.mem_map
  have all_marked : ∀ cell ∈ entriesOf (longestFirst table.pairs) 0, cell.1.toList.head? = some mark := by
    intro cell hcell
    obtain ⟨other, hother, rfl⟩ := cells.1 hcell
    exact marked other hother
  refine settle_keeps (fun text => text.head? = some c) (fun text first => head?_replaceEach different all_marked first)
    (settle_of_strings_row sketches made strings) ?_
  rw [starts]
  refine head?_replaceEach_key shown different all_marked (cells.2 ⟨slot, mem, rfl⟩) ?_ ?_ ?_ rest
  · intro cell hcell same
    obtain ⟨other, -, rfl⟩ := cells.1 hcell
    exact congrArg (table.entryOf 0) same
  · exact List.pairwise_map.2 (pairwise_longestFirst table.pairs)
  · intro cell hcell other_key size
    obtain ⟨other, hother, rfl⟩ := cells.1 hcell
    exact kept other hother other_key size _

end Misread

/-! ### An opening mark of several characters -/

/-- A part without a certain character stands on one side of it. -/
theorem infix_append_cons {needle before after : List Char} {c : Char}
    (h : needle <:+: before ++ c :: after) (absent : c ∉ needle) :
    needle <:+: before ∨ needle <:+: after := by
  obtain ⟨left, right, same⟩ := h
  rcases List.append_eq_append_iff.1 same with ⟨more, rfl, -⟩ | ⟨more, inside, outside⟩
  · exact .inl ⟨left, more, rfl⟩
  · cases more with
    | nil =>
      rw [List.append_nil] at inside
      exact .inl ⟨left, [], by rw [List.append_nil, inside]⟩
    | cons first more =>
      obtain ⟨rfl, rfl⟩ := List.cons.inj outside
      rcases List.append_eq_append_iff.1 inside with ⟨gap, -, start⟩ | ⟨gap, -, start⟩
      · exact absurd (start ▸ List.mem_append_right _ List.mem_cons_self) absent
      · cases gap with
        | nil =>
          rw [List.nil_append] at start
          exact absurd (start ▸ List.mem_cons_self) absent
        | cons _ gap =>
          obtain ⟨-, rfl⟩ := List.cons.inj start
          exact .inr ⟨gap, right, rfl⟩

/-- What is filled in starts with the literal that it starts with. -/
theorem head?_fillPieces_literal (ring : Keyring) (entry : Slot → String) {text : String} {c : Char}
    (first : text.toList.head? = some c) (pieces : List Piece) :
    (fillPieces ring entry (.part (.literal text) :: pieces)).1.toList.head? = some c := by
  obtain ⟨rest, chars⟩ := List.head?_eq_some_iff.1 first
  rw [fillPieces, fillPiece, fillPart, Filled.andThen, if_neg Bool.false_ne_true, String.toList_append,
    chars]
  rfl

/-- What all share of the letters `a` and `c`: a key in two pieces. -/
def splitKey (format : KeyFormat) (c : Char) : Option String :=
  if c = 'a' then some (String.ofList (format.opening.toList.take 1))
  else if c = 'c' then some (String.ofList (format.opening.toList.drop 1) ++ "1" ++ format.closing)
  else none

/-- The two pieces of the key and an output. -/
def splitRow : List Char := ['a', 'c', 'b']

theorem letter_splitRow {letter : Char} (mem : letter ∈ splitRow) :
    letter = 'a' ∨ letter = 'c' ∨ letter = 'b' := by
  simpa [splitRow] using mem

def splitSettings (format : KeyFormat) : Settings := ⟨false, some (.ofNames ["b"]), format⟩

def splitShared (format : KeyFormat) : Render.Scope :=
  ⟨[("a", .text (String.ofList (format.opening.toList.take 1))),
    ("c", .text (String.ofList (format.opening.toList.drop 1) ++ "1" ++ format.closing))]⟩

def splitRecipients : Recipients := ⟨[("b", [.text "1"])]⟩

/-- **The pieces of the key** make up a key in front of the output's own one. -/
theorem textOf_split {format : KeyFormat} (ring : Keyring) :
    (textOf ((rowPieces (splitKey format) 0 0 splitRow).map (Piece.fragment ring))).toList =
      (format.key 1).toList ++ (ring.keyOf (.output 2)).toList := by
  have pieces : rowPieces (splitKey format) 0 0 splitRow =
      [.part (.literal (String.ofList (format.opening.toList.take 1))),
        .part (.literal (String.ofList (format.opening.toList.drop 1) ++ "1" ++ format.closing)),
        .part (.output (rowOutput 'b' 2 10))] := rfl
  have whole : format.opening.toList.take 1 ++ format.opening.toList.tail = format.opening.toList := by
    rw [← List.drop_one, List.take_append_drop]
  have one : Nat.toDigits 10 1 = ['1'] := rfl
  rw [pieces, KeyFormat.toList_key, one]
  simp only [List.map, textOf, Piece.fragment, Part.fragment, Fragment.text, String.toList_append,
    String.toList_ofList, List.drop_one, List.append_assoc, rowOutput]
  rw [← List.append_assoc, whole]
  simp

section Long

variable {format : KeyFormat} {first second : Char} {others : List Char}
  (opening : format.opening.toList = first :: second :: others)
  (digits : ∀ c ∈ format.opening.toList, c.isDigit = false)
  (apart : Text.contains format.closing format.opening = false)

include opening digits apart

/-- **No piece of the key holds the opening mark.** -/
theorem contains_splitKey {c : Char} {text : String} (h : splitKey format c = some text) :
    Text.contains text format.opening = false ∧ text.isEmpty = false := by
  unfold splitKey at h
  rw [opening] at h
  split at h
  · obtain rfl := Option.some.inj h
    refine ⟨Bool.eq_false_iff.2 fun found => ?_, ?_⟩
    · have inside := Text.contains_iff.1 found
      rw [opening, String.toList_ofList] at inside
      simpa using inside.length_le
    · simp
  · split at h
    · obtain rfl := Option.some.inj h
      refine ⟨Bool.eq_false_iff.2 fun found => ?_, ?_⟩
      · have inside := Text.contains_iff.1 found
        have absent : '1' ∉ format.opening.toList := fun mem => by simpa using digits '1' mem
        rw [String.toList_append, String.toList_append, String.toList_ofList, List.append_assoc] at inside
        rcases infix_append_cons inside absent with short | closing
        · have length := short.length_le
          rw [opening, List.drop_one, List.tail_cons, List.length_cons, List.length_cons] at length
          omega
        · exact Bool.false_ne_true (apart.symm.trans (Text.contains_iff.2 closing))
      · simp
    · cases h

/-- **The data of the row** whose text starts like the key of its output. -/
theorem rowData_split :
    RowData format splitRow (splitKey format) (fun _ => "1") (rowEnv (splitSettings format) (splitShared format))
      ((rowEnv (splitSettings format) (splitShared format)).enter (splitRecipients.scope 0)) := by
  refine ⟨rfl, fun letter mem none => ?_, fun letter mem text known => ?_⟩
  · rcases letter_splitRow mem with rfl | rfl | rfl
    · cases none
    · cases none
    · refine ⟨rfl, rfl, Bool.eq_false_iff.2 fun found => ?_⟩
      have length := (Text.contains_iff.1 found).length_le
      rw [opening] at length
      simp at length
  · obtain ⟨unheld, nonempty⟩ := contains_splitKey opening digits apart known
    rcases letter_splitRow mem with rfl | rfl | rfl
    · obtain rfl := Option.some.inj known
      exact ⟨rfl, rfl, unheld, nonempty⟩
    · obtain rfl := Option.some.inj known
      exact ⟨rfl, rfl, unheld, nonempty⟩
    · cases known

/-- **An opening mark of several characters** is not told apart from text. -/
theorem not_faithful_of_long : ¬ format.Faithful [] := by
  intro faithful
  have data := rowData_split opening digits apart
  obtain ⟨ring, taken⟩ : ∃ ring, ring = (Keyring.ofFormat format).takeAll [.output 2] := ⟨_, rfl⟩
  obtain ⟨outline, table, sketches, made, strings⟩ :=
    KeyFormat.Faithful.row (show (splitSettings format).format.Faithful [] from faithful)
      (show splitRow ⊆ rowLetters by decide) data rfl taken
  have key : ring.keyOf (.output 2) = format.key 1 := taken ▸ rfl
  have marks : outline.format = format := by
    rw [sketches.format, taken, Keyring.takeAll_format]
    rfl
  have entry : table.slotEntry ring 0 (.output 2) = "1" :=
    entry_row data marks sketches made (by decide) rfl (List.mem_of_getElem? (i := 2) rfl)
  have starts : outline.text.toList = (ring.keyOf (.output 2)).toList ++ (ring.keyOf (.output 2)).toList := by
    rw [Outline.text, sketches.fragments, fragmentsOf, textOf_joinLiterals]
    exact (textOf_split ring).trans (by rw [key])
  have opens : outline.format.opening.toList.head? = some first := by
    rw [marks, opening]
    rfl
  have different : '1' ≠ first := by
    rintro rfl
    cases digits '1' (opening ▸ List.mem_cons_self)
  have read := head?_row sketches made opens different (.output 2) (List.mem_singleton_self _)
    (entry ▸ rfl) (fun other mem unequal => absurd (congrArg _ (List.mem_singleton.1 mem)) unequal) starts
    strings
  have shown : (String.ofList (format.opening.toList.take 1)).toList.head? = some first := by
    rw [opening, String.toList_ofList]
    rfl
  have kept := head?_fillPieces_literal ring (table.slotEntry ring 0) shown
    (rowPieces (splitKey format) 1 5 ['c', 'b'])
  exact different (Option.some.inj (read.symm.trans kept))

end Long

/-! ### An opening mark of one character and a closing mark of digits -/

/-- **Digits are the digits of a number,** if the first of them is not zero. -/
theorem exists_toDigits {digits : List Char} (h : ∀ c ∈ digits, c.isDigit = true) :
    ∃ number, 1 ≤ number ∧ Nat.toDigits 10 number = '1' :: digits := by
  have digit : ∀ c : Char, c.isDigit = true → ∃ value < 10, Nat.digitChar value = c := by
    intro c hc
    have digits : ∀ value < 10, Nat.digitChar value = Char.ofNat (value + 48) := by decide
    rw [Char.isDigit, Bool.and_eq_true, decide_eq_true_eq, decide_eq_true_eq] at hc
    have least : 48 ≤ c.toNat := hc.1
    have most : c.toNat ≤ 57 := hc.2
    refine ⟨c.toNat - 48, by omega, ?_⟩
    rw [digits _ (by omega), Nat.sub_add_cancel least, Char.ofNat_toNat]
  induction digits using List.reverseRecOn with
  | nil => exact ⟨1, Nat.le_refl 1, rfl⟩
  | append_singleton digits last ih =>
    obtain ⟨own, others⟩ := List.forall_mem_append.1 h
    obtain ⟨number, pos, same⟩ := ih own
    obtain ⟨value, less, rfl⟩ := digit last (others last (List.mem_singleton_self _))
    refine ⟨10 * number + value, by omega, ?_⟩
    rw [← Nat.toDigits_append_toDigits (by omega) pos less, same, Nat.toDigits_of_lt_base less]
    rfl

/-- The outputs of a letter that is personal, one after the other. -/
theorem slotsIn_replicate {static : Char → Option String} {letter : Char} (personal : static letter = none)
    (id place count : Nat) :
    slotsIn (rowPieces static id place (List.replicate count letter)) =
      (List.range' id count).map .output := by
  induction count generalizing id place with
  | zero => rfl
  | succ count ih =>
    rw [List.replicate_succ, rowPieces, slotsIn_cons, ih, List.range'_succ, List.map_cons, personal]
    rfl

theorem mem_rowPieces_replicate {static : Char → Option String} {letter : Char}
    (personal : static letter = none) (id place : Nat) {count index : Nat} (less : index < count) :
    .part (.output (rowOutput letter (id + index) (place + 5 * index))) ∈
      rowPieces static id place (List.replicate count letter) := by
  induction count generalizing id place index with
  | zero => exact absurd less (Nat.not_lt_zero index)
  | succ count ih =>
    rw [List.replicate_succ, rowPieces, personal]
    cases index with
    | zero => exact List.mem_cons_self
    | succ index =>
      have later := ih (id + 1) (place + 5) (Nat.lt_of_succ_lt_succ less)
      rw [Nat.add_right_comm, Nat.add_assoc id, Nat.add_assoc place, Nat.add_comm 5] at later
      exact List.mem_cons_of_mem _ later

/-- What all share of the letter `a`: zero and the closing mark once more. -/
def longerKey (format : KeyFormat) (c : Char) : Option String :=
  if c = 'a' then some ("0" ++ format.closing) else none

/-- What a recipient has of the other letters: one, or nothing. -/
def longerValue (c : Char) : String := if c = 'b' then "1" else ""

/-- An output, text, and as many outputs more as there are to be. -/
def longerRow (count : Nat) : List Char := 'c' :: 'a' :: List.replicate count 'b'

theorem letter_longerRow {count : Nat} {letter : Char} (mem : letter ∈ longerRow count) :
    letter = 'c' ∨ letter = 'a' ∨ letter = 'b' := by
  rcases List.mem_cons.1 mem with rfl | mem
  · exact .inl rfl
  · exact .inr ((List.mem_cons.1 mem).imp_right fun mem => (List.mem_replicate.1 mem).2)

def longerSettings (format : KeyFormat) : Settings := ⟨false, some (.ofNames ["b", "c"]), format⟩

def longerShared (format : KeyFormat) : Render.Scope := ⟨[("a", .text ("0" ++ format.closing))]⟩

def longerRecipients : Recipients := ⟨[("b", [.text "1"]), ("c", [.text ""])]⟩

section Short

variable {format : KeyFormat} {mark : Char} (opening : format.opening.toList = [mark])
  (no_digit : mark.isDigit = false) (closing : ∀ c ∈ format.closing.toList, c.isDigit = true)

include opening no_digit closing

/-- **A key of digits** keeps a longer one, or one as long, at the start of a text. -/
theorem replaceFrom_key_kept {first second : Nat} (less : first ≤ second) (different : first ≠ second)
    (size : Text.size (format.key second) ≤ Text.size (format.key first)) (value rest : List Char) :
    ∃ more, replaceFrom (format.key first).toList value 0 ((format.key second).toList ++ rest) =
      (format.key second).toList ++ more := by
  have key : ∀ number, (format.key number).toList =
      mark :: (Nat.toDigits 10 number ++ format.closing.toList) := fun number => by
    rw [KeyFormat.toList_key, opening]
    rfl
  have lengths : (format.key first).toList.length ≤ (format.key second).toList.length := by
    have pos : 0 < (Nat.toDigits 10 second).length := Nat.length_toDigits_pos
    have bound := (Nat.length_toDigits_le_iff (by omega) pos).1 (Nat.le_refl _)
    have shorter := (Nat.length_toDigits_le_iff (by omega) pos).2 (Nat.lt_of_le_of_lt less bound)
    rw [key, key, List.length_cons, List.length_cons, List.length_append, List.length_append]
    omega
  have none : ¬ (format.key first).toList <+: (format.key second).toList ++ rest := by
    intro found
    obtain ⟨more, same⟩ := List.prefix_of_prefix_length_le found (List.prefix_append _ rest) lengths
    have sizes := congrArg Text.byteSize same
    rw [Text.byteSize_append] at sizes
    have nothing : more = [] := by
      cases more with
      | nil => rfl
      | cons c more =>
        have pos := c.utf8Size_pos
        rw [Text.byteSize_cons] at sizes
        unfold Text.size at size
        omega
    rw [nothing, List.append_nil] at same
    exact different (KeyFormat.key_injective (String.toList_inj.1 same))
  have apart : mark ∉ Nat.toDigits 10 second ++ format.closing.toList := by
    intro mem
    rcases List.mem_append.1 mem with mem | mem
    · rw [isDigit_of_mem_toDigits mem] at no_digit
      cases no_digit
    · rw [closing mark mem] at no_digit
      cases no_digit
  refine ⟨replaceFrom (format.key first).toList value 0 rest, ?_⟩
  rw [key second, key first] at none ⊢
  exact replaceFrom_kept rest none apart

omit closing in
/-- No text of digits holds the opening mark. -/
theorem not_contains_digits {text : String} (digits : ∀ c ∈ text.toList, c.isDigit = true) :
    Text.contains text format.opening = false := by
  refine Bool.eq_false_iff.2 fun found => ?_
  have inside := Text.contains_iff.1 found
  rw [opening] at inside
  have own := digits mark (inside.subset (List.mem_singleton_self _))
  rw [no_digit] at own
  cases own

theorem rowData_longer (count : Nat) :
    RowData format (longerRow count) (longerKey format) longerValue
      (rowEnv (longerSettings format) (longerShared format))
      ((rowEnv (longerSettings format) (longerShared format)).enter (longerRecipients.scope 0)) := by
  have clean := @not_contains_digits format mark opening no_digit
  refine ⟨rfl, fun letter mem none => ?_, fun letter mem text known => ?_⟩
  · rcases letter_longerRow mem with rfl | rfl | rfl
    · exact ⟨rfl, rfl, clean (by simp [longerValue])⟩
    · cases none
    · exact ⟨rfl, rfl, clean (by simp [longerValue])⟩
  · rcases letter_longerRow mem with rfl | rfl | rfl
    · cases known
    · obtain rfl := Option.some.inj known
      refine ⟨rfl, rfl, clean ?_, ?_⟩
      · rw [String.toList_append]
        exact List.forall_mem_append.2 ⟨by simp, closing⟩
      · simp
    · cases known

omit opening no_digit closing in
/-- The slots of the row are those of all outputs but the one of the letter `a`. -/
theorem slotsIn_longer (format : KeyFormat) (count : Nat) :
    slotsIn (rowPieces (longerKey format) 0 0 (longerRow count)) =
      .output 0 :: (List.range' 2 count).map .output :=
  congrArg (Slot.output 0 :: ·) (slotsIn_replicate rfl 2 10 count)

omit opening no_digit closing in
/-- **The keys of the row:** the first slot has the first number, and the last one the last. -/
theorem keys_longer {ring : Keyring} {count : Nat}
    (taken : ring = (Keyring.ofFormat format).takeAll
      (slotsIn (rowPieces (longerKey format) 0 0 (longerRow (count + 1))))) :
    ring.keyOf (.output 0) = format.key 1 ∧ ring.keyOf (.output (2 + count)) = format.key (count + 2) ∧
      ring.size = count + 2 := by
  have slots : slotsIn (rowPieces (longerKey format) 0 0 (longerRow (count + 1))) =
      .output 0 :: (List.range' 2 count).map .output ++ [.output (2 + count)] := by
    rw [slotsIn_longer, List.range'_1_concat, List.map_append]
    rfl
  have distinct : (.output 0 :: (List.range' 2 count).map .output ++ [.output (2 + count)] :
      List Slot).Nodup := by
    rw [← slots, slotsIn_longer]
    refine List.nodup_cons.2 ⟨fun mem => ?_, ?_⟩
    · obtain ⟨id, hid, same⟩ := List.mem_map.1 mem
      rw [Slot.output.inj same] at hid
      simp at hid
    · exact List.Nodup.map (fun _ _ same => Slot.output.inj same) List.nodup_range'
  rw [slots] at taken
  subst taken
  refine ⟨?_, ?_, ?_⟩
  · have first : ((Keyring.ofFormat format).take (.output 0)).2.keyOf (.output 0) = format.key 1 := rfl
    rw [← first]
    exact (Keyring.extends_takeAll _ _).keyOf (Keyring.has_take _ _)
  · rw [Keyring.keyOf_takeAll_concat (Keyring.regular_ofFormat format) distinct fun _ _ => rfl]
    simp [Keyring.ofFormat, Keyring.size]
  · rw [Keyring.size_takeAll distinct fun _ _ => rfl]
    simp [Keyring.ofFormat, Keyring.size]

omit opening no_digit closing in
/-- Every slot of the row is a placeholder. -/
theorem placeholderSlots_longer (format : KeyFormat) (count : Nat) :
    placeholderSlots (rowPieces (longerKey format) 0 0 (longerRow count)) =
      slotsIn (rowPieces (longerKey format) 0 0 (longerRow count)) := by
  refine List.filter_eq_self.2 fun slot mem => ?_
  rw [slotsIn_longer] at mem
  rcases List.mem_cons.1 mem with rfl | mem
  · rfl
  · obtain ⟨id, -, rfl⟩ := List.mem_map.1 mem
    rfl

omit opening no_digit closing in
/-- **The text of the row** starts like the key whose number goes on with the shared digits. -/
theorem textOf_longer {ring : Keyring} {count number : Nat} (first : ring.keyOf (.output 0) = format.key 1)
    (digits : Nat.toDigits 10 number = '1' :: (format.closing.toList ++ ['0'])) :
    ∃ rest, (textOf ((rowPieces (longerKey format) 0 0 (longerRow count)).map (Piece.fragment ring))).toList =
      (format.key number).toList ++ rest := by
  have row : rowPieces (longerKey format) 0 0 (longerRow count) =
      .part (.output (rowOutput 'c' 0 0)) :: .part (.literal ("0" ++ format.closing)) ::
        rowPieces (longerKey format) 2 10 (List.replicate count 'b') := rfl
  have one : Nat.toDigits 10 1 = ['1'] := rfl
  refine ⟨(textOf ((rowPieces (longerKey format) 2 10 (List.replicate count 'b')).map
    (Piece.fragment ring))).toList, ?_⟩
  rw [row, List.map_cons, List.map_cons, textOf, textOf, String.toList_append, String.toList_append]
  change (ring.keyOf (.output 0)).toList ++ (("0" ++ format.closing).toList ++ _) = _
  rw [first, KeyFormat.toList_key, KeyFormat.toList_key, one, digits, String.toList_append]
  simp only [List.append_assoc, List.cons_append, List.nil_append]
  rfl

omit opening no_digit in
/-- **A number that the shared digits go on to** from the first one. -/
theorem exists_number_longer :
    ∃ count, Nat.toDigits 10 (count + 2) = '1' :: (format.closing.toList ++ ['0']) := by
  obtain ⟨number, pos, digits⟩ := exists_toDigits
    (List.forall_mem_append.2 ⟨closing, List.forall_mem_singleton.2 (show '0'.isDigit = true from rfl)⟩)
  have several : number ≠ 1 := by
    rintro rfl
    have one : Nat.toDigits 10 1 = ['1'] := rfl
    have length := congrArg List.length digits
    rw [one, List.length_cons, List.length_cons, List.length_append] at length
    simp at length
  refine ⟨number - 2, ?_⟩
  rwa [show number - 2 + 2 = number by omega]

/-- **The last key of the row** is kept by all others that are as long. -/
theorem kept_longer {ring : Keyring} {count : Nat} {pieces : List Piece} (regular : ring.Regular)
    (marks : ring.format = format) (size : ring.size = count + 2) {last : Slot}
    (last_key : ring.keyOf last = format.key (count + 2)) (keyed : Keyed ring pieces) {other : Slot}
    (mem : other ∈ placeholderSlots pieces) (unequal : ring.keyOf other ≠ ring.keyOf last)
    (longer : Text.size (ring.keyOf last) ≤ Text.size (ring.keyOf other)) (value rest : List Char) :
    ∃ more, replaceFrom (ring.keyOf other).toList value 0 ((ring.keyOf last).toList ++ rest) =
      (ring.keyOf last).toList ++ more := by
  have has := keyed.has other (mem_placeholderSlots.1 mem).1
  have below : ring.numberOf other ≤ count + 2 :=
    size ▸ (regular.numbered.number has.find?).2.1
  rw [regular.keyOf_eq has, marks, last_key] at unequal longer ⊢
  exact replaceFrom_key_kept opening no_digit closing below
    (fun same => unequal (congrArg format.key same)) longer value rest

/-- **A closing mark of digits** is not told apart from text. -/
theorem not_faithful_of_short : ¬ format.Faithful [] := by
  intro faithful
  obtain ⟨count, digits⟩ := exists_number_longer closing
  have data := rowData_longer opening no_digit closing (count + 1)
  have known : longerRow (count + 1) ⊆ rowLetters := by
    intro letter mem
    rcases letter_longerRow mem with rfl | rfl | rfl <;> decide
  obtain ⟨ring, taken⟩ : ∃ ring, ring = (Keyring.ofFormat format).takeAll
      (slotsIn (rowPieces (longerKey format) 0 0 (longerRow (count + 1)))) := ⟨_, rfl⟩
  obtain ⟨outline, table, sketches, made, strings⟩ :=
    KeyFormat.Faithful.row (show (longerSettings format).format.Faithful [] from faithful) known data
      rfl taken
  obtain ⟨first_key, last_key, size⟩ := keys_longer taken
  have ring_marks : ring.format = format := by
    rw [taken, Keyring.takeAll_format]
    rfl
  have marks := sketches.format.trans ring_marks
  have last_mem : .output (2 + count) ∈
      placeholderSlots (rowPieces (longerKey format) 0 0 (longerRow (count + 1))) := by
    rw [placeholderSlots_longer, slotsIn_longer, List.range'_1_concat, List.map_append]
    simp
  have first_entry : table.slotEntry ring 0 (.output (rowOutput 'c' 0 0).id) = "" :=
    entry_row data marks sketches made List.mem_cons_self rfl List.mem_cons_self
  have last_entry : table.slotEntry ring 0 (.output (2 + count)) = "1" :=
    entry_row data marks sketches made (by simp [longerRow]) rfl (List.mem_cons_of_mem _
      (List.mem_cons_of_mem _ (mem_rowPieces_replicate rfl 2 10 (Nat.lt_succ_self count))))
  obtain ⟨rest, starts⟩ : ∃ rest,
      outline.text.toList = (ring.keyOf (.output (2 + count))).toList ++ rest := by
    rw [Outline.text, sketches.fragments, fragmentsOf, textOf_joinLiterals, last_key]
    exact textOf_longer first_key digits
  have different : '1' ≠ mark := by
    rintro rfl
    cases no_digit
  have opens : outline.format.opening.toList.head? = some mark := by
    rw [marks, opening]
    rfl
  have read := head?_row sketches made opens different (.output (2 + count)) last_mem
    (last_entry ▸ rfl) (fun other mem unequal longer => kept_longer opening no_digit closing
      sketches.regular ring_marks size last_key sketches.keyed mem unequal longer) starts strings
  -- The row itself goes on with the shared zero, since its first output shows nothing.
  have row : rowPieces (longerKey format) 0 0 (longerRow (count + 1)) =
      .part (.output (rowOutput 'c' 0 0)) :: .part (.literal ("0" ++ format.closing)) ::
        rowPieces (longerKey format) 2 10 (List.replicate (count + 1) 'b') := rfl
  have zero : ("0" ++ format.closing).toList.head? = some '0' := by
    rw [String.toList_append]
    rfl
  rw [row, fillPieces, fillPiece, fillPart, first_entry, Filled.nil_andThen,
    head?_fillPieces_literal _ _ zero] at read
  cases read

end Short

/-! ### Faithful formats -/

/-- **What checking the marks of keys ensures:** the opening one has a character, and
none of its characters is a digit. -/
theorem opening_of_check {settings : Settings} (checked : settings.check = .ok ()) :
    settings.format.opening.toList ≠ [] ∧ ∀ c ∈ settings.format.opening.toList, c.isDigit = false := by
  unfold Settings.check at checked
  dsimp only at checked
  split at checked
  · cases checked
  · rename_i nonempty
    split at checked
    · cases checked
    · rename_i digits
      refine ⟨fun empty => nonempty ?_, fun c mem => ?_⟩
      · rw [String.isEmpty_iff]
        exact String.toList_inj.1 empty
      · exact Bool.eq_false_iff.2 fun digit => digits (List.any_eq_true.2 ⟨c, mem, digit⟩)

/-- **Which key formats are faithful.** Of those that pass the check of settings, replacing
keys expands outlines with every format that tells keys apart, whatever keys have been
handed out before: where faults cannot hold the opening mark always, and elsewhere as long
as they do not. Unless the closing mark holds the opening one, no other format is faithful:
some row of outputs has a text in which a key is found where none was put. -/
theorem KeyFormat.faithful_of_check {settings : Settings} (checked : settings.check = .ok ()) :
    (settings.format.Separable → ∀ known, settings.format.Faithful known) ∧
      (settings.format.Hidden → ∀ known, settings.format.AlwaysFaithful known) ∧
        (Text.contains settings.format.closing settings.format.opening = false →
          settings.format.Faithful [] → settings.format.Separable) := by
  refine ⟨fun separable => separable.faithful, fun hidden => hidden.alwaysFaithful,
    fun apart faithful => ?_⟩
  obtain ⟨nonempty, digits⟩ := opening_of_check checked
  match opening : settings.format.opening.toList with
  | [] => exact absurd opening nonempty
  | first :: second :: others => exact absurd faithful (not_faithful_of_long opening digits apart)
  | [mark] =>
    have no_digit : mark.isDigit = false := digits mark (opening ▸ List.mem_cons_self)
    have single : settings.format.opening = String.singleton mark := by
      rw [← String.toList_inj, opening, String.toList_singleton]
    have closing_clean : mark ∉ settings.format.closing.toList := by
      intro mem
      obtain ⟨before, after, same⟩ := List.append_of_mem mem
      have inside : settings.format.opening.toList <:+: settings.format.closing.toList :=
        ⟨before, after, by rw [opening, same, List.append_assoc]; rfl⟩
      exact Bool.false_ne_true (apart.symm.trans (Text.contains_iff.2 inside))
    cases closing : settings.format.closing.toList.any fun c => !c.isDigit with
    | true => exact ⟨mark, single, no_digit, closing, harmless_of_not_mem closing_clean⟩
    | false =>
      refine absurd faithful (not_faithful_of_short opening no_digit fun c mem => ?_)
      have digit := List.any_eq_false.1 closing c mem
      rwa [Bool.not_eq_true, Bool.not_eq_false'] at digit

/-- The standard marks are always faithful. Two angle brackets pass the check and are not. -/
theorem KeyFormat.faithful_of_check_brackets :
    let brackets : Settings := { Settings.standard with format := ⟨"<<", ">>"⟩ }
    Settings.standard.check = .ok () ∧ (∀ known, Settings.standard.format.AlwaysFaithful known) ∧
      brackets.check = .ok () ∧ ¬ brackets.format.Faithful [] := by
  intro brackets
  have standard : Settings.standard.check = .ok () := by decide +kernel
  have accepted : brackets.check = .ok () := by decide +kernel
  refine ⟨standard, (faithful_of_check standard).2.1 hidden_standard, accepted, fun faithful => ?_⟩
  obtain ⟨mark, separable⟩ := (faithful_of_check accepted).2.2 (by decide +kernel) faithful
  have opening : ("<<" : String) = String.singleton mark := separable.opening
  have chars := congrArg String.toList opening
  rw [String.toList_singleton] at chars
  cases chars

end Outline
end MailMerge
