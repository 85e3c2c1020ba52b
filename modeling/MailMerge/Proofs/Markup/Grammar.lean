/-
# The longest lexeme

A lexeme is written in one of these ways:

| lexeme | written |
| --- | --- |
| keyword, sign | as it stands in `keywords` or `signs` |
| name | a letter or low line, then letters, digits, low lines and dashes, then at most one question mark, and no keyword |
| text | a quote, anything but that quote, the quote |
| whole number | at most one minus and digits, as far as 64 bits hold the number |
| double | at most one minus, digits, a point and digits |

Several texts of this kind can start at one place: `a` and `and`, `1` and `1.5`, `<` and `<=`. The
longest of them counts, and it is the only one (`Longest.unique`), since a text stands for at most one
lexeme (`Spelled.functional`).

There is none in three cases: no such text starts there, a quote is never closed, or the longest is a
whole number that is too large.
-/

import MailMerge.Proofs.Markup.Locality

namespace MailMerge
namespace Markup

/-! ### How lexemes are written -/

/-- The words that are not names. -/
def keywords : List (String × Lexeme) := [
  ("and", .and), ("or", .or), ("contains", .contains), ("true", .trueWord), ("false", .falseWord),
  ("nil", .nilWord), ("null", .nilWord)]

/-- The lexemes of one or two signs. -/
def signs : List (String × Lexeme) := [
  ("==", .eq), ("!=", .ne), ("<>", .ne), ("<=", .le), (">=", .ge), ("<", .lt), (">", .gt),
  ("|", .pipe), (":", .colon), (",", .comma), (".", .dot), ("[", .openBracket), ("]", .closeBracket)]

/-- **A word:** it starts like a name, goes on like a name, and may end with a question mark. -/
structure Word (c : Char) (body mark : List Char) : Prop where
  start : isNameStart c = true
  body : ∀ d ∈ body, isNameChar d = true
  mark : mark = [] ∨ mark = ['?']

/-- Digits, at least one. -/
structure Digits (digits : List Char) : Prop where
  nonempty : digits ≠ []
  all : ∀ d ∈ digits, Decimal.isDigit d = true

/-- The minus of a negative number. -/
def minus (negative : Bool) : List Char := if negative then ['-'] else []

/-- **How lexemes are written:** the texts that have the form of a lexeme, each with the lexeme it
stands for. A whole number that 64 bits do not hold has the form of a lexeme and stands for none. -/
inductive Spelled : List Char → Option Lexeme → Prop
  | keyword {text : String} {lexeme : Lexeme} (mem : (text, lexeme) ∈ keywords) :
      Spelled text.toList (some lexeme)
  | sign {text : String} {lexeme : Lexeme} (mem : (text, lexeme) ∈ signs) :
      Spelled text.toList (some lexeme)
  | name {c : Char} {body mark : List Char} (word : Word c body mark)
      (free : ∀ entry ∈ keywords, entry.1.toList ≠ c :: (body ++ mark)) :
      Spelled (c :: (body ++ mark)) (some (.name (String.ofList (c :: (body ++ mark)))))
  | text {quote : Char} {body : List Char} (quoted : quote = '"' ∨ quote = '\'')
      (inside : ∀ c ∈ body, c ≠ quote) :
      Spelled (quote :: (body ++ [quote])) (some (.text (String.ofList body)))
  | whole (negative : Bool) {digits : List Char} (number : Digits digits) :
      Spelled (minus negative ++ digits) ((Decimal.readInt? (minus negative ++ digits)).map .int)
  | double (negative : Bool) {whole fraction : List Char} (front : Digits whole)
      (back : Digits fraction) :
      Spelled (minus negative ++ (whole ++ '.' :: fraction))
        ((Decimal.readFloat? (minus negative ++ (whole ++ '.' :: fraction))).map .float)

/-- **The longest lexeme** in front of a text: it is written as one, it stands there, and no longer
text in front is written as a lexeme. -/
structure Longest (cs text : List Char) (lexeme : Option Lexeme) : Prop where
  spelled : Spelled text lexeme
  stands : text <+: cs
  longest : ∀ other lexeme', Spelled other lexeme' → other <+: cs → other.length ≤ text.length

/-- **Where no lexeme can be taken,** and what is refused there: a character that starts none, all
from a quote that is not closed, or a whole number that is too large. -/
inductive Blocked : List Char → List Char → Prop
  | foreign {c : Char} {rest : List Char}
      (none : ∀ text lexeme, Spelled text lexeme → ¬text <+: c :: rest) : Blocked (c :: rest) [c]
  | unclosed {quote : Char} {rest : List Char} (quoted : quote = '"' ∨ quote = '\'')
      (inside : ∀ c ∈ rest, c ≠ quote) : Blocked (quote :: rest) (quote :: rest)
  | outOfRange (negative : Bool) {digits rest : List Char} (number : Digits digits)
      (large : Decimal.readInt? (minus negative ++ digits) = none)
      (longest : Longest (minus negative ++ digits ++ rest) (minus negative ++ digits) none) :
      Blocked (minus negative ++ digits ++ rest) (minus negative ++ digits)

/-! ### Numbers are read from their texts -/

section

variable {negative : Bool} {digits whole fraction : List Char}

theorem isDigit_ne_minus {c : Char} (h : Decimal.isDigit c = true) : c ≠ '-' := by
  rintro rfl
  revert h
  decide

theorem Digits.exists_cons (h : Digits digits) :
    ∃ c rest, digits = c :: rest ∧ Decimal.isDigit c = true := by
  obtain ⟨c, rest, rfl⟩ := List.exists_cons_of_ne_nil h.nonempty
  exact ⟨c, rest, rfl, h.all c List.mem_cons_self⟩

/-- The minus is split off digits and what follows them. -/
theorem splitSign_minus (h : Digits digits) (negative : Bool) (more : List Char) :
    Decimal.splitSign (minus negative ++ (digits ++ more)) = (negative, digits ++ more) := by
  obtain ⟨c, rest, rfl, digit⟩ := h.exists_cons
  cases negative with
  | true => rfl
  | false =>
    have plus : c ≠ '+' := by
      rintro rfl
      revert digit
      decide
    simp only [minus, Bool.false_eq_true, if_false, List.nil_append, List.cons_append]
    unfold Decimal.splitSign
    split
    · rename_i same
      exact (isDigit_ne_minus digit (List.cons.inj same).1).elim
    · rename_i same
      exact (plus (List.cons.inj same).1).elim
    · rfl

/-- **The text of a whole number is read as that number,** if it is in range. -/
theorem Digits.readInt? (h : Digits digits) (negative : Bool) :
    Decimal.readInt? (minus negative ++ digits) = Decimal.word? (Decimal.signed negative digits) := by
  have split := splitSign_minus h negative []
  have nonempty : digits.isEmpty = false := by simpa using h.nonempty
  have all : digits.all Decimal.isDigit = true := List.all_eq_true.2 h.all
  rw [List.append_nil] at split
  rw [Decimal.readInt?, split]
  simp [nonempty, all]

/-- Digits do not start a word for a double. -/
theorem lowerAscii_digit {c : Char} (h : Decimal.isDigit c = true) :
    Decimal.lowerAscii c ≠ 'i' ∧ Decimal.lowerAscii c ≠ 'n' := by
  have low : c ≤ '9' := by
    simp only [Decimal.isDigit, Bool.and_eq_true, decide_eq_true_eq] at h
    exact h.2
  have no_capital : ¬('A' ≤ c) := fun high => absurd (Char.le_trans high low) (by decide)
  have same : Decimal.lowerAscii c = c := by simp [Decimal.lowerAscii, no_capital]
  rw [same]
  exact ⟨fun own => by subst own; revert h; decide, fun own => by subst own; revert h; decide⟩

/-- **The text of a double is read as the nearest double.** -/
theorem Digits.readFloat? (h : Digits whole) (h' : Digits fraction) (negative : Bool) :
    Decimal.readFloat? (minus negative ++ (whole ++ '.' :: fraction)) =
      some (Decimal.nearest negative (Decimal.digitsValue (whole ++ fraction)) (-fraction.length)) := by
  have split := splitSign_minus h negative ('.' :: fraction)
  have point : Decimal.isDigit '.' = false := rfl
  have front := span_run_cons h.all point fraction
  have ends : ∀ c ∈ ([] : List Char).head?, Decimal.isDigit c = false := fun _ none => nomatch none
  have back := span_run h'.all ends
  rw [List.append_nil] at back
  have parts : Decimal.splitNumeral (whole ++ '.' :: fraction) = (whole, fraction, []) := by
    unfold Decimal.splitNumeral
    rw [front.1, front.2]
    simp only [back.1, back.2]
  have nonempty : whole.isEmpty = false := by simpa using h.nonempty
  obtain ⟨c, rest, rfl, digit⟩ := h.exists_cons
  obtain ⟨no_i, no_n⟩ := lowerAscii_digit digit
  rw [List.cons_append] at parts
  rw [Decimal.readFloat?, split]
  simp [no_i, no_n, parts, Decimal.readExponent?]

end

/-! ### What a lexeme starts with -/

/-- The kinds of written forms, told apart by the first character. -/
inductive Kind where
  | word
  | number
  | quoted
  | sign
deriving DecidableEq

/-- The kind of what starts with a character. -/
def kindOf (c : Char) : Kind :=
  if isNameStart c then .word
  else if Decimal.isDigit c || c == '-' then .number
  else if c == '"' || c == '\'' then .quoted
  else .sign

/-- What may stand behind the digits of a whole number: nothing, or a point and digits. -/
def Fraction (more : List Char) : Prop := more = [] ∨ ∃ fraction, more = '.' :: fraction ∧ Digits fraction

/-- **The form of a kind.** -/
def Kind.Form (text : List Char) : Kind → Prop
  | .word => ∃ c body mark, text = c :: (body ++ mark) ∧ Word c body mark
  | .number => ∃ negative digits more, text = minus negative ++ (digits ++ more) ∧ Digits digits ∧
      Fraction more
  | .quoted => ∃ quote body, text = quote :: (body ++ [quote]) ∧ ∀ c ∈ body, c ≠ quote
  | .sign => ∃ entry ∈ signs, text = entry.1.toList

/-- **What a text of a kind stands for.** -/
def Kind.lexeme (text : List Char) : Kind → Option Lexeme
  | .word => some (ofWord (String.ofList text))
  | .number =>
    if '.' ∈ text then (Decimal.readFloat? text).map .float else (Decimal.readInt? text).map .int
  | .quoted => some (.text (String.ofList text.tail.dropLast))
  | .sign => (signs.find? fun entry => entry.1.toList = text).map (·.2)

theorem isNameStart_of_isDigit {c : Char} (h : Decimal.isDigit c = true) : isNameStart c = false := by
  have low : c ≤ '9' := by
    simp only [Decimal.isDigit, Bool.and_eq_true, decide_eq_true_eq] at h
    exact h.2
  have no_capital : ¬('A' ≤ c) := fun high => absurd (Char.le_trans high low) (by decide)
  have no_letter : ¬('a' ≤ c) := fun high => absurd (Char.le_trans high low) (by decide)
  have no_line : c ≠ '_' := fun same => by subst same; revert h; decide
  simp [isNameStart, no_capital, no_letter, no_line]

theorem kindOf_digit {c : Char} (h : Decimal.isDigit c = true) : kindOf c = .number := by
  simp [kindOf, isNameStart_of_isDigit h, h]

theorem kindOf_quote {c : Char} (h : c = '"' ∨ c = '\'') : kindOf c = .quoted := by
  rcases h with rfl | rfl <;> rfl

/-- Every keyword has the form of a name. -/
theorem word_of_keyword {entry : String × Lexeme} (mem : entry ∈ keywords) :
    ∃ c body, entry.1.toList = c :: body ∧ Word c body [] := by
  have shapes : ∀ entry ∈ keywords, entry.1.toList.head?.any isNameStart = true ∧
      entry.1.toList.tail.all isNameChar = true := by decide
  obtain ⟨start, body⟩ := shapes entry mem
  cases text : entry.1.toList with
  | nil => rw [text] at start; cases start
  | cons c rest =>
    rw [text] at start body
    exact ⟨c, rest, rfl, start, List.all_eq_true.1 body, .inl rfl⟩

/-- A sign starts with no character of the other kinds. -/
theorem first_of_sign {entry : String × Lexeme} (mem : entry ∈ signs) :
    ∃ c rest, entry.1.toList = c :: rest ∧ kindOf c = .sign := by
  have firsts : ∀ entry ∈ signs, entry.1.toList.head?.map kindOf = some .sign := by decide
  have first := firsts entry mem
  cases text : entry.1.toList with
  | nil => rw [text] at first; cases first
  | cons c rest =>
    rw [text] at first
    exact ⟨c, rest, rfl, Option.some.inj first⟩

/-- Minus and digits start like a number. -/
theorem first_of_number {digits : List Char} (number : Digits digits) (negative : Bool)
    (more : List Char) : ∃ c rest, minus negative ++ (digits ++ more) = c :: rest ∧ kindOf c = .number := by
  obtain ⟨c, rest, rfl, digit⟩ := number.exists_cons
  cases negative with
  | true => exact ⟨'-', c :: rest ++ more, rfl, rfl⟩
  | false => exact ⟨c, rest ++ more, rfl, kindOf_digit digit⟩

/-- A word is one of the keywords, or a name if it is none of them. -/
theorem ofWord_cases (word : String) : (∃ lexeme, (word, lexeme) ∈ keywords ∧ ofWord word = lexeme) ∨
    ((∀ entry ∈ keywords, entry.1 ≠ word) ∧ ofWord word = .name word) := by
  unfold ofWord
  split_ifs with and or contains true' false' nil'
  · exact .inl ⟨.and, by simp [keywords, and], rfl⟩
  · exact .inl ⟨.or, by simp [keywords, or], rfl⟩
  · exact .inl ⟨.contains, by simp [keywords, contains], rfl⟩
  · exact .inl ⟨.trueWord, by simp [keywords, true'], rfl⟩
  · exact .inl ⟨.falseWord, by simp [keywords, false'], rfl⟩
  · exact .inl ⟨.nilWord, by simpa [keywords] using nil', rfl⟩
  · refine .inr ⟨fun entry mem same => ?_, rfl⟩
    simp [keywords] at mem
    rcases mem with rfl | rfl | rfl | rfl | rfl | rfl | rfl <;> simp_all

theorem ofWord_keyword {entry : String × Lexeme} (mem : entry ∈ keywords) : ofWord entry.1 = entry.2 := by
  simp only [keywords, List.mem_cons, List.not_mem_nil, or_false] at mem
  rcases mem with rfl | rfl | rfl | rfl | rfl | rfl | rfl <;> rfl

theorem ofWord_name {word : String} (free : ∀ entry ∈ keywords, entry.1 ≠ word) :
    ofWord word = .name word := by
  rcases ofWord_cases word with ⟨lexeme, mem, -⟩ | ⟨-, name⟩
  · exact (free _ mem rfl).elim
  · exact name

theorem lexeme_sign {entry : String × Lexeme} (mem : entry ∈ signs) :
    Kind.sign.lexeme entry.1.toList = some entry.2 := by
  simp only [signs, List.mem_cons, List.not_mem_nil, or_false] at mem
  rcases mem with rfl | rfl | rfl | rfl | rfl | rfl | rfl | rfl | rfl | rfl | rfl | rfl | rfl <;> rfl

/-- Digits after a minus hold no point. -/
theorem point_not_mem {digits : List Char} (number : Digits digits) (negative : Bool) :
    '.' ∉ minus negative ++ digits := by
  intro mem
  rcases List.mem_append.1 mem with sign | digit
  · cases negative <;> simp [minus] at sign
  · exact absurd (number.all _ digit) (by decide)

/-- **What is written as a lexeme has the form of its first character's kind,** and stands for what
texts of that kind stand for. -/
theorem Spelled.exists_form {text : List Char} {lexeme : Option Lexeme} (h : Spelled text lexeme) :
    ∃ c rest, text = c :: rest ∧ (kindOf c).Form text ∧ lexeme = (kindOf c).lexeme text := by
  cases h with
  | keyword mem =>
    obtain ⟨c, body, same, word⟩ := word_of_keyword mem
    have kind : kindOf c = .word := if_pos word.start
    refine ⟨c, body, same, ?_, ?_⟩
    · rw [kind]
      exact ⟨c, body, [], by rw [List.append_nil]; exact same, word⟩
    · rw [kind, Kind.lexeme, String.ofList_toList, ofWord_keyword mem]
  | sign mem =>
    obtain ⟨c, rest, same, kind⟩ := first_of_sign mem
    refine ⟨c, rest, same, ?_, ?_⟩
    · rw [kind]
      exact ⟨_, mem, rfl⟩
    · rw [kind]
      exact (lexeme_sign mem).symm
  | name word free =>
    rename_i c body mark
    have kind : kindOf c = .word := if_pos word.start
    refine ⟨c, body ++ mark, rfl, ?_, ?_⟩
    · rw [kind]
      exact ⟨c, body, mark, rfl, word⟩
    · rw [kind, Kind.lexeme, ofWord_name]
      rintro entry mem same
      exact free entry mem (by rw [same, String.toList_ofList])
  | text quoted inside =>
    rename_i quote body
    refine ⟨quote, body ++ [quote], rfl, ?_, ?_⟩
    · rw [kindOf_quote quoted]
      exact ⟨quote, body, rfl, inside⟩
    · rw [kindOf_quote quoted, Kind.lexeme, List.tail_cons, List.dropLast_concat]
  | whole negative number =>
    rename_i digits
    obtain ⟨c, rest, same, kind⟩ := first_of_number number negative []
    rw [List.append_nil] at same
    refine ⟨c, rest, same, ?_, ?_⟩
    · rw [kind]
      exact ⟨negative, digits, [], by rw [List.append_nil], number, .inl rfl⟩
    · rw [kind, Kind.lexeme, if_neg (point_not_mem number negative)]
  | double negative front back =>
    rename_i whole fraction
    obtain ⟨c, rest, same, kind⟩ := first_of_number front negative ('.' :: fraction)
    refine ⟨c, rest, same, ?_, ?_⟩
    · rw [kind]
      exact ⟨negative, whole, '.' :: fraction, rfl, front, .inr ⟨fraction, rfl, back⟩⟩
    · rw [kind, Kind.lexeme, if_pos (by simp)]

section

variable {cs text other : List Char} {lexeme lexeme' : Option Lexeme}

theorem Spelled.ne_nil (h : Spelled text lexeme) : text ≠ [] := by
  obtain ⟨c, rest, rfl, -⟩ := h.exists_form
  exact List.cons_ne_nil _ _

/-- **A text stands for one lexeme.** -/
theorem Spelled.functional (h : Spelled text lexeme) (h' : Spelled text lexeme') : lexeme = lexeme' := by
  obtain ⟨c, rest, rfl, -, own⟩ := h.exists_form
  obtain ⟨d, rest', same, -, own'⟩ := h'.exists_form
  obtain ⟨rfl, -⟩ := List.cons.inj same
  rw [own, own']

/-- **What stands in front of a text** has the form of the text's first character. -/
theorem Spelled.form_of_prefix {c : Char} (h : Spelled text lexeme) (stands : text <+: c :: cs) :
    (kindOf c).Form text := by
  obtain ⟨d, rest, rfl, form, -⟩ := h.exists_form
  obtain ⟨rfl, -⟩ := List.cons_prefix_cons.1 stands
  exact form

/-- **One lexeme is the longest.** -/
theorem Longest.unique (h : Longest cs text lexeme) (h' : Longest cs other lexeme') :
    text = other ∧ lexeme = lexeme' := by
  have lengths := Nat.le_antisymm (h'.longest _ _ h.spelled h.stands) (h.longest _ _ h'.spelled h'.stands)
  have inside := List.prefix_of_prefix_length_le h.stands h'.stands (Nat.le_of_eq lengths)
  obtain rfl := inside.eq_of_length lengths
  exact ⟨rfl, h.spelled.functional h'.spelled⟩

/-- The longest lexeme is the longest in any shorter text that it stands in front of. -/
theorem Longest.shorten (front : List Char) {rest : List Char}
    (h : Longest (text ++ (front ++ rest)) text lexeme) : Longest (text ++ front) text lexeme := by
  refine ⟨h.spelled, List.prefix_append _ _, fun other _ spelled stands => h.longest _ _ spelled ?_⟩
  rw [← List.append_assoc]
  exact stands.trans (List.prefix_append _ _)

/-- **Where no lexeme can be taken,** none is the longest. -/
theorem Blocked.not_longest {part : List Char} (h : Blocked cs part) (lexeme : Lexeme) :
    ¬Longest cs text (some lexeme) := by
  intro longest
  cases h with
  | foreign none => exact none _ _ longest.spelled longest.stands
  | unclosed quoted inside =>
    have form := longest.spelled.form_of_prefix longest.stands
    rw [kindOf_quote quoted] at form
    obtain ⟨quote', body, rfl, -⟩ := form
    obtain ⟨rfl, behind⟩ := List.cons_prefix_cons.1 longest.stands
    exact inside quote' (behind.subset (by simp)) rfl
  | outOfRange negative number large blocked =>
    cases (longest.unique blocked).2

/-- What cannot be taken stands in front. -/
theorem Blocked.stands {part : List Char} (h : Blocked cs part) : part <+: cs := by
  cases h with
  | foreign => exact ⟨_, rfl⟩
  | unclosed => exact List.prefix_refl _
  | outOfRange => exact List.prefix_append _ _

theorem Blocked.ne_nil {part : List Char} (h : Blocked cs part) : part ≠ [] := by
  cases h with
  | foreign | unclosed => exact List.cons_ne_nil _ _
  | outOfRange negative number large blocked => exact blocked.spelled.ne_nil

end

end Markup
end MailMerge
