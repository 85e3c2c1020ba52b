/-
# The longest lexeme is found

At every place the scan finds what the grammar says is the longest lexeme, or refuses what cannot be
taken (`right_scan`). The first character tells which form a lexeme has, and so which run decides
how long it is:

| form | the longest |
| --- | --- |
| word | all characters a name goes on with, and a question mark behind them |
| text | up to the first closing quote |
| number | all digits, and a point and all digits behind it if there is one |
| sign | two characters before one |
-/

import MailMerge.Proofs.Markup.Grammar

namespace MailMerge
namespace Markup

/-- **The scan is right:** the lexeme that is found is the longest, and what is refused cannot be
taken. -/
def Scanned.Right (cs : List Char) : Scanned → Prop
  | .lexeme found length => ∃ text, length = text.length ∧ Longest cs text (some found)
  | .refused length => ∃ part, length = part.length ∧ Blocked cs part

/-! ### Runs in front of a text -/

section

variable {p : Char → Bool} {c : Char} {run rest cs : List Char}

/-- A run in front of a text is no longer than the longest. -/
theorem length_le_of_run (all : ∀ d ∈ run, p d = true) (stands : run <+: cs) :
    run.length ≤ (cs.takeWhile p).length := by
  obtain ⟨rest, rfl⟩ := stands
  rw [List.takeWhile_append_of_pos all, List.length_append]
  exact Nat.le_add_right _ _

/-- A run that ends in front of a text is the longest. -/
theorem eq_of_run (all : ∀ d ∈ run, p d = true) (stop : p c = false)
    (stands : run ++ c :: rest <+: cs) :
    cs.takeWhile p = run ∧ ∃ more, cs.dropWhile p = c :: (rest ++ more) := by
  obtain ⟨more, rfl⟩ := stands
  have span := span_run_cons all stop (rest ++ more)
  rw [List.append_assoc, List.cons_append]
  exact ⟨span.1, more, span.2⟩

end

/-! ### Words -/

section

variable {c : Char} {cs : List Char}

theorem Word.spelled {body mark : List Char} (word : Word c body mark) :
    Spelled (c :: (body ++ mark)) (some (ofWord (String.ofList (c :: (body ++ mark))))) := by
  rcases ofWord_cases (String.ofList (c :: (body ++ mark))) with ⟨lexeme, mem, own⟩ | ⟨free, own⟩
  · have spelled := Spelled.keyword mem
    rwa [String.toList_ofList, ← own] at spelled
  · rw [own]
    refine .name word fun entry mem same => free entry mem ?_
    rw [← same, String.ofList_toList]

/-- What starts like a name is written as a word. -/
theorem Spelled.exists_word {text : List Char} {lexeme : Option Lexeme} (spelled : Spelled text lexeme)
    (stands : text <+: c :: cs) (start : isNameStart c = true) :
    ∃ body mark, text = c :: (body ++ mark) ∧ Word c body mark ∧ body ++ mark <+: cs := by
  have form := spelled.form_of_prefix stands
  rw [kindOf, if_pos start] at form
  obtain ⟨d, body, mark, rfl, word⟩ := form
  obtain ⟨rfl, behind⟩ := List.cons_prefix_cons.1 stands
  exact ⟨body, mark, rfl, word, behind⟩

/-- **A word is scanned to its end.** -/
theorem right_scanWord (start : isNameStart c = true) (cs : List Char) :
    (scanWord c cs).Right (c :: cs) := by
  have run : ∀ d ∈ cs.takeWhile isNameChar, isNameChar d = true := fun _ => List.mem_takeWhile_imp
  have whole := List.takeWhile_append_dropWhile (p := isNameChar) (l := cs)
  unfold scanWord
  dsimp only
  split
  · rename_i after question
    have word : Word c (cs.takeWhile isNameChar) ['?'] := ⟨start, run, .inr rfl⟩
    refine ⟨c :: (cs.takeWhile isNameChar ++ ['?']), by simp, word.spelled, ?_, ?_⟩
    · refine List.cons_prefix_cons.2 ⟨rfl, after, ?_⟩
      rw [List.append_assoc, List.singleton_append, ← question, whole]
    · intro other _ spelled stands
      obtain ⟨body, mark, rfl, word, behind⟩ := spelled.exists_word stands start
      have inside := length_le_of_run word.body ((List.prefix_append _ _).trans behind)
      rcases word.mark with rfl | rfl <;> simp <;> omega
  · rename_i no_question
    have word : Word c (cs.takeWhile isNameChar) [] := ⟨start, run, .inl rfl⟩
    have spelled := word.spelled
    rw [List.append_nil] at spelled
    refine ⟨_, rfl, spelled, List.cons_prefix_cons.2 ⟨rfl, List.takeWhile_prefix _⟩, ?_⟩
    intro other _ spelled stands
    obtain ⟨body, mark, rfl, word, behind⟩ := spelled.exists_word stands start
    rcases word.mark with rfl | rfl
    · simpa using length_le_of_run word.body ((List.prefix_append _ _).trans behind)
    · obtain ⟨-, more, question⟩ := eq_of_run word.body (c := '?') rfl behind
      exact (no_question _ question).elim

end

/-! ### Texts -/

/-- What starts with a quote is a text between quotes. -/
theorem Spelled.exists_quoted {quote : Char} {cs text : List Char} {lexeme : Option Lexeme}
    (spelled : Spelled text lexeme) (stands : text <+: quote :: cs)
    (quoted : quote = '"' ∨ quote = '\'') :
    ∃ body, text = quote :: (body ++ [quote]) ∧ (∀ c ∈ body, (c != quote) = true) ∧
      body ++ [quote] <+: cs := by
  have form := spelled.form_of_prefix stands
  rw [kindOf_quote quoted] at form
  obtain ⟨d, body, rfl, inside⟩ := form
  obtain ⟨rfl, behind⟩ := List.cons_prefix_cons.1 stands
  exact ⟨body, rfl, fun c mem => bne_iff_ne.2 (inside c mem), behind⟩

/-- **A text is scanned to its closing quote.** -/
theorem right_scanText {quote : Char} (quoted : quote = '"' ∨ quote = '\'') (cs : List Char) :
    (scanText quote cs).Right (quote :: cs) := by
  have run : ∀ c ∈ cs.takeWhile (· != quote), c ≠ quote := fun c mem =>
    bne_iff_ne.1 (List.mem_takeWhile_imp (p := (· != quote)) mem)
  have whole := List.takeWhile_append_dropWhile (p := (· != quote)) (l := cs)
  unfold scanText
  dsimp only
  split
  · rename_i closed
    obtain ⟨after, closing⟩ := exists_closing closed
    refine ⟨quote :: (cs.takeWhile (· != quote) ++ [quote]), by simp, .text quoted run, ?_, ?_⟩
    · refine List.cons_prefix_cons.2 ⟨rfl, after, ?_⟩
      rw [List.append_assoc, List.singleton_append, ← closing, whole]
    · intro other _ spelled stands
      obtain ⟨body, rfl, inside, behind⟩ := spelled.exists_quoted stands quoted
      obtain ⟨same, -⟩ := eq_of_run inside (bne_self_eq_false quote) behind
      rw [same]
  · rename_i unclosed
    refine ⟨quote :: cs, rfl, .unclosed quoted fun c mem => run c ?_⟩
    have same : cs.takeWhile (· != quote) = cs :=
      (List.takeWhile_prefix _).eq_of_length_le (Nat.le_of_not_lt unclosed)
    rwa [same]

/-! ### Numbers -/

section

variable {cs : List Char}

theorem length_minus (negative : Bool) : (minus negative).length = negative.toNat := by
  cases negative <;> rfl

/-- What starts like a number is written as a number of the same sign. -/
theorem Spelled.exists_number {negative : Bool} {text : List Char} {lexeme : Option Lexeme}
    (spelled : Spelled text lexeme) (stands : text <+: minus negative ++ cs)
    (digits : cs.takeWhile Decimal.isDigit ≠ []) :
    ∃ whole more, text = minus negative ++ (whole ++ more) ∧ Digits whole ∧ Fraction more ∧
      whole ++ more <+: cs := by
  obtain ⟨d, after, rfl, digit⟩ : ∃ d after, cs = d :: after ∧ Decimal.isDigit d = true := by
    cases cs with
    | nil => exact (digits rfl).elim
    | cons d after =>
      refine ⟨d, after, rfl, of_not_not fun other => digits (List.takeWhile_cons_of_neg other)⟩
  have form : Kind.number.Form text := by
    cases negative with
    | true => exact spelled.form_of_prefix (c := '-') stands
    | false =>
      rw [← kindOf_digit digit]
      exact spelled.form_of_prefix stands
  obtain ⟨negative', whole, more, rfl, number, fraction⟩ := form
  obtain ⟨e, front, rfl, digit'⟩ := number.exists_cons
  have same : negative' = negative := by
    cases negative <;> cases negative' <;> first | rfl | skip
    · exact (isDigit_ne_minus digit (List.cons_prefix_cons.1 stands).1.symm).elim
    · exact (isDigit_ne_minus digit' (List.cons_prefix_cons.1 stands).1).elim
  subst same
  exact ⟨e :: front, more, rfl, number, fraction, (List.prefix_append_right_inj _).1 stands⟩

/-- **Digits without a fraction behind them** are the longest number. -/
theorem longest_whole (negative : Bool) (digits : cs.takeWhile Decimal.isDigit ≠ [])
    (alone : ∀ after, cs.dropWhile Decimal.isDigit = '.' :: after → after.takeWhile Decimal.isDigit = []) :
    Longest (minus negative ++ cs) (minus negative ++ cs.takeWhile Decimal.isDigit)
      ((Decimal.readInt? (minus negative ++ cs.takeWhile Decimal.isDigit)).map .int) := by
  have number : Digits (cs.takeWhile Decimal.isDigit) := ⟨digits, fun _ => List.mem_takeWhile_imp⟩
  refine ⟨.whole negative number, (List.prefix_append_right_inj _).2 (List.takeWhile_prefix _), ?_⟩
  intro other _ spelled stands
  obtain ⟨whole, more, rfl, front, fraction, behind⟩ := spelled.exists_number stands digits
  suffices inside : (whole ++ more).length ≤ (cs.takeWhile Decimal.isDigit).length by
    simpa only [List.length_append, Nat.add_le_add_iff_left] using inside
  rcases fraction with rfl | ⟨places, rfl, back⟩
  · rw [List.append_nil] at behind ⊢
    exact length_le_of_run front.all behind
  · obtain ⟨-, after, point⟩ := eq_of_run front.all (c := '.') rfl behind
    have none := alone _ point
    rw [List.takeWhile_append_of_pos back.all] at none
    exact (back.nonempty (List.append_eq_nil_iff.1 none).1).elim

/-- **Digits with a fraction behind them** are the longest number together with all of it. -/
theorem longest_double (negative : Bool) (digits : cs.takeWhile Decimal.isDigit ≠ []) {after : List Char}
    (point : cs.dropWhile Decimal.isDigit = '.' :: after) (places : after.takeWhile Decimal.isDigit ≠ []) :
    Longest (minus negative ++ cs)
      (minus negative ++ (cs.takeWhile Decimal.isDigit ++ '.' :: after.takeWhile Decimal.isDigit))
      (some (.float (Decimal.nearest negative
        (Decimal.digitsValue (cs.takeWhile Decimal.isDigit ++ after.takeWhile Decimal.isDigit))
        (-(after.takeWhile Decimal.isDigit).length)))) := by
  have number : Digits (cs.takeWhile Decimal.isDigit) := ⟨digits, fun _ => List.mem_takeWhile_imp⟩
  have fraction : Digits (after.takeWhile Decimal.isDigit) := ⟨places, fun _ => List.mem_takeWhile_imp⟩
  have spelled := Spelled.double negative number fraction
  rw [number.readFloat? fraction, Option.map_some] at spelled
  refine ⟨spelled, (List.prefix_append_right_inj _).2 ⟨after.dropWhile Decimal.isDigit, ?_⟩, ?_⟩
  · rw [List.append_assoc, List.cons_append, List.takeWhile_append_dropWhile, ← point,
      List.takeWhile_append_dropWhile]
  · intro other _ spelled stands
    obtain ⟨whole, more, rfl, front, fraction, behind⟩ := spelled.exists_number stands digits
    suffices inside : (whole ++ more).length ≤
        (cs.takeWhile Decimal.isDigit ++ '.' :: after.takeWhile Decimal.isDigit).length by
      simpa only [List.length_append, Nat.add_le_add_iff_left] using inside
    rcases fraction with rfl | ⟨places', rfl, back⟩
    · rw [List.append_nil] at behind ⊢
      rw [List.length_append]
      exact Nat.le_add_right_of_le (length_le_of_run front.all behind)
    · obtain ⟨same, more, point'⟩ := eq_of_run front.all (c := '.') rfl behind
      obtain ⟨-, rfl⟩ := List.cons.inj (point.symm.trans point')
      have inside := length_le_of_run back.all (List.prefix_append places' more)
      rw [same, List.length_append, List.length_append, List.length_cons, List.length_cons]
      omega

/-- A number without a fraction is scanned to its last digit, and refused if it is too large. -/
theorem right_whole (negative : Bool) (digits : cs.takeWhile Decimal.isDigit ≠ [])
    (alone : ∀ after, cs.dropWhile Decimal.isDigit = '.' :: after → after.takeWhile Decimal.isDigit = []) :
    (match Decimal.word? (Decimal.signed negative (cs.takeWhile Decimal.isDigit)) with
      | some n => Scanned.lexeme (.int n) ((cs.takeWhile Decimal.isDigit).length + negative.toNat)
      | none => .refused ((cs.takeWhile Decimal.isDigit).length + negative.toNat)).Right
        (minus negative ++ cs) := by
  have number : Digits (cs.takeWhile Decimal.isDigit) := ⟨digits, fun _ => List.mem_takeWhile_imp⟩
  have longest := longest_whole negative digits alone
  have size : (cs.takeWhile Decimal.isDigit).length + negative.toNat =
      (minus negative ++ cs.takeWhile Decimal.isDigit).length := by
    rw [List.length_append, length_minus, Nat.add_comm]
  rw [← number.readInt?]
  split
  · rename_i n fits
    rw [fits] at longest
    exact ⟨_, size, longest⟩
  · rename_i large
    have parts : minus negative ++ cs.takeWhile Decimal.isDigit ++ cs.dropWhile Decimal.isDigit =
        minus negative ++ cs := by
      rw [List.append_assoc, List.takeWhile_append_dropWhile]
    rw [large, ← parts] at longest
    rw [← parts]
    exact ⟨_, size, .outOfRange negative number large longest⟩

/-- **A number is scanned to its last digit.** -/
theorem right_scanNumber (negative : Bool) (digits : cs.takeWhile Decimal.isDigit ≠ []) :
    (scanNumber negative cs).Right (minus negative ++ cs) := by
  unfold scanNumber
  dsimp only
  split
  · rename_i after point
    split
    · rename_i empty
      refine right_whole negative digits fun after' point' => ?_
      obtain ⟨-, rfl⟩ := List.cons.inj (point.symm.trans point')
      exact List.isEmpty_iff.1 empty
    · rename_i places
      refine ⟨_, ?_, longest_double negative digits point fun empty => places (List.isEmpty_iff.2 empty)⟩
      rw [List.length_append, length_minus, List.length_append, List.length_cons]
      omega
  · rename_i no_point
    exact right_whole negative digits fun after point => (no_point after point).elim

end

/-! ### Signs -/

/-- **The sign that is found** is the first in the list that stands there. -/
theorem scan_sign {c : Char} (kind : kindOf c = .sign) (cs : List Char) :
    scan c cs = match signs.find? fun entry => entry.1.toList.isPrefixOf (c :: cs) with
      | some entry => .lexeme entry.2 entry.1.toList.length
      | none => .refused 1 := by
  have no_name : ¬isNameStart c = true := fun start => by
    rw [kindOf, if_pos start] at kind
    cases kind
  have no_digit : ¬Decimal.isDigit c = true := fun digit => by
    rw [kindOf_digit digit] at kind
    cases kind
  unfold scan
  rw [if_neg no_name, if_neg no_digit]
  split
  -- A minus and the quotes start no sign; then come the signs of two characters, `<` and `>` with
  -- nothing that goes on behind them, the other signs of one character, and what starts none.
  · cases kind
  · cases kind
  · cases kind
  iterate 5 rfl
  · rename_i no_gt no_eq
    cases cs with
    | nil => rfl
    | cons d cs =>
      have gt : ('>' == d) = false := beq_eq_false_iff_ne.2 fun same => no_gt cs (by rw [same])
      have eq : ('=' == d) = false := beq_eq_false_iff_ne.2 fun same => no_eq cs (by rw [same])
      simp [signs, List.isPrefixOf, gt, eq]
  · rename_i no_eq
    cases cs with
    | nil => rfl
    | cons d cs =>
      have eq : ('=' == d) = false := beq_eq_false_iff_ne.2 fun same => no_eq cs (by rw [same])
      simp [signs, List.isPrefixOf, eq]
  iterate 6 rfl
  · rename_i _ _ lt gt pipe colon comma dot opens closes _ eq ne _ _ _
    have none : signs.find? (fun entry => entry.1.toList.isPrefixOf (c :: cs)) = none := by
      refine List.find?_eq_none.2 fun entry mem stands => ?_
      obtain ⟨tail, same⟩ := List.isPrefixOf_iff_prefix.1 stands
      simp only [signs, List.mem_cons, List.not_mem_nil, or_false] at mem
      rcases mem with rfl | rfl | rfl | rfl | rfl | rfl | rfl | rfl | rfl | rfl | rfl | rfl | rfl
      · obtain ⟨own, more⟩ := List.cons.inj same
        exact eq _ own.symm more.symm
      · obtain ⟨own, more⟩ := List.cons.inj same
        exact ne _ own.symm more.symm
      · exact lt (List.cons.inj same).1.symm
      · exact lt (List.cons.inj same).1.symm
      · exact gt (List.cons.inj same).1.symm
      · exact lt (List.cons.inj same).1.symm
      · exact gt (List.cons.inj same).1.symm
      · exact pipe (List.cons.inj same).1.symm
      · exact colon (List.cons.inj same).1.symm
      · exact comma (List.cons.inj same).1.symm
      · exact dot (List.cons.inj same).1.symm
      · exact opens (List.cons.inj same).1.symm
      · exact closes (List.cons.inj same).1.symm
    rw [none]

/-- **A sign is scanned whole:** signs of two characters come before those of one, so the first that
stands there is the longest. -/
theorem right_sign {c : Char} (kind : kindOf c = .sign) (cs : List Char) :
    (scan c cs).Right (c :: cs) := by
  have ordered : signs.Pairwise fun one next => next.1.toList.length ≤ one.1.toList.length := by decide
  have form : ∀ {text lexeme}, Spelled text lexeme → text <+: c :: cs →
      ∃ entry ∈ signs, text = entry.1.toList := fun spelled stands => by
    have form := spelled.form_of_prefix stands
    rwa [kind] at form
  rw [scan_sign kind]
  split
  · rename_i entry found
    obtain ⟨stands, before, after, whole, earlier⟩ := List.find?_eq_some_iff_append.1 found
    refine ⟨_, rfl, .sign (List.mem_of_find?_eq_some found), List.isPrefixOf_iff_prefix.1 stands, ?_⟩
    intro other _ spelled stands'
    obtain ⟨entry', mem, rfl⟩ := form spelled stands'
    rw [whole] at mem ordered
    rcases List.mem_append.1 mem with mem | mem
    · have none := earlier entry' mem
      rw [List.isPrefixOf_iff_prefix.2 stands'] at none
      cases none
    · rcases List.mem_cons.1 mem with rfl | mem
      · exact Nat.le_refl _
      · exact (List.pairwise_cons.1 (List.pairwise_append.1 ordered).2.1).1 entry' mem
  · rename_i none
    refine ⟨[c], rfl, .foreign fun text lexeme spelled stands => ?_⟩
    obtain ⟨entry, mem, rfl⟩ := form spelled stands
    exact List.find?_eq_none.1 none entry mem (List.isPrefixOf_iff_prefix.2 stands)

/-! ### Every lexeme -/

/-- A minus without a digit behind it starts no lexeme. -/
theorem blocked_minus {cs : List Char} (alone : ∀ d ∈ cs.head?, Decimal.isDigit d = false) :
    Blocked ('-' :: cs) ['-'] := by
  refine .foreign fun text lexeme spelled stands => ?_
  obtain ⟨negative, whole, more, rfl, number, -⟩ : Kind.number.Form text :=
    spelled.form_of_prefix (c := '-') stands
  obtain ⟨d, front, rfl, digit⟩ := number.exists_cons
  cases negative with
  | false => exact isDigit_ne_minus digit (List.cons_prefix_cons.1 stands).1
  | true =>
    obtain ⟨rest, rfl⟩ := (List.cons_prefix_cons.1 stands).2
    exact Bool.eq_false_iff.1 (alone d rfl) digit

/-- **At every place the longest lexeme is found,** or what cannot be taken is refused. -/
theorem right_scan (c : Char) (cs : List Char) : (scan c cs).Right (c :: cs) := by
  by_cases start : isNameStart c = true
  · unfold scan
    rw [if_pos start]
    exact right_scanWord start cs
  by_cases digit : Decimal.isDigit c = true
  · unfold scan
    rw [if_neg start, if_pos digit]
    refine right_scanNumber false ?_
    rw [List.takeWhile_cons_of_pos digit]
    exact List.cons_ne_nil _ _
  by_cases sign : c = '-'
  · subst sign
    cases cs with
    | nil => exact ⟨['-'], rfl, blocked_minus fun _ none => nomatch none⟩
    | cons d cs =>
      by_cases digit : Decimal.isDigit d = true
      · have scanned : scan '-' (d :: cs) = scanNumber true (d :: cs) := if_pos digit
        rw [scanned]
        refine right_scanNumber true ?_
        rw [List.takeWhile_cons_of_pos digit]
        exact List.cons_ne_nil _ _
      · have scanned : scan '-' (d :: cs) = .refused 1 := if_neg digit
        rw [scanned]
        refine ⟨['-'], rfl, blocked_minus fun e first => ?_⟩
        rw [← Option.some.inj first]
        exact Bool.eq_false_iff.2 digit
  by_cases quoted : c = '"' ∨ c = '\''
  · have scanned : scan c cs = scanText c cs := by rcases quoted with rfl | rfl <;> rfl
    rw [scanned]
    exact right_scanText quoted cs
  · refine right_sign ?_ cs
    rw [kindOf, if_neg start, if_neg (by simp [digit, sign]), if_neg (by simpa using quoted)]

/-- **The longest lexeme is what the scan finds.** -/
theorem scan_eq_iff {c : Char} {cs : List Char} {lexeme : Lexeme} {length : Nat} :
    scan c cs = .lexeme lexeme length ↔
      ∃ text, length = text.length ∧ Longest (c :: cs) text (some lexeme) := by
  have right := right_scan c cs
  constructor
  · intro scanned
    rwa [scanned] at right
  · rintro ⟨text, rfl, longest⟩
    cases scanned : scan c cs with
    | lexeme found length =>
      rw [scanned] at right
      obtain ⟨text', rfl, longest'⟩ := right
      obtain ⟨rfl, same⟩ := longest.unique longest'
      rw [Option.some.inj same]
    | refused length =>
      rw [scanned] at right
      obtain ⟨part, -, blocked⟩ := right
      exact (blocked.not_longest lexeme longest).elim

end Markup
end MailMerge
