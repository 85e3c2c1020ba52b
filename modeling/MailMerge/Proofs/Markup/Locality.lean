/-
# A lexeme is decided by its own characters

Where a lexeme is found, the characters behind it only say that it does not go on. Cut off behind
the lexeme and followed by a gap or by nothing, the same characters are the same lexeme
(`scan_local`):

| lexeme | ends |
| --- | --- |
| name, keyword | before the first character that no name goes on with, or behind a question mark |
| whole number | before the first character that is no digit |
| double | before the first character behind the point that is no digit |
| text | behind its closing quote |
| sign | behind its one or two characters |

So whatever lexemes are found in markups can be written one after the other with gaps between
them, and the markup that results has these lexemes (`exists_markup`).
-/

import MailMerge.Proofs.Markup.Lexing

namespace MailMerge
namespace Markup

open Text (byteSize)

/-! ### Runs of characters -/

/-- **A break:** nothing, or a gap and more. -/
def Breaks (rest : List Char) : Prop := ∀ c ∈ rest.head?, isGap c = true

theorem breaks_cons {c : Char} (gap : isGap c = true) (cs : List Char) : Breaks (c :: cs) := by
  rintro _ h
  obtain rfl := Option.some.inj h
  exact gap

theorem Breaks.cases {rest : List Char} (h : Breaks rest) :
    rest = [] ∨ ∃ more, rest = ' ' :: more ∨ rest = '\t' :: more ∨ rest = '\r' :: more ∨
      rest = '\n' :: more := by
  cases rest with
  | nil => exact .inl rfl
  | cons c more =>
    rcases isGap_iff.1 (h c rfl) with rfl | rfl | rfl | rfl <;> simp

section

variable {p : Char → Bool} {run cs rest : List Char}

/-- **A run ends where a character of another kind follows.** -/
theorem span_run (all : ∀ c ∈ run, p c = true) (stops : ∀ c ∈ rest.head?, p c = false) :
    (run ++ rest).takeWhile p = run ∧ (run ++ rest).dropWhile p = rest := by
  rw [List.takeWhile_append_of_pos all, List.dropWhile_append_of_pos all]
  cases rest with
  | nil => exact ⟨List.append_nil _, rfl⟩
  | cons c rest =>
    have stop : ¬p c = true := Bool.eq_false_iff.1 (stops c rfl)
    rw [List.takeWhile_cons_of_neg stop, List.dropWhile_cons_of_neg stop]
    exact ⟨List.append_nil _, rfl⟩

/-- A run ends in front of a character that is not in it. -/
theorem span_run_cons (all : ∀ c ∈ run, p c = true) {c : Char} (stop : p c = false) (rest : List Char) :
    (run ++ c :: rest).takeWhile p = run ∧ (run ++ c :: rest).dropWhile p = c :: rest := by
  refine span_run all fun d mem => ?_
  rwa [← Option.some.inj mem]

/-- A run of characters that are no gaps ends at a break. -/
theorem span_run_breaks (solid : ∀ c, p c = true → isGap c = false) (all : ∀ c ∈ run, p c = true)
    (breaks : Breaks rest) : (run ++ rest).takeWhile p = run ∧ (run ++ rest).dropWhile p = rest := by
  refine span_run all fun c mem => Bool.eq_false_iff.2 fun goes => ?_
  exact Bool.eq_false_iff.1 (solid c goes) (breaks c mem)

theorem take_span (n : Nat) :
    cs.take ((cs.takeWhile p).length + n) = cs.takeWhile p ++ (cs.dropWhile p).take n := by
  have whole := List.takeWhile_append_dropWhile (p := p) (l := cs)
  generalize cs.takeWhile p = front, cs.dropWhile p = back at *
  rw [← whole, List.take_append, List.take_of_length_le (Nat.le_add_right _ _),
    Nat.add_sub_cancel_left]

end

/-! ### One lexeme -/

section

variable {lexeme : Lexeme} {length : Nat} {cs rest : List Char}

theorem scanWord_local {c : Char} (breaks : Breaks rest) (h : scanWord c cs = .lexeme lexeme length) :
    scanWord c (cs.take (length - 1) ++ rest) = .lexeme lexeme length := by
  have word : ∀ d ∈ cs.takeWhile isNameChar, isNameChar d = true := fun _ => List.mem_takeWhile_imp
  unfold scanWord at h
  dsimp only at h
  split at h
  · rename_i after question
    obtain ⟨rfl, rfl⟩ := Scanned.lexeme.inj h
    have stop : isNameChar '?' = false := rfl
    have run := span_run_cons word stop rest
    rw [List.length_cons, Nat.add_sub_cancel, take_span, question, List.take_succ_cons, List.take_zero,
      List.append_assoc]
    unfold scanWord
    rw [List.singleton_append, run.1, run.2]
    rfl
  · obtain ⟨rfl, rfl⟩ := Scanned.lexeme.inj h
    have run := span_run_breaks (fun _ => isGap_of_isNameChar) word breaks
    rw [List.length_cons, Nat.add_sub_cancel, ← Nat.add_zero (List.length _), take_span, List.take_zero,
      List.append_nil]
    unfold scanWord
    rw [run.1, run.2]
    rcases breaks.cases with rfl | ⟨more, rfl | rfl | rfl | rfl⟩ <;> rfl

/-- Where not all of a text is inside of a quote, the quote is next. -/
theorem exists_closing {quote : Char} (closed : (cs.takeWhile (· != quote)).length < cs.length) :
    ∃ after, cs.dropWhile (· != quote) = quote :: after := by
  have whole := List.takeWhile_append_dropWhile (p := (· != quote)) (l := cs)
  have head := List.head?_dropWhile_not (· != quote) cs
  cases behind : cs.dropWhile (· != quote) with
  | nil =>
    rw [behind, List.append_nil] at whole
    rw [whole] at closed
    exact absurd closed (Nat.lt_irrefl _)
  | cons d after =>
    rw [behind] at head
    obtain rfl : d = quote := by simpa using head
    exact ⟨after, rfl⟩

theorem scanText_local {quote : Char} (h : scanText quote cs = .lexeme lexeme length) :
    scanText quote (cs.take (length - 1) ++ rest) = .lexeme lexeme length := by
  have inside : ∀ d ∈ cs.takeWhile (· != quote), (d != quote) = true := fun _ => List.mem_takeWhile_imp
  unfold scanText at h
  dsimp only at h
  split at h
  · rename_i closed
    obtain ⟨rfl, rfl⟩ := Scanned.lexeme.inj h
    obtain ⟨after, closing⟩ := exists_closing closed
    have stop : (quote != quote) = false := bne_self_eq_false _
    have run := span_run_cons inside stop rest
    rw [Nat.add_succ_sub_one, take_span, closing, List.take_succ_cons, List.take_zero, List.append_assoc,
      List.singleton_append]
    unfold scanText
    rw [run.1]
    exact if_pos (by simp)
  · cases h

/-- Digits at a break are a whole number. -/
theorem scanNumber_whole {negative : Bool} {digits : List Char} {n : Int64}
    (all : ∀ d ∈ digits, Decimal.isDigit d = true) (breaks : Breaks rest)
    (fits : Decimal.word? (Decimal.signed negative digits) = some n) :
    scanNumber negative (digits ++ rest) = .lexeme (.int n) (digits.length + negative.toNat) := by
  have run := span_run_breaks (fun _ => isGap_of_isDigit) all breaks
  unfold scanNumber
  rw [run.1, run.2]
  simp only [fits]
  rcases breaks.cases with rfl | ⟨more, rfl | rfl | rfl | rfl⟩ <;> rfl

/-- **The numbers that are read:** a whole number, or a double with at least one digit after its
point. -/
theorem scanNumber_cases {negative : Bool} (h : scanNumber negative cs = .lexeme lexeme length) :
    let whole := cs.takeWhile Decimal.isDigit
    (∃ n, Decimal.word? (Decimal.signed negative whole) = some n ∧ lexeme = .int n ∧
        length = whole.length + negative.toNat) ∨
      ∃ after, cs.dropWhile Decimal.isDigit = '.' :: after ∧
        (after.takeWhile Decimal.isDigit).isEmpty = false ∧
        lexeme = .float (Decimal.nearest negative
          (Decimal.digitsValue (whole ++ after.takeWhile Decimal.isDigit))
          (-(after.takeWhile Decimal.isDigit).length)) ∧
        length = whole.length + negative.toNat + 1 + (after.takeWhile Decimal.isDigit).length := by
  unfold scanNumber at h
  dsimp only at h
  split at h
  · rename_i after point
    split at h
    · split at h
      · rename_i n fits
        obtain ⟨rfl, rfl⟩ := Scanned.lexeme.inj h
        exact .inl ⟨n, fits, rfl, rfl⟩
      · cases h
    · rename_i fraction
      obtain ⟨rfl, rfl⟩ := Scanned.lexeme.inj h
      exact .inr ⟨after, point, Bool.eq_false_iff.2 fraction, rfl, rfl⟩
  · split at h
    · rename_i n fits
      obtain ⟨rfl, rfl⟩ := Scanned.lexeme.inj h
      exact .inl ⟨n, fits, rfl, rfl⟩
    · cases h

theorem scanNumber_local {negative : Bool} (breaks : Breaks rest)
    (h : scanNumber negative cs = .lexeme lexeme length) :
    scanNumber negative (cs.take (length - negative.toNat) ++ rest) = .lexeme lexeme length := by
  have digits : ∀ d ∈ cs.takeWhile Decimal.isDigit, Decimal.isDigit d = true :=
    fun _ => List.mem_takeWhile_imp
  rcases scanNumber_cases h with ⟨n, fits, rfl, rfl⟩ | ⟨after, point, fraction, rfl, rfl⟩
  · rw [Nat.add_sub_cancel, ← Nat.add_zero (List.length _), take_span, List.take_zero, List.append_nil,
      Nat.add_zero]
    exact scanNumber_whole digits breaks fits
  · have places : ∀ d ∈ after.takeWhile Decimal.isDigit, Decimal.isDigit d = true :=
      fun _ => List.mem_takeWhile_imp
    have stop : Decimal.isDigit '.' = false := rfl
    have first := span_run_cons digits stop (after.takeWhile Decimal.isDigit ++ rest)
    have second := span_run_breaks (fun _ => isGap_of_isDigit) places breaks
    have taken : (cs.takeWhile Decimal.isDigit).length + negative.toNat + 1 +
        (after.takeWhile Decimal.isDigit).length - negative.toNat =
          (cs.takeWhile Decimal.isDigit).length + ((after.takeWhile Decimal.isDigit).length + 1) := by
      omega
    rw [taken, take_span, point, List.take_succ_cons, ← Nat.add_zero (List.length _), take_span,
      List.take_zero, List.append_nil, List.append_assoc, List.cons_append]
    unfold scanNumber
    rw [first.1, first.2]
    simp only [second.1, fraction, Nat.add_zero]
    rfl

theorem length_scanNumber {negative : Bool} (h : scanNumber negative cs = .lexeme lexeme length) :
    (cs.takeWhile Decimal.isDigit).length + negative.toNat ≤ length := by
  rcases scanNumber_cases h with ⟨n, -, -, rfl⟩ | ⟨after, -, -, -, rfl⟩
  · exact Nat.le_refl _
  · rw [Nat.add_assoc]
    exact Nat.le_add_right _ _

/-- **A lexeme is decided by its own characters:** cut off behind it, and followed by a gap or by
nothing, it is the same lexeme. -/
theorem scan_local {c : Char} (solid : isGap c = false) (breaks : Breaks rest)
    (h : scan c cs = .lexeme lexeme length) :
    scan c (cs.take (length - 1) ++ rest) = .lexeme lexeme length := by
  have stands := stands_scan solid cs
  rw [h] at stands
  obtain ⟨front, last, after, whole, rfl, -⟩ := stands
  rw [Nat.add_sub_cancel]
  unfold scan at h ⊢
  split at h
  · rename_i start
    rw [if_pos start]
    exact scanWord_local breaks h
  · rename_i noName
    rw [if_neg noName]
    split at h
    · rename_i digit
      rw [if_pos digit]
      exact scanNumber_local breaks h
    · rename_i noDigit
      rw [if_neg noDigit]
      split at h
      · split at h
        · rename_i d cs digit
          have number := scanNumber_local breaks h
          have size := length_scanNumber h
          rw [List.takeWhile_cons_of_pos digit, List.length_cons, Bool.toNat_true] at size
          obtain ⟨more, within⟩ := Nat.exists_eq_succ_of_ne_zero (n := front.length) (by omega)
          rw [Bool.toNat_true, Nat.add_sub_cancel, within, List.take_succ_cons, List.cons_append] at number
          simp only [within, List.take_succ_cons, List.cons_append, digit, if_true]
          exact number
        · cases h
      · exact scanText_local h
      · exact scanText_local h
      iterate 5
        obtain ⟨rfl, same⟩ := Scanned.lexeme.inj h
        simp only [← Nat.succ.inj same, List.take_succ_cons, List.take_zero, List.cons_append,
          List.nil_append]
      iterate 2
        obtain ⟨rfl, same⟩ := Scanned.lexeme.inj h
        simp only [← Nat.succ.inj same, List.take_zero, List.nil_append]
        rcases breaks.cases with rfl | ⟨more, rfl | rfl | rfl | rfl⟩ <;> rfl
      iterate 6
        obtain ⟨rfl, same⟩ := Scanned.lexeme.inj h
        simp only [← Nat.succ.inj same]
      · cases h

end

/-! ### Writing lexemes down -/

/-- **A lexeme that can be written:** some characters are it wherever a gap follows them. -/
def Lexeme.Writable (lexeme : Lexeme) : Prop :=
  ∃ c body, isGap c = false ∧ ∀ more, scan c (body ++ ' ' :: more) = .lexeme lexeme (body.length + 1)

theorem writable_of_scan {c : Char} {cs : List Char} {lexeme : Lexeme} {length : Nat}
    (solid : isGap c = false) (h : scan c cs = .lexeme lexeme length) : lexeme.Writable := by
  have stands := stands_scan solid cs
  rw [h] at stands
  obtain ⟨front, last, after, whole, rfl, -⟩ := stands
  have inside : front.length ≤ cs.length := by
    have lengths := congrArg List.length whole
    rw [List.length_cons, List.length_append, List.length_cons] at lengths
    omega
  refine ⟨c, cs.take front.length, solid, fun more => ?_⟩
  rw [List.length_take_of_le inside]
  exact scan_local solid (breaks_cons (by decide) more) h

/-- **The lexemes of a text can be written.** -/
theorem writable_of_lexFrom {place skip : Nat} {cs : List Char} {placed : List Placed}
    (h : lexFrom place skip cs = .ok placed) : ∀ one ∈ placed, one.lexeme.Writable := by
  induction cs generalizing place skip placed with
  | nil =>
    obtain rfl := Except.ok.inj h
    exact fun _ mem => (List.not_mem_nil mem).elim
  | cons c cs ih =>
    cases skip with
    | succ skip => exact ih h
    | zero =>
      simp only [lexFrom] at h
      split at h
      · exact ih h
      · rename_i solid
        split at h
        · cases h
        · rename_i scanned
          split at h
          · cases h
          · rename_i found
            obtain rfl := Except.ok.inj h
            exact List.forall_mem_cons.2
              ⟨writable_of_scan (Bool.eq_false_iff.2 solid) scanned, ih found⟩

/-- Characters that have been taken already are passed over. -/
theorem lexFrom_passed (place : Nat) (front cs : List Char) :
    lexFrom place front.length (front ++ cs) = lexFrom (place + byteSize front) 0 cs := by
  induction front generalizing place with
  | nil => rfl
  | cons c front ih =>
    rw [List.length_cons, List.cons_append, lexFrom, ih, Nat.add_assoc]
    rfl

/-- **Lexemes that can be written are those of a markup.** -/
theorem exists_markup {lexemes : List Lexeme} (writable : ∀ lexeme ∈ lexemes, lexeme.Writable) :
    ∃ markup placed, lex markup = .ok placed ∧ placed.map (·.lexeme) = lexemes := by
  have text : ∃ cs, ∀ place, ∃ placed, lexFrom place 0 cs = .ok placed ∧
      placed.map (·.lexeme) = lexemes := by
    induction lexemes with
    | nil => exact ⟨[], fun _ => ⟨[], rfl, rfl⟩⟩
    | cons lexeme lexemes ih =>
      obtain ⟨⟨c, body, solid, scanned⟩, others⟩ := List.forall_mem_cons.1 writable
      obtain ⟨cs, lexed⟩ := ih others
      refine ⟨c :: (body ++ ' ' :: cs), fun place => ?_⟩
      obtain ⟨placed, read, same⟩ := lexed (place + c.utf8Size + byteSize body + ' '.utf8Size)
      have gap : lexFrom (place + c.utf8Size + byteSize body) 0 (' ' :: cs) = .ok placed := read
      rw [lexFrom, if_neg (Bool.eq_false_iff.1 solid), scanned]
      simp only [Nat.add_sub_cancel, lexFrom_passed, gap]
      exact ⟨_, rfl, congrArg _ same⟩
  obtain ⟨cs, lexed⟩ := text
  obtain ⟨placed, read, same⟩ := lexed 0
  exact ⟨String.ofList cs, placed, by rw [lex, String.toList_ofList, read], same⟩

end Markup
end MailMerge
